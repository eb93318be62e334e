import ImageAtlas.Codec

/-!
# Elements in an image

Whether the bytes at an address form one element of a layout, and how many
elements follow one another. A text segment matches when the codec finds its
text within the segment, the rest is padding of 0x00 and 0xFF, and the segment
is not unwritten memory, which is all 0xFF. A text that is the only segment of
its element must not be followed by 0x00: that is more likely stray text.
-/

namespace ImageAtlas

/-- The byte of unwritten memory, which also pads. -/
def fillByte : UInt8 := 0xFF

/-- The byte that pads a cell. -/
def padByte : UInt8 := 0x00

/-- Whether a text of the codec fills the bytes from `start` on that `length`
spans; `alone` says that the element has no other segment. -/
def textFits (codec : TextCodec) (image : Image) (start length : Int) (alone : Bool) :
    Except Fault Bool :=
  match codec.measure image start length with
  | .error fault => .error fault
  | .ok none => .ok false
  | .ok (some consumed) =>
      let first := image.bound start
      let last := image.bound (start + length)
      let padding := first + Image.boundIn (last - first) consumed
      .ok <|
        consumed ≤ length
          && !image.all (· == fillByte) first last
          && image.all (fun byte => byte == padByte || byte == fillByte) padding last
          && !(alone && start + length < image.size
            && image.cyclic? (start + length) == some padByte)

namespace Layout

/-- Whether the segments of a layout match one after the other from `address`
on. The first that reaches beyond the image or does not match decides. -/
def segmentsFit (codec : TextCodec) (image : Image) (alone : Bool) :
    Layout → Int → Except Fault Bool
  | [], _ => .ok true
  | segment :: rest, address =>
      if image.size < address + segment.length then .ok false
      else
        match segment.kind with
        | .unrecognised kind => .error (.noMatcher kind)
        | .delimitedText =>
            match textFits codec image address segment.length alone with
            | .error fault => .error fault
            | .ok false => .ok false
            | .ok true => segmentsFit codec image alone rest (address + segment.length)

/-- Whether the bytes at an address form one element of a layout. -/
def fits (layout : Layout) (codec : TextCodec) (image : Image) (address : Int) :
    Except Fault Bool :=
  if address < 0 then .ok false
  else segmentsFit codec image (layout.length == 1) layout address

end Layout

/-- Counts from `count` on while a test holds, at most `limit` times. -/
def countWhile (test : Nat → Except Fault Bool) : Nat → Nat → Except Fault Nat
  | 0, count => .ok count
  | limit + 1, count =>
      match test count with
      | .error fault => .error fault
      | .ok false => .ok count
      | .ok true => countWhile test limit (count + 1)

namespace Layout

/-- More elements than this cannot follow one another from an address on,
unless they have no bytes. -/
def runBound (image : Image) (address : Int) : Nat :=
  image.size + address.natAbs + 1

/-- The length of a run of elements: the first `count` at which the test
fails. A run of elements without bytes is empty or has no end. -/
def runLength (layout : Layout) (image : Image) (address : Int)
    (test : Nat → Except Fault Bool) : Except Fault Nat :=
  if layout.width = 0 then
    match test 0 with
    | .error fault => .error fault
    | .ok false => .ok 0
    | .ok true => .error .endlessRun
  else countWhile test (runBound image address) 0

/-- How many elements follow one another from an address on, up to a limit if
there is one. -/
def count (layout : Layout) (codec : TextCodec) (image : Image) (address : Int)
    (limit : Option Int) : Except Fault Nat :=
  let test (index : Nat) := layout.fits codec image (address + index * layout.width)
  match limit with
  | some limit => countWhile test limit.toNat 0
  | none => layout.runLength image address test

/-- How many elements follow one another from an address on and end at or
before `stop`. -/
def countBefore (layout : Layout) (codec : TextCodec) (image : Image) (address stop : Int) :
    Except Fault Nat :=
  layout.runLength image address fun index =>
    let start := address + index * layout.width
    if stop < start + layout.width then .ok false else layout.fits codec image start

end Layout

end ImageAtlas
