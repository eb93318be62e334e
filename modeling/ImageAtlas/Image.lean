import ImageAtlas.Fault

/-!
# Images

An image is a fixed row of bytes. Single bytes are found by an address from
zero on; slices follow the convention that a negative bound counts from the
end and that bounds beyond an end stop there.
-/

namespace ImageAtlas

/-- The bytes of an image. -/
abbrev Image := Array UInt8

namespace Image

/-- An image from byte values, or an overflow when one of them is no byte. -/
def ofValues (values : List Int) : Except Fault Image :=
  if values.all fun value => 0 ≤ value && value < 256 then
    .ok (values.map fun value => UInt8.ofNat value.toNat).toArray
  else .error .overflow

/-- An image from words of 64 bits with a sign, each taken modulo 256, or an
overflow when one of the numbers is no such word. -/
def wrapping (values : List Int) : Except Fault Image :=
  if values.all fun value => -wordBound ≤ value && value < wordBound then
    .ok (values.map fun value => UInt8.ofNat (value.emod 256).toNat).toArray
  else .error .overflow

/-- The byte at an address. -/
def byteAt (image : Image) (address : Int) : Except Fault UInt8 :=
  if 0 ≤ address then
    match image[address.toNat]? with
    | some byte => .ok byte
    | none => .error (.outsideImage address image.size)
  else .error (.outsideImage address image.size)

/-- The byte at an index; a negative index counts from the end. -/
def cyclic? (image : Image) (index : Int) : Option UInt8 :=
  if 0 ≤ index then image[index.toNat]?
  else if 0 ≤ image.size + index then image[(image.size + index).toNat]?
  else none

/-- The position that a slice bound stands for in a row of `size` bytes. -/
def boundIn (size : Nat) (index : Int) : Nat :=
  min (if index < 0 then size + index else index).toNat size

/-- The position that a slice bound stands for. -/
def bound (image : Image) (index : Int) : Nat :=
  boundIn image.size index

/-- The bytes from one bound to before another. -/
def slice (image : Image) (first last : Int) : Image :=
  image.extract (image.bound first) (image.bound last)

/-- How many of `length` consecutive indexes from `address` on the image has.
Indexes below zero count from the end, so they may run from the last bytes into
the first ones; the first index has to exist. -/
def reach (image : Image) (address length : Int) : Except Fault Nat :=
  let stop := min (address + length) image.size
  if stop ≤ address then .ok 0
  else if 0 ≤ address then .ok (stop - address).toNat
  else if address < -wordBound then .error .indexTooLarge
  else if image.size + address < 0 then .error (.indexOutOfBounds address image.size)
  else .ok (stop - address).toNat

/-- The bytes at `length` consecutive indexes from `address` on, as far as the
image goes. -/
def window (image : Image) (address length : Int) : Except Fault (List UInt8) :=
  match image.reach address length with
  | .error fault => .error fault
  | .ok count =>
      if 0 ≤ address then
        .ok (image.extract address.toNat (address.toNat + count)).toList
      else
        let first := (image.size + address).toNat
        let fromEnd := image.extract first (first + count)
        .ok (fromEnd ++ image.extract 0 (count - fromEnd.size)).toList

/-- The number that bytes stand for, the least significant first. -/
def littleEndian : List UInt8 → Nat
  | [] => 0
  | byte :: rest => byte.toNat + 0x100 * littleEndian rest

/-- The image up to the end of its last whole word of four bytes. -/
def wholeWords (image : Image) : Image :=
  image.extract 0 (image.size - image.size % 4)

/-- The byte at a place, zero behind the end. -/
def byteOrZero (image : Image) (place : Nat) : Nat :=
  (image[place]?.map UInt8.toNat).getD 0

/-- The word of four bytes at a place, the least significant first. -/
def wordAt (image : Image) (place : Nat) : Nat :=
  image.byteOrZero place + 0x100 * image.byteOrZero (place + 1)
    + 0x10000 * image.byteOrZero (place + 2) + 0x1000000 * image.byteOrZero (place + 3)

/-- A run of bytes as text; bytes beyond the ASCII range become the
replacement character. -/
def ascii (image : Image) (address length : Int) : String :=
  String.ofList ((image.slice address (address + length)).toList.map fun byte =>
    if byte.toNat < 128 then Char.ofNat byte.toNat else Char.ofNat 0xFFFD)

/-- A byte of an image is never assigned. -/
def assign (_image : Image) (_address _value : Int) : Except Fault Image :=
  .error .readOnly

/-- From address zero on every index can be reached or lies behind the end. -/
theorem reach_of_nonneg (image : Image) {address : Int} (length : Int)
    (nonneg : 0 ≤ address) : ∃ count, image.reach address length = .ok count := by
  by_cases past : min (address + length) (image.size : Int) ≤ address
  · exact ⟨0, by simp [reach, past]⟩
  · exact ⟨_, by simp only [reach, past, nonneg, if_true, if_false]; rfl⟩

end Image

end ImageAtlas
