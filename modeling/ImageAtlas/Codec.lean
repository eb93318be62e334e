import ImageAtlas.Image

/-!
# Text cells

A text cell holds printable ASCII characters, a terminator byte and padding.
Measuring finds the extent of the text, rendering shows what stands before the
terminator, and encoding fills a cell. The characters are those from 0x20 to
0x7E; the terminator is 0xFF unless a codec says otherwise.
-/

namespace ImageAtlas

namespace AsciiText

/-- The byte that ends a text. -/
def terminator : Int := 0xFF

/-- Whether a byte value is a character. -/
def isCharacter (value : Int) : Bool :=
  0x20 ≤ value && value ≤ 0x7E

/-- The number of bytes up to and including the terminator, when only
characters stand before it, within `reach` indexes from `index` on; `before` of
them have been seen already. -/
def measureFrom (terminator : Int) (image : Image) : Nat → Int → Nat → Option Nat
  | 0, _, _ => none
  | reach + 1, index, before =>
      match image.cyclic? index with
      | none => none
      | some byte =>
          if (byte.toNat : Int) = terminator then some (before + 1)
          else if isCharacter byte.toNat then
            measureFrom terminator image reach (index + 1) (before + 1)
          else none

/-- One byte of a rendered text. -/
def renderByte (byte : UInt8) : List Char :=
  if !isCharacter byte.toNat then
    '\\' :: 'x' :: Text.padded 2 (Text.hexCharacters byte.toNat)
  else
    let character := Char.ofNat byte.toNat
    if character = '"' ∨ character = '\\' then ['\\', character] else [character]

/-- The bytes of a cell that come before its first terminator. -/
def visible (terminator : Int) (bytes : List UInt8) : List UInt8 :=
  bytes.takeWhile fun byte => (byte.toNat : Int) ≠ terminator

/-- The visible bytes of a cell between double quotation marks. -/
def renderBytes (terminator : Int) (bytes : List UInt8) : String :=
  String.ofList ('"' :: (visible terminator bytes).flatMap renderByte ++ ['"'])

/-- Why a text does not fit a cell. -/
inductive EncodeFault where
  /-- The text has a run of characters beyond the ASCII range. -/
  | beyondAscii (first : Char) (position length : Nat)
  /-- The text has an ASCII character that is not printable. -/
  | unprintable (text : String)
  /-- Text and terminator need more bytes than the cell has. -/
  | tooWide (text : String) (needed width : Int)
  /-- The terminator or the padding is no byte. -/
  | noByte
  /-- The padding is longer than an address can count. -/
  | tooLong
deriving DecidableEq, Repr

/-- What an encoding fault reports. A cell that is too long reports nothing. -/
def EncodeFault.message : EncodeFault → String
  | .beyondAscii first position length =>
      let place :=
        if length ≤ 1 then
          "character '" ++ String.ofList (Text.escapedCode first.toNat) ++ "' in position "
            ++ Text.decimal position
        else
          "characters in position " ++ Text.decimal position ++ "-"
            ++ Text.decimal (position + length - 1 : Int)
      "'ascii' codec can't encode " ++ place ++ ": ordinal not in range(128)"
  | .unprintable text => "Text contains non-printable characters: " ++ Text.quoted text
  | .tooWide text needed width =>
      "Text " ++ Text.quoted text ++ " needs " ++ Text.decimal needed ++ " bytes, cell has "
        ++ Text.decimal width
  | .noByte => "bytes must be in range(0, 256)"
  | .tooLong => ""

/-- Whether a character is in the ASCII range. -/
def isAscii (character : Char) : Bool :=
  character.toNat < 128

/-- The byte of a value, if it is one. -/
def byte? (value : Int) : Option UInt8 :=
  if 0 ≤ value ∧ value < 256 then some (UInt8.ofNat value.toNat) else none

/-- Fills a cell of `width` bytes with a text, the terminator and padding. -/
def encode (terminator : Int) (text : String) (width pad : Int) :
    Except EncodeFault (List UInt8) :=
  let characters := text.toList
  let position := (characters.takeWhile isAscii).length
  match characters.dropWhile isAscii with
  | first :: rest =>
      .error (.beyondAscii first position (1 + (rest.takeWhile fun c => !isAscii c).length))
  | [] =>
      if characters.any fun character => !isCharacter character.toNat then
        .error (.unprintable text)
      else
        let needed : Int := characters.length + 1
        if width < needed then .error (.tooWide text needed width)
        else
          match byte? terminator, byte? pad with
          | some terminatorByte, some padByte =>
              if wordBound ≤ width - needed then .error .tooLong
              else
                .ok (characters.map (fun character => UInt8.ofNat character.toNat)
                  ++ terminatorByte :: List.replicate (width - needed).toNat padByte)
          | _, _ => .error .noByte

end AsciiText

/-- How text cells are measured and where their visible part ends. Measuring
answers at every address from zero on; what it answers is left to the codec. -/
structure TextCodec where
  terminator : Int
  measure : Image → Int → Int → Except Fault (Option Int)
  measure_answers : ∀ {image : Image} {address : Int} (length : Int), 0 ≤ address →
    ∃ answer, measure image address length = .ok answer

namespace TextCodec

/-- Measures the text within at most `length` bytes at an address. -/
def measureText (terminator : Int) (image : Image) (address length : Int) :
    Except Fault (Option Int) :=
  match image.reach address length with
  | .error fault => .error fault
  | .ok reach => .ok ((AsciiText.measureFrom terminator image reach address 0).map Int.ofNat)

/-- The codec of text ended by a given byte. -/
def endedBy (terminator : Int) : TextCodec where
  terminator := terminator
  measure := measureText terminator
  measure_answers := by
    intro image address length nonneg
    obtain ⟨reach, found⟩ := image.reach_of_nonneg length nonneg
    exact ⟨_, by simp only [measureText, found]; rfl⟩

/-- The codec of ASCII text ended by 0xFF. -/
def ascii : TextCodec := endedBy AsciiText.terminator

/-- A codec whose measure is the same everywhere. -/
def constant (answer : Option Int) : TextCodec where
  terminator := AsciiText.terminator
  measure := fun _ _ _ => .ok answer
  measure_answers := fun _ _ => ⟨answer, rfl⟩

/-- The text of a cell as reports show it. -/
def render (codec : TextCodec) (image : Image) (address length : Int) : Except Fault String :=
  match image.window address length with
  | .error fault => .error fault
  | .ok bytes => .ok (AsciiText.renderBytes codec.terminator bytes)

/-- Fills a cell under this codec's terminator. -/
def encode (codec : TextCodec) (text : String) (width pad : Int) :
    Except AsciiText.EncodeFault (List UInt8) :=
  AsciiText.encode codec.terminator text width pad

end TextCodec

end ImageAtlas
