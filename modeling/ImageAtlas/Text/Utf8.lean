import ImageAtlas.Text.Numeral
import ImageAtlas.Text.Quoted

/-!
# Texts in UTF-8

Reads a text from its bytes. A character beyond the ASCII range is a leading
byte and one to three further bytes; the leading byte says how many, and the
range of the byte behind it keeps every character to its shortest form and out
of the surrogates.
-/

namespace ImageAtlas.Text

/-- Why bytes are no text in UTF-8. -/
inductive Utf8Cause where
  | noLeadingByte
  | noFurtherByte
  | endsEarly
deriving DecidableEq, Repr

/-- A run of bytes that is no character. -/
structure Utf8Fault where
  first : UInt8
  position : Nat
  length : Nat
  cause : Utf8Cause
deriving DecidableEq, Repr

/-- The wording of a cause. -/
def Utf8Cause.message : Utf8Cause → String
  | noLeadingByte => "invalid start byte"
  | noFurtherByte => "invalid continuation byte"
  | endsEarly => "unexpected end of data"

/-- What a fault reports. -/
def Utf8Fault.message (fault : Utf8Fault) : String :=
  let place :=
    if fault.length = 1 then
      "byte 0x"
        ++ String.ofList (padded 2 ((digits 16 fault.first.toNat).map lowerDigitCharacter))
        ++ " in position " ++ decimal fault.position
    else
      "bytes in position " ++ decimal fault.position ++ "-"
        ++ decimal (fault.position + fault.length - 1 : Nat)
  "'utf-8' codec can't decode " ++ place ++ ": " ++ fault.cause.message

/-- The ranges of the bytes that have to follow a leading byte. -/
def furtherRanges? (leading : UInt8) : Option (List (Nat × Nat)) :=
  let code := leading.toNat
  let further : Nat × Nat := (0x80, 0xBF)
  if code < 0x80 then some []
  else if code < 0xC2 then none
  else if code < 0xE0 then some [further]
  else if code = 0xE0 then some [(0xA0, 0xBF), further]
  else if code = 0xED then some [(0x80, 0x9F), further]
  else if code < 0xF0 then some [further, further]
  else if code = 0xF0 then some [(0x90, 0xBF), further, further]
  else if code < 0xF4 then some [further, further, further]
  else if code = 0xF4 then some [(0x80, 0x8F), further, further]
  else none

/-- The bytes at the front that lie in the ranges one after the other. -/
def inTurn : List (Nat × Nat) → List UInt8 → List UInt8
  | (least, greatest) :: ranges, byte :: bytes =>
      if least ≤ byte.toNat ∧ byte.toNat ≤ greatest then byte :: inTurn ranges bytes else []
  | _, _ => []

/-- The character of a leading byte and those behind it. -/
def joinedCharacter (leading : UInt8) (further : List UInt8) : Char :=
  let front :=
    match further.length with
    | 0 => leading.toNat
    | 1 => leading.toNat - 0xC0
    | 2 => leading.toNat - 0xE0
    | _ => leading.toNat - 0xF0
  Char.ofNat (further.foldl (fun code byte => 64 * code + (byte.toNat - 0x80)) front)

/-- Reads the characters of bytes that begin at a position. Every character
uses up a byte, so the number of bytes is enough fuel. -/
def utf8Characters : Nat → Nat → List UInt8 → Except Utf8Fault (List Char)
  | _, _, [] => .ok []
  | 0, _, _ => .ok []
  | fuel + 1, position, first :: rest =>
      match furtherRanges? first with
      | none => .error { first, position, length := 1, cause := .noLeadingByte }
      | some ranges =>
          let further := inTurn ranges rest
          if further.length < ranges.length then
            let cause := if further.length = rest.length then .endsEarly else .noFurtherByte
            .error { first, position, length := further.length + 1, cause }
          else
            match utf8Characters fuel (position + further.length + 1) (rest.drop further.length)
              with
            | .error fault => .error fault
            | .ok characters => .ok (joinedCharacter first further :: characters)

/-- Reads a text. -/
def readUtf8 (bytes : List UInt8) : Except Utf8Fault String :=
  (utf8Characters bytes.length 0 bytes).map String.ofList

end ImageAtlas.Text
