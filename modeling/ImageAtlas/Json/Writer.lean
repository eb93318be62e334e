import ImageAtlas.Decimal.Shortest
import ImageAtlas.Value.Basic

/-!
# Writing JSON

The text of a structured value in JSON: every item and entry on a line of its
own, two spaces deeper than what holds it, and nothing but ASCII. Characters
beyond the plane of 16 bits are written as two units. The values that JSON has
no number for have names. Values nested to any depth are written: a bound on how
deep calls may be nested is not modelled.
-/

namespace ImageAtlas.Json

/-- A unit of 16 bits as an escape. -/
def unitEscape (unit : Nat) : List Char :=
  '\\' :: 'u' :: Text.padded 4 ((Text.digits 16 unit).map Text.lowerDigitCharacter)

/-- A code point that is not written as itself, in one unit or in two. -/
def codeEscape (code : Nat) : List Char :=
  if code < 0x10000 then unitEscape code
  else
    let rest := code - 0x10000
    unitEscape (0xD800 + rest / 0x400) ++ unitEscape (0xDC00 + rest % 0x400)

/-- One character of a text. -/
def writeCharacter (character : Char) : List Char :=
  if character = '"' ∨ character = '\\' then ['\\', character]
  else if character = '\n' then ['\\', 'n']
  else if character = '\r' then ['\\', 'r']
  else if character = '\t' then ['\\', 't']
  else if character = '\x08' then ['\\', 'b']
  else if character = '\x0c' then ['\\', 'f']
  else if 0x20 ≤ character.toNat ∧ character.toNat ≤ 0x7E then [character]
  else codeEscape character.toNat

/-- One code point of a text. A surrogate is one unit. -/
def writeCode (code : Nat) : List Char :=
  if code.isValidChar then writeCharacter (Char.ofNat code) else codeEscape code

/-- A text between quotation marks, in front of what follows it. -/
def writeText (text : String) (behind : List Char) : List Char :=
  '"' :: text.toList.foldr (fun character rest => writeCharacter character ++ rest) ('"' :: behind)

/-- Code points, among which there may be surrogates, between quotation marks. -/
def writeCodes (codes : List Nat) (behind : List Char) : List Char :=
  '"' :: codes.foldr (fun code rest => writeCode code ++ rest) ('"' :: behind)

/-- A floating-point number. -/
def writeReal (value : Binary64) : List Char :=
  match value with
  | .nan => "NaN".toList
  | .infinite negative => (if negative then "-Infinity" else "Infinity").toList
  | value => value.shortest.toList

/-- A new line at a depth, in front of what stands on it. -/
def newLine (depth : Nat) (behind : List Char) : List Char :=
  '\n' :: Nat.repeat (' ' :: ·) (2 * depth) behind

mutual

/-- A value whose lines begin at a depth, in front of what follows it. -/
def writeAt (depth : Nat) : Value → List Char → List Char
  | .null, behind => "null".toList ++ behind
  | .bool value, behind => (if value then "true" else "false").toList ++ behind
  | .integer value, behind => (Text.decimal value).toList ++ behind
  | .real value, behind => writeReal value ++ behind
  | .text value, behind => writeText value behind
  | .unpairedText codes, behind => writeCodes codes behind
  | .moment _, behind => "null".toList ++ behind
  | .list [], behind => '[' :: ']' :: behind
  | .list (item :: rest), behind =>
      '[' :: newLine (depth + 1)
        (writeAt (depth + 1) item (writeItems (depth + 1) rest (newLine depth (']' :: behind))))
  | .table [], behind => '\x7b' :: '\x7d' :: behind
  | .table ((key, value) :: rest), behind =>
      '\x7b' :: newLine (depth + 1)
        (writeText key (':' :: ' ' :: writeAt (depth + 1) value
          (writeEntries (depth + 1) rest (newLine depth ('\x7d' :: behind)))))
  | .unpairedTable [], behind => '\x7b' :: '\x7d' :: behind
  | .unpairedTable ((key, value) :: rest), behind =>
      '\x7b' :: newLine (depth + 1)
        (writeCodes key (':' :: ' ' :: writeAt (depth + 1) value
          (writeCodeEntries (depth + 1) rest (newLine depth ('\x7d' :: behind)))))

/-- The items behind the first. -/
def writeItems (depth : Nat) : List Value → List Char → List Char
  | [], behind => behind
  | item :: rest, behind =>
      ',' :: newLine depth (writeAt depth item (writeItems depth rest behind))

/-- The entries behind the first. -/
def writeEntries (depth : Nat) : List (String × Value) → List Char → List Char
  | [], behind => behind
  | (key, value) :: rest, behind =>
      ',' :: newLine depth
        (writeText key (':' :: ' ' :: writeAt depth value (writeEntries depth rest behind)))

/-- The entries behind the first, under unpaired keys. -/
def writeCodeEntries (depth : Nat) : List (List Nat × Value) → List Char → List Char
  | [], behind => behind
  | (key, value) :: rest, behind =>
      ',' :: newLine depth
        (writeCodes key (':' :: ' ' :: writeAt depth value (writeCodeEntries depth rest behind)))

end

/-- The text of a value. -/
def write (value : Value) : String :=
  String.ofList (writeAt 0 value [])

end ImageAtlas.Json
