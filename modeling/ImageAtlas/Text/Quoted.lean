import ImageAtlas.Text.Numeral
import ImageAtlas.Text.Printable

/-!
# Quoted text

The form in which a report shows a text it received: between quotation marks,
on one line, with every character visible. Single marks are used unless the
text holds a single mark and no double one. The mark and the backslash are
escaped, tab, line feed and carriage return have letters, and any other
character that is not printable is written by its code point in two, four or
eight hexadecimal digits.
-/

namespace ImageAtlas.Text

/-- A code point in lower-case hexadecimal behind the backslash and letter
that announce its width. -/
def escapedCode (code : Nat) : List Char :=
  let shown := (digits 16 code).map lowerDigitCharacter
  if code < 0x100 then '\\' :: 'x' :: padded 2 shown
  else if code < 0x10000 then '\\' :: 'u' :: padded 4 shown
  else '\\' :: 'U' :: padded 8 shown

/-- One character of a quoted text. -/
def quotedCharacter (mark character : Char) : List Char :=
  if character = mark ∨ character = '\\' then ['\\', character]
  else if character = '\t' then ['\\', 't']
  else if character = '\n' then ['\\', 'n']
  else if character = '\r' then ['\\', 'r']
  else if isPrintable character then [character]
  else escapedCode character.toNat

/-- One code point of a quoted text. A surrogate is not printable. -/
def quotedCode (mark : Char) (code : Nat) : List Char :=
  if code.isValidChar then quotedCharacter mark (Char.ofNat code) else escapedCode code

/-- The quotation mark for a text. -/
def quotationMark (characters : List Char) : Char :=
  if '\'' ∈ characters ∧ '"' ∉ characters then '"' else '\''

/-- A text between quotation marks. -/
def quoted (text : String) : String :=
  let characters := text.toList
  let mark := quotationMark characters
  String.ofList (mark :: characters.flatMap (quotedCharacter mark) ++ [mark])

/-- Code points, among which there may be surrogates, between quotation marks. -/
def quotedCodes (codes : List Nat) : String :=
  let mark := quotationMark (codes.map Char.ofNat)
  String.ofList (mark :: codes.flatMap (quotedCode mark) ++ [mark])

end ImageAtlas.Text
