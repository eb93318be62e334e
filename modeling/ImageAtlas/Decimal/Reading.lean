import ImageAtlas.Decimal.Binary64
import ImageAtlas.Text.Numeral

/-!
# Reading floating-point numbers

A floating-point number is written with a sign, if any, digits in front of a
point or behind it or both, and a power of ten, if any. Single underscores may
stand between digits. The infinities and what is no number have names, in
letters of either case.
-/

namespace ImageAtlas.Binary64

open ImageAtlas.Text

/-- Removes the underscores of a numeral, each of which has to stand between two
digits. Whether the character in front of the numeral is a digit is given. -/
def withoutUnderscores? : Bool → List Char → Option (List Char)
  | _, [] => some []
  | _, ['_'] => none
  | behindDigit, '_' :: next :: rest =>
      if behindDigit && isAsciiDigit next then
        (withoutUnderscores? true rest).map (next :: ·)
      else none
  | _, character :: rest =>
      (withoutUnderscores? (isAsciiDigit character) rest).map (character :: ·)

/-- The power of ten at the end of a numeral: zero where nothing is left. -/
def power? : List Char → Option Int
  | [] => some 0
  | mark :: rest =>
      let (negative, digits) :=
        match rest with
        | '-' :: digits => (true, digits)
        | '+' :: digits => (false, digits)
        | _ => (false, rest)
      if (mark = 'e' ∨ mark = 'E') ∧ digits ≠ [] ∧ digits.all isAsciiDigit then
        let amount : Int := decimalValue digits
        some (if negative then -amount else amount)
      else none

/-- The number of a numeral without a sign. -/
def ofDigits? (negative : Bool) (characters : List Char) : Option Binary64 :=
  let whole := characters.takeWhile isAsciiDigit
  let (fraction, rest) :=
    match characters.dropWhile isAsciiDigit with
    | '.' :: behind => (behind.takeWhile isAsciiDigit, behind.dropWhile isAsciiDigit)
    | rest => ([], rest)
  if whole = [] ∧ fraction = [] then none
  else
    (power? rest).map fun power =>
      ofDecimal negative (decimalValue (whole ++ fraction)) (power - fraction.length)

/-- The number of a name or a numeral without a sign. -/
def ofUnsigned? (negative : Bool) (characters : List Char) : Option Binary64 :=
  match String.ofList (characters.map Char.toLower) with
  | "inf" => some (.infinite negative)
  | "infinity" => some (.infinite negative)
  | "nan" => some .nan
  | _ => ofDigits? negative characters

/-- The number that a text stands for. -/
def ofText? (text : String) : Option Binary64 :=
  match withoutUnderscores? false (plainCharacters text) with
  | some ('-' :: rest) => ofUnsigned? true rest
  | some ('+' :: rest) => ofUnsigned? false rest
  | some characters => ofUnsigned? false characters
  | none => none

end ImageAtlas.Binary64
