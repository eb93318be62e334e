import ImageAtlas.Decimal.Binary64
import ImageAtlas.Text.Numeral

/-!
# Shortest decimal text of a floating-point number

Of all decimals that read back as a number, the text has the fewest digits,
and of those the one nearest to the number. Numbers from 0.0001 to below 10^16
are written positionally and keep a point; others have an exponent of at least
two digits with its sign.
-/

namespace ImageAtlas.Binary64

/-- A decimal `digits * 10 ^ power`. -/
structure DecimalForm where
  digits : Nat
  power : Int
deriving DecidableEq, Repr

/-- The finite number nearest to a decimal. -/
def DecimalForm.read (form : DecimalForm) (negative : Bool) : Binary64 :=
  ofDecimal negative form.digits form.power

/-- The distance of a decimal from a quotient, as a multiple of a unit that is
the same for all decimals of one power. -/
def DecimalForm.distance (form : DecimalForm) (numerator denominator : Nat) : Nat :=
  let left := form.digits * Nat.pow 10 form.power.toNat * denominator
  let right := numerator * Nat.pow 10 (-form.power).toNat
  (left - right) + (right - left)

/-- The two decimals of a power that enclose a quotient. -/
def neighbours (numerator denominator : Nat) (power : Int) : DecimalForm × DecimalForm :=
  let below := numerator * Nat.pow 10 (-power).toNat / (denominator * Nat.pow 10 power.toNat)
  (⟨below, power⟩, ⟨below + 1, power⟩)

/-- The decimal of a power that reads back as the number and is nearest to it;
from the middle the even one. -/
def readingBack (number : Binary64) (negative : Bool) (numerator denominator : Nat)
    (power : Int) : Option DecimalForm :=
  let (below, above) := neighbours numerator denominator power
  let readsBelow := below.read negative = number
  let readsAbove := above.read negative = number
  if readsBelow ∧ readsAbove then
    let fromBelow := below.distance numerator denominator
    let fromAbove := above.distance numerator denominator
    if fromBelow < fromAbove ∨ (fromBelow = fromAbove ∧ below.digits % 2 = 0) then some below
    else some above
  else if readsBelow then some below
  else if readsAbove then some above
  else none

/-- Whether a quotient is below a power of ten. -/
def isBelowPower (numerator denominator : Nat) (power : Int) : Bool :=
  numerator * Nat.pow 10 (-power).toNat < denominator * Nat.pow 10 power.toNat

/-- The number of digits in front of the point of a quotient, or minus the
number of zeros that follow it: the least power of ten that exceeds it. The
powers of two around the quotient leave few powers to try. -/
def pointPlace (numerator denominator : Nat) : Int :=
  let least := (((numerator.log2 : Int) - denominator.log2 - 1) * 30103).fdiv 100000
  let places := [least, least + 1, least + 2]
  (places.find? (isBelowPower numerator denominator)).getD (least + 3)

/-- The exact decimal of a finite number. -/
def exactForm (numerator : Nat) (scale : Int) : DecimalForm :=
  if 0 ≤ scale then ⟨numerator * Nat.pow 2 scale.toNat, 0⟩
  else ⟨numerator * Nat.pow 5 (-scale).toNat, scale⟩

/-- The shortest decimal that reads back as a finite number. A whole number of at
most 53 bits is its own: the whole numbers around it are numbers too, so no
decimal with fewer digits is nearer to it than to them. -/
def shortestForm (negative : Bool) (exponentField : Fin 2047) (fraction : Fin implicitBit) :
    DecimalForm :=
  let number := finite negative exponentField fraction
  let whole := significand exponentField fraction
  let (numerator, denominator) := scaled whole 1 (scale exponentField)
  if numerator % denominator = 0 ∧ numerator < 2 * implicitBit * denominator then
    ⟨numerator / denominator, 0⟩
  else
    let place := pointPlace numerator denominator
    let attempts := (List.range 17).findSome? fun (step : Nat) =>
      readingBack number negative numerator denominator (place - (step + 1))
    attempts.getD (exactForm whole (scale exponentField))

/-- Removes the zeros at the end of a digit text. -/
def trimZeros (characters : List Char) : List Char :=
  (characters.reverse.dropWhile (· == '0')).reverse

/-- The digits of a decimal between a point and an exponent as the format
chooses; `place` is the number of digits in front of the point. -/
def layOut (characters : List Char) (place : Int) : List Char :=
  if -4 < place ∧ place ≤ 16 then
    if place ≤ 0 then
      '0' :: '.' :: (List.replicate (-place).toNat '0' ++ characters)
    else
      let front := characters.take place.toNat
      let behind := characters.drop place.toNat
      front ++ List.replicate (place.toNat - front.length) '0'
        ++ '.' :: (if behind = [] then ['0'] else behind)
  else
    let exponent := place - 1
    let mark := if exponent < 0 then '-' else '+'
    let behind := characters.drop 1
    characters.take 1 ++ (if behind = [] then [] else '.' :: behind)
      ++ 'e' :: mark :: Text.padded 2 (Text.decimalCharacters exponent.natAbs)

/-- The shortest text of a number. -/
def shortest : Binary64 → String
  | nan => "nan"
  | infinite negative => if negative then "-inf" else "inf"
  | finite negative exponentField fraction =>
      let body :=
        if significand exponentField fraction = 0 then ['0', '.', '0']
        else
          let form := shortestForm negative exponentField fraction
          let written := Text.decimalCharacters form.digits
          layOut (trimZeros written) (written.length + form.power)
      String.ofList (if negative then '-' :: body else body)

end ImageAtlas.Binary64
