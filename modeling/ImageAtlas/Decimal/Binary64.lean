/-!
# Binary floating-point numbers of 64 bits

Finite numbers are a sign, an exponent and a fraction of fixed width, so every
number has one representation; beside them there are two infinities and one
value that is no number. Rounding goes to the nearest number, from the middle
to the one whose fraction is even. All arithmetic is exact until it is rounded
once.
-/

namespace ImageAtlas

/-- The fraction has 52 bits; the bit in front of them is not written. -/
def implicitBit : Nat := 0x10000000000000

/-- A floating-point number of 64 bits. -/
inductive Binary64 where
  | finite (negative : Bool) (exponentField : Fin 2047) (fraction : Fin implicitBit)
  | infinite (negative : Bool)
  | nan
deriving DecidableEq, Repr

namespace Binary64

/-- The whole number whose multiple by a power of two a finite number is. -/
def significand (exponentField : Fin 2047) (fraction : Fin implicitBit) : Nat :=
  if exponentField.val = 0 then fraction.val else implicitBit + fraction.val

/-- The power of two of a finite number. -/
def scale (exponentField : Fin 2047) : Int :=
  (max exponentField.val 1 : Nat) - 1075

/-- The whole number nearest to a quotient, an even one from the middle. -/
def nearestQuotient (numerator denominator : Nat) : Nat :=
  let quotient := numerator / denominator
  let twice := 2 * (numerator % denominator)
  if twice < denominator then quotient
  else if denominator < twice then quotient + 1
  else quotient + quotient % 2

/-- A fraction `numerator / denominator` times `2 ^ power`, as a numerator and
a denominator. -/
def scaled (numerator denominator : Nat) (power : Int) : Nat × Nat :=
  (numerator * Nat.pow 2 power.toNat, denominator * Nat.pow 2 (-power).toNat)

/-- The power of two under which a quotient has a significand of 53 bits. -/
def normalScale (numerator denominator : Nat) : Int :=
  let guess : Int := (numerator.log2 : Int) - denominator.log2 - 52
  let (scaledNumerator, scaledDenominator) := scaled numerator denominator (-guess)
  if scaledNumerator < implicitBit * scaledDenominator then guess - 1 else guess

/-- The finite number of a significand of at most 53 bits, or the infinity
behind the greatest one. -/
def ofSignificand (negative : Bool) (significand : Nat) (scale : Int) : Binary64 :=
  let (carried, carriedScale) :=
    if significand = 2 * implicitBit then (implicitBit, scale + 1) else (significand, scale)
  let field := if carried < implicitBit then 0 else (carriedScale + 1075).toNat
  if inRange : field < 2047 then
    .finite negative ⟨field, inRange⟩ ⟨carried % implicitBit, Nat.mod_lt _ (by decide)⟩
  else .infinite negative

/-- The number nearest to a quotient. -/
def round (negative : Bool) (numerator denominator : Nat) : Binary64 :=
  if numerator = 0 then .finite negative ⟨0, by decide⟩ ⟨0, by decide⟩
  else
    let scale := max (normalScale numerator denominator) (-1074)
    let (scaledNumerator, scaledDenominator) := scaled numerator denominator (-scale)
    ofSignificand negative (nearestQuotient scaledNumerator scaledDenominator) scale

/-- The number nearest to a whole number. -/
def ofInt (value : Int) : Binary64 :=
  round (value < 0) value.natAbs 1

/-- The number nearest to `digits * 10 ^ power`. Powers far beyond the range
are settled without computing them. -/
def ofDecimal (negative : Bool) (digits : Nat) (power : Int) : Binary64 :=
  if digits = 0 then round negative 0 1
  else
    let magnitude : Int := digits.log2 / 3 + power
    if 400 < power ∧ 400 < magnitude then .infinite negative
    else if magnitude < -400 then round negative 0 1
    else round negative (digits * Nat.pow 10 power.toNat) (Nat.pow 10 (-power).toNat)

/-- The other sign. -/
def negate : Binary64 → Binary64
  | finite negative exponentField fraction => finite (!negative) exponentField fraction
  | infinite negative => infinite (!negative)
  | nan => nan

/-- The sum of two numbers. Opposite numbers have the positive zero as sum. -/
def add : Binary64 → Binary64 → Binary64
  | nan, _ => nan
  | _, nan => nan
  | infinite left, infinite right => if left = right then infinite left else nan
  | infinite left, _ => infinite left
  | _, infinite right => infinite right
  | finite leftNegative leftField leftFraction, finite rightNegative rightField rightFraction =>
      let least := min (scale leftField) (scale rightField)
      let aligned (negative : Bool) (field : Fin 2047) (fraction : Fin implicitBit) : Int :=
        let magnitude : Int := significand field fraction * Nat.pow 2 (scale field - least).toNat
        if negative then -magnitude else magnitude
      let sum := aligned leftNegative leftField leftFraction
        + aligned rightNegative rightField rightFraction
      let (numerator, denominator) := scaled sum.natAbs 1 least
      round (sum < 0 || (sum == 0 && leftNegative && rightNegative)) numerator denominator

/-- The difference of two numbers. -/
def sub (left right : Binary64) : Binary64 :=
  add left (negate right)

/-- Whether a number is zero, of either sign. -/
def isZero : Binary64 → Bool
  | finite _ exponentField fraction => significand exponentField fraction == 0
  | _ => false

/-- The whole number that a number is, if it is one. -/
def toInt? : Binary64 → Option Int
  | finite negative exponentField fraction =>
      let (numerator, denominator) :=
        scaled (significand exponentField fraction) 1 (scale exponentField)
      if numerator % denominator = 0 then
        let magnitude : Int := (numerator / denominator : Nat)
        some (if negative then -magnitude else magnitude)
      else none
  | _ => none

end Binary64

end ImageAtlas
