import ImageAtlas.Decimal.Shortest
import ImageAtlas.Proofs.Decimal.Rounding
import Mathlib.Data.Nat.Cast.Field

/-!
# Shortest decimals read back

Whichever way the shortest decimal of a finite number is found, it reads back as the
number: a whole number and an exact decimal because they are the number, and a nearest
decimal because it is taken only if it does.
-/

namespace ImageAtlas.Binary64

variable {negative : Bool} {exponentField : Fin 2047} {fraction : Fin implicitBit}

/-- A finite number as a fraction. -/
theorem scaled_significand_div (exponentField : Fin 2047) (fraction : Fin implicitBit) :
    ((scaled (significand exponentField fraction) 1 (scale exponentField)).1 : ℚ) /
        (scaled (significand exponentField fraction) 1 (scale exponentField)).2
      = magnitude exponentField fraction := by
  rw [scaled_div, Nat.cast_one, div_one, magnitude]

/-- A decimal of the amount of a finite number reads back as it. -/
theorem DecimalForm.read_of_magnitude {form : DecimalForm}
    (some : 0 < significand exponentField fraction)
    (same : (form.digits : ℚ) * 10 ^ form.power = magnitude exponentField fraction) :
    form.read negative = finite negative exponentField fraction := by
  have positive : 0 < (scaled (significand exponentField fraction) 1 (scale exponentField)).2 :=
    scaled_denominator_pos Nat.one_pos _
  have quotient := scaled_significand_div exponentField fraction
  rw [DecimalForm.read, ofDecimal_eq_round negative positive (quotient.trans same.symm)]
  exact round_of_magnitude negative positive some quotient

/-- A decimal that is taken because it reads back does so. -/
theorem read_of_readingBack {number : Binary64} {numerator denominator : Nat} {power : Int}
    {form : DecimalForm}
    (taken : readingBack number negative numerator denominator power = some form) :
    form.read negative = number := by
  simp only [readingBack] at taken
  split at taken
  · rename_i both
    split at taken
    · cases taken
      exact both.1
    · cases taken
      exact both.2
  · split at taken
    · rename_i below
      cases taken
      exact below
    · split at taken
      · rename_i above
        cases taken
        exact above
      · cases taken

/-- The exact decimal of a finite number has its amount. -/
theorem exactForm_amount (whole : Nat) (scale : Int) :
    ((exactForm whole scale).digits : ℚ) * 10 ^ (exactForm whole scale).power
      = whole * 2 ^ scale := by
  rw [exactForm]
  split
  · rename_i nonneg
    obtain ⟨doublings, rfl⟩ := Int.eq_ofNat_of_zero_le nonneg
    simp
  · rename_i negative
    obtain ⟨halvings, rfl⟩ : ∃ halvings : Nat, scale = -halvings :=
      ⟨(-scale).toNat, by omega⟩
    have tens : (10 : ℚ) ^ halvings = 5 ^ halvings * 2 ^ halvings := by
      rw [← mul_pow]
      norm_num
    simp only [neg_neg, Int.toNat_natCast, Nat.pow_eq, Nat.cast_mul, Nat.cast_pow,
      Nat.cast_ofNat, zpow_neg, zpow_natCast, tens]
    field_simp

/-- The shortest decimal of a finite number reads back as it. -/
theorem read_shortestForm (negative : Bool) (some : 0 < significand exponentField fraction) :
    (shortestForm negative exponentField fraction).read negative
      = finite negative exponentField fraction := by
  have quotient := scaled_significand_div exponentField fraction
  simp only [shortestForm]
  split
  · rename_i whole
    refine DecimalForm.read_of_magnitude some ?_
    rw [← quotient, Nat.cast_div (Nat.dvd_of_mod_eq_zero whole.1), zpow_zero, mul_one]
    exact_mod_cast (scaled_denominator_pos Nat.one_pos _).ne'
  · cases found : (List.range 17).findSome? _ with
    | none =>
        rw [Option.getD_none]
        exact DecimalForm.read_of_magnitude some (exactForm_amount _ _)
    | some form =>
        obtain ⟨step, -, taken⟩ := List.exists_of_findSome?_eq_some found
        exact read_of_readingBack taken

end ImageAtlas.Binary64
