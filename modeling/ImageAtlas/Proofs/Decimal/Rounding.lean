import ImageAtlas.Decimal.Binary64
import Mathlib.Algebra.Order.Field.Power
import Mathlib.Data.Int.Log
import Mathlib.Data.Rat.Floor
import Mathlib.Tactic.FieldSimp
import Mathlib.Tactic.Linarith
import Mathlib.Tactic.NormNum
import Mathlib.Tactic.Positivity
import Mathlib.Tactic.Ring

/-!
# Rounding of quotients

A quotient is rounded by its amount alone: `normalScale_eq_log` gives the scale as a
logarithm, so `round_congr` holds however numerator and denominator are chosen. What is a
finite number is rounded to itself, what no finite number reaches to an infinity, and what
lies below half of the least number to zero. Hence the shortcuts for decimals of great or
small powers come to what rounding comes to (`ofDecimal_eq_round`), and decimals of one
amount are read as one number.
-/

namespace ImageAtlas.Binary64

/-- A power with a whole exponent is a quotient of powers with natural exponents, one of
which is one. -/
theorem natPow_div_natPow {base : Nat} (positive : 0 < base) (power : Int) :
    (Nat.pow base power.toNat : ℚ) / Nat.pow base (-power).toNat = (base : ℚ) ^ power := by
  have nonzero : (base : ℚ) ≠ 0 := by positivity
  simp only [Nat.pow_eq, Nat.cast_pow]
  rw [← zpow_natCast, ← zpow_natCast, ← zpow_sub₀ nonzero]
  congr 1
  omega

section Scaled

variable {numerator denominator : Nat}

/-- Scaling keeps the denominator positive. -/
theorem scaled_denominator_pos (positive : 0 < denominator) (power : Int) :
    0 < (scaled numerator denominator power).2 :=
  Nat.mul_pos positive (Nat.pow_pos Nat.two_pos)

/-- Scaling multiplies a quotient by the power of two. -/
theorem scaled_div (numerator denominator : Nat) (power : Int) :
    ((scaled numerator denominator power).1 : ℚ) / (scaled numerator denominator power).2
      = numerator / denominator * 2 ^ power := by
  have split := natPow_div_natPow Nat.two_pos power
  push_cast [scaled] at split ⊢
  rw [mul_div_mul_comm, split]

/-- What a quotient reaches, by its numerator and denominator. -/
theorem mul_le_iff_le_div (positive : 0 < denominator) (bound : Nat) :
    bound * denominator ≤ numerator ↔ (bound : ℚ) ≤ numerator / denominator := by
  rw [le_div_iff₀ (by exact_mod_cast positive)]
  exact_mod_cast Iff.rfl

/-- What a quotient stays below, by its numerator and denominator. -/
theorem lt_mul_iff_div_lt (positive : 0 < denominator) (bound : Nat) :
    numerator < bound * denominator ↔ (numerator : ℚ) / denominator < bound := by
  rw [← not_le, ← not_le, not_iff_not]
  exact mul_le_iff_le_div positive bound

end Scaled

/-- The bit in front of a fraction is a power of two. -/
theorem cast_implicitBit : (implicitBit : ℚ) = 2 ^ (52 : Int) := by
  norm_num [implicitBit]

/-- Twice the bit in front of a fraction is the next power of two. -/
theorem cast_double_implicitBit : ((2 * implicitBit : Nat) : ℚ) = 2 ^ (53 : Int) := by
  norm_num [implicitBit]

/-- A quotient that is positive has a positive numerator. -/
theorem pos_of_div_pos {numerator denominator : Nat}
    (positive : (0 : ℚ) < (numerator : ℚ) / denominator) : 0 < numerator := by
  refine Nat.pos_of_ne_zero fun none => ?_
  rw [none, Nat.cast_zero, zero_div] at positive
  exact absurd positive (lt_irrefl 0)

/-- The logarithm of a number between two powers of two. -/
theorem log_eq_of_between {number : ℚ} {power : Int} (reached : 2 ^ power ≤ number)
    (below : number < 2 ^ (power + 1)) : Int.log 2 number = power := by
  have positive : 0 < number := lt_of_lt_of_le (by positivity) reached
  refine le_antisymm ?_ ?_
  · exact Int.lt_add_one_iff.1 ((Int.lt_zpow_iff_log_lt Nat.one_lt_two positive).1 below)
  · exact (Int.zpow_le_iff_le_log Nat.one_lt_two positive).1 reached

/-- A natural number lies between the powers of two of its logarithm. -/
theorem log2_between {number : Nat} (positive : 0 < number) :
    (2 : ℚ) ^ (number.log2 : Int) ≤ number ∧ (number : ℚ) < 2 ^ ((number.log2 : Int) + 1) := by
  constructor
  · rw [zpow_natCast]
    exact_mod_cast Nat.log2_self_le positive.ne'
  · have below : number < 2 ^ (number.log2 + 1) := Nat.lt_log2_self
    exact_mod_cast below

/-- The logarithms of numerator and denominator settle that of a quotient up to one. -/
theorem div_between {numerator denominator : Nat} (some : 0 < numerator)
    (positive : 0 < denominator) :
    (2 : ℚ) ^ ((numerator.log2 : Int) - denominator.log2 - 1) ≤ (numerator : ℚ) / denominator ∧
      (numerator : ℚ) / denominator < 2 ^ ((numerator.log2 : Int) - denominator.log2 + 1) := by
  obtain ⟨numeratorReached, numeratorBelow⟩ := log2_between some
  obtain ⟨denominatorReached, denominatorBelow⟩ := log2_between positive
  have cast : (0 : ℚ) < denominator := by exact_mod_cast positive
  constructor
  · rw [le_div_iff₀ cast]
    calc (2 : ℚ) ^ ((numerator.log2 : Int) - denominator.log2 - 1) * denominator
        ≤ 2 ^ ((numerator.log2 : Int) - denominator.log2 - 1)
            * 2 ^ ((denominator.log2 : Int) + 1) := by gcongr
      _ = 2 ^ (numerator.log2 : Int) := by
          rw [← zpow_add₀ two_ne_zero]
          congr 1
          ring
      _ ≤ numerator := numeratorReached
  · rw [div_lt_iff₀ cast]
    calc (numerator : ℚ) < 2 ^ ((numerator.log2 : Int) + 1) := numeratorBelow
      _ = 2 ^ ((numerator.log2 : Int) - denominator.log2 + 1) * 2 ^ (denominator.log2 : Int) := by
          rw [← zpow_add₀ two_ne_zero]
          congr 1
          ring
      _ ≤ 2 ^ ((numerator.log2 : Int) - denominator.log2 + 1) * denominator := by gcongr

/-- The scale of a quotient is its logarithm, less the bits of a fraction. -/
theorem normalScale_eq_log {numerator denominator : Nat} (some : 0 < numerator)
    (positive : 0 < denominator) :
    normalScale numerator denominator = Int.log 2 ((numerator : ℚ) / denominator) - 52 := by
  obtain ⟨least, greatest⟩ := div_between some positive
  have guessed : ∀ guess : Int,
      (scaled numerator denominator (-guess)).1
          < implicitBit * (scaled numerator denominator (-guess)).2 ↔
        (numerator : ℚ) / denominator < 2 ^ (guess + 52) := by
    intro guess
    rw [lt_mul_iff_div_lt (scaled_denominator_pos positive _), scaled_div, cast_implicitBit,
      zpow_neg, ← div_eq_mul_inv, div_lt_iff₀ (by positivity), ← zpow_add₀ two_ne_zero]
    rw [add_comm]
  simp only [normalScale]
  split
  · rename_i low
    rw [guessed, sub_add_cancel] at low
    have log := log_eq_of_between least (by rwa [sub_add_cancel])
    rw [log]
    ring
  · rename_i high
    rw [guessed, sub_add_cancel, not_lt] at high
    rw [log_eq_of_between high greatest]

/-- Rounding to a whole number does not depend on how a quotient is written. -/
theorem nearestQuotient_mul {factor : Nat} (positive : 0 < factor) (numerator denominator : Nat) :
    nearestQuotient (numerator * factor) (denominator * factor)
      = nearestQuotient numerator denominator := by
  have less : ∀ left right : Nat, left * factor < right * factor ↔ left < right :=
    fun _ _ => Nat.mul_lt_mul_right positive
  simp only [nearestQuotient, Nat.mul_div_mul_right _ _ positive, Nat.mul_mod_mul_right,
    ← Nat.mul_assoc, less]

/-- Equal quotients are rounded to one whole number. -/
theorem nearestQuotient_congr {numerator denominator other otherDenominator : Nat}
    (positive : 0 < denominator) (otherPositive : 0 < otherDenominator)
    (same : (numerator : ℚ) / denominator = other / otherDenominator) :
    nearestQuotient numerator denominator = nearestQuotient other otherDenominator := by
  have crossed : numerator * otherDenominator = other * denominator := by
    rw [div_eq_div_iff (by positivity) (by positivity)] at same
    exact_mod_cast same
  calc nearestQuotient numerator denominator
      = nearestQuotient (numerator * otherDenominator) (denominator * otherDenominator) :=
        (nearestQuotient_mul otherPositive _ _).symm
    _ = nearestQuotient (other * denominator) (otherDenominator * denominator) := by
        rw [crossed, Nat.mul_comm denominator]
    _ = nearestQuotient other otherDenominator := nearestQuotient_mul positive _ _

/-- Equal quotients are rounded to one number. -/
theorem round_congr (negative : Bool) {numerator denominator other otherDenominator : Nat}
    (positive : 0 < denominator) (otherPositive : 0 < otherDenominator)
    (same : (numerator : ℚ) / denominator = other / otherDenominator) :
    round negative numerator denominator = round negative other otherDenominator := by
  have zero : numerator = 0 ↔ other = 0 := by
    rw [← Nat.cast_eq_zero (R := ℚ), ← Nat.cast_eq_zero (R := ℚ)]
    have cast : (denominator : ℚ) ≠ 0 := by positivity
    have otherCast : (otherDenominator : ℚ) ≠ 0 := by positivity
    constructor
    · intro none
      rw [none, zero_div, eq_comm, div_eq_zero_iff] at same
      exact same.resolve_right otherCast
    · intro none
      rw [none, zero_div, div_eq_zero_iff] at same
      exact same.resolve_right cast
  by_cases none : numerator = 0
  · simp [round, none, zero.1 none]
  · have some := Nat.pos_of_ne_zero none
    have otherSome := Nat.pos_of_ne_zero (mt zero.2 none)
    have scale : normalScale numerator denominator = normalScale other otherDenominator := by
      rw [normalScale_eq_log some positive, normalScale_eq_log otherSome otherPositive, same]
    simp only [round, none, otherSome.ne', if_false, scale]
    congr 1
    refine nearestQuotient_congr (scaled_denominator_pos positive _)
      (scaled_denominator_pos otherPositive _) ?_
    rw [scaled_div, scaled_div, same]

/-- The amount of a finite number. -/
def magnitude (exponentField : Fin 2047) (fraction : Fin implicitBit) : ℚ :=
  significand exponentField fraction * 2 ^ scale exponentField

/-- A finite number other than zero has a positive amount. -/
theorem magnitude_pos {exponentField : Fin 2047} {fraction : Fin implicitBit}
    (some : 0 < significand exponentField fraction) : 0 < magnitude exponentField fraction := by
  rw [magnitude]
  positivity

/-- The significand and the scale of a finite number, in either of its two forms. -/
theorem significand_cases (exponentField : Fin 2047) (fraction : Fin implicitBit) :
    (exponentField.val = 0 ∧ significand exponentField fraction = fraction.val ∧
        scale exponentField = -1074) ∨
      (0 < exponentField.val ∧
        significand exponentField fraction = implicitBit + fraction.val ∧
        scale exponentField = exponentField.val - 1075) := by
  by_cases subnormal : exponentField.val = 0
  · refine .inl ⟨subnormal, if_pos subnormal, ?_⟩
    rw [scale, subnormal]
    rfl
  · refine .inr ⟨Nat.pos_of_ne_zero subnormal, if_neg subnormal, ?_⟩
    rw [scale, max_eq_left (Nat.pos_of_ne_zero subnormal)]

/-- A finite number comes back from its significand and its scale. -/
theorem ofSignificand_significand (negative : Bool) (exponentField : Fin 2047)
    (fraction : Fin implicitBit) :
    ofSignificand negative (significand exponentField fraction) (scale exponentField)
      = finite negative exponentField fraction := by
  have bound := fraction.isLt
  have uncarried : significand exponentField fraction ≠ 2 * implicitBit := by
    rcases significand_cases exponentField fraction with ⟨-, whole, -⟩ | ⟨-, whole, -⟩
    all_goals omega
  have field : (if significand exponentField fraction < implicitBit then 0
      else (scale exponentField + 1075).toNat) = exponentField.val := by
    rcases significand_cases exponentField fraction with
      ⟨zero, whole, -⟩ | ⟨-, whole, place⟩
    · rw [whole, if_pos bound, zero]
    · rw [whole, if_neg (by omega), place]
      omega
  have rest : significand exponentField fraction % implicitBit = fraction.val := by
    rcases significand_cases exponentField fraction with ⟨-, whole, -⟩ | ⟨-, whole, -⟩
    · rw [whole, Nat.mod_eq_of_lt bound]
    · rw [whole, Nat.add_mod_left, Nat.mod_eq_of_lt bound]
  simp only [ofSignificand, uncarried, if_false, field, rest]
  exact dif_pos exponentField.isLt

/-- The scale at which a finite number is rounded is its own. -/
theorem max_log_magnitude {exponentField : Fin 2047} {fraction : Fin implicitBit}
    (some : 0 < significand exponentField fraction) :
    max (Int.log 2 (magnitude exponentField fraction) - 52) (-1074) = scale exponentField := by
  have bound := fraction.isLt
  have positive := magnitude_pos some
  have below : ∀ limit : Int, (significand exponentField fraction : ℚ) < 2 ^ limit →
      magnitude exponentField fraction < 2 ^ (limit + scale exponentField) := by
    intro limit less
    rw [zpow_add₀ two_ne_zero, magnitude]
    exact mul_lt_mul_of_pos_right less (by positivity)
  rcases significand_cases exponentField fraction with
    ⟨-, whole, place⟩ | ⟨normal, whole, place⟩
  · have less : (significand exponentField fraction : ℚ) < 2 ^ (52 : Int) := by
      rw [whole, ← cast_implicitBit]
      exact_mod_cast bound
    have log := (Int.lt_zpow_iff_log_lt Nat.one_lt_two positive).1 (below 52 less)
    omega
  · have reached : (2 : ℚ) ^ (52 + scale exponentField) ≤ magnitude exponentField fraction := by
      rw [zpow_add₀ two_ne_zero, magnitude, whole, ← cast_implicitBit]
      gcongr
      exact_mod_cast Nat.le_add_right implicitBit fraction
    have less : (significand exponentField fraction : ℚ) < 2 ^ (53 : Int) := by
      rw [whole, ← cast_double_implicitBit]
      exact_mod_cast (by omega : implicitBit + fraction.val < 2 * implicitBit)
    have log : Int.log 2 (magnitude exponentField fraction) = 52 + scale exponentField := by
      refine log_eq_of_between reached ?_
      rw [add_right_comm]
      exact below 53 less
    omega

/-- A whole quotient is rounded to itself. -/
theorem nearestQuotient_of_whole {numerator denominator whole : Nat} (positive : 0 < denominator)
    (same : (numerator : ℚ) / denominator = whole) :
    nearestQuotient numerator denominator = whole := by
  have alone : nearestQuotient numerator denominator = nearestQuotient whole 1 :=
    nearestQuotient_congr positive Nat.one_pos (by rw [same, Nat.cast_one, div_one])
  rw [alone]
  simp [nearestQuotient, Nat.mod_one]

/-- A quotient that is a finite number is rounded to it. -/
theorem round_of_magnitude (negative : Bool) {exponentField : Fin 2047}
    {fraction : Fin implicitBit} {numerator denominator : Nat} (positive : 0 < denominator)
    (some : 0 < significand exponentField fraction)
    (same : (numerator : ℚ) / denominator = magnitude exponentField fraction) :
    round negative numerator denominator = finite negative exponentField fraction := by
  have amount := magnitude_pos some
  rw [← same] at amount
  have numeratorSome := pos_of_div_pos amount
  have place : max (normalScale numerator denominator) (-1074) = scale exponentField := by
    rw [normalScale_eq_log numeratorSome positive, same]
    exact max_log_magnitude some
  have whole : nearestQuotient (scaled numerator denominator (-scale exponentField)).1
      (scaled numerator denominator (-scale exponentField)).2
        = significand exponentField fraction := by
    refine nearestQuotient_of_whole (scaled_denominator_pos positive _) ?_
    rw [scaled_div, same, magnitude, mul_assoc, ← zpow_add₀ two_ne_zero, add_neg_cancel,
      zpow_zero, mul_one]
  simp only [round, numeratorSome.ne', if_false, place, whole]
  exact ofSignificand_significand negative exponentField fraction

/-- A significand of full length at a scale beyond the greatest is the infinity. -/
theorem ofSignificand_of_large (negative : Bool) {carried : Nat} {scale : Int}
    (normal : implicitBit ≤ carried) (far : 972 ≤ scale) :
    ofSignificand negative carried scale = infinite negative := by
  by_cases carry : carried = 2 * implicitBit
  · have field : ¬ (scale + 1 + 1075).toNat < 2047 := by omega
    simp [ofSignificand, carry, field]
  · have field : ¬ (scale + 1075).toNat < 2047 := by omega
    simp [ofSignificand, carry, Nat.not_lt.2 normal, field]

/-- A quotient that no finite number reaches is rounded to the infinity. -/
theorem round_of_large (negative : Bool) {numerator denominator : Nat}
    (positive : 0 < denominator)
    (large : (2 : ℚ) ^ (1024 : Int) ≤ (numerator : ℚ) / denominator) :
    round negative numerator denominator = infinite negative := by
  have quotientPositive : (0 : ℚ) < (numerator : ℚ) / denominator :=
    lt_of_lt_of_le (by positivity) large
  have some := pos_of_div_pos quotientPositive
  have far : 1024 ≤ Int.log 2 ((numerator : ℚ) / denominator) :=
    (Int.zpow_le_iff_le_log Nat.one_lt_two quotientPositive).1 large
  generalize place : Int.log 2 ((numerator : ℚ) / denominator) = log at far
  have scale : max (normalScale numerator denominator) (-1074) = log - 52 := by
    rw [normalScale_eq_log some positive, place]
    omega
  have normal : implicitBit ≤ nearestQuotient (scaled numerator denominator (-(log - 52))).1
      (scaled numerator denominator (-(log - 52))).2 := by
    have reached := Int.zpow_log_le_self Nat.one_lt_two quotientPositive
    rw [place, Nat.cast_ofNat] at reached
    have whole : implicitBit ≤ (scaled numerator denominator (-(log - 52))).1 /
        (scaled numerator denominator (-(log - 52))).2 := by
      rw [Nat.le_div_iff_mul_le (scaled_denominator_pos positive _),
        mul_le_iff_le_div (scaled_denominator_pos positive _), scaled_div, cast_implicitBit]
      calc (2 : ℚ) ^ (52 : Int) = 2 ^ log * 2 ^ (-(log - 52)) := by
            rw [← zpow_add₀ two_ne_zero]
            congr 1
            ring
        _ ≤ (numerator : ℚ) / denominator * 2 ^ (-(log - 52)) := by gcongr
    rw [nearestQuotient]
    split_ifs <;> omega
  simp only [round, some.ne', if_false, scale]
  exact ofSignificand_of_large negative normal (by omega)

/-- A quotient below half of the least number is rounded to zero. -/
theorem round_of_small (negative : Bool) {numerator denominator : Nat}
    (positive : 0 < denominator)
    (small : (numerator : ℚ) / denominator < 2 ^ (-1075 : Int)) :
    round negative numerator denominator = finite negative ⟨0, by decide⟩ ⟨0, by decide⟩ := by
  by_cases none : numerator = 0
  · rw [round, if_pos none]
  have some := Nat.pos_of_ne_zero none
  have quotientPositive : (0 : ℚ) < (numerator : ℚ) / denominator := by positivity
  have near := (Int.lt_zpow_iff_log_lt Nat.one_lt_two quotientPositive).1 small
  have scale : max (normalScale numerator denominator) (-1074) = -1074 := by
    rw [normalScale_eq_log some positive]
    omega
  have half : 2 * (scaled numerator denominator 1074).1
      < (scaled numerator denominator 1074).2 := by
    have quotient : ((2 * (scaled numerator denominator 1074).1 : Nat) : ℚ) /
        (scaled numerator denominator 1074).2 < (1 : Nat) := by
      push_cast
      rw [mul_div_assoc, scaled_div]
      calc 2 * ((numerator : ℚ) / denominator * 2 ^ (1074 : Int))
          < 2 * (2 ^ (-1075 : Int) * 2 ^ (1074 : Int)) := by gcongr
        _ = 1 := by
            rw [← zpow_add₀ two_ne_zero]
            norm_num
    have less := (lt_mul_iff_div_lt (scaled_denominator_pos positive _) 1).2 quotient
    rwa [Nat.one_mul] at less
  have nothing : nearestQuotient (scaled numerator denominator 1074).1
      (scaled numerator denominator 1074).2 = 0 := by
    have less : (scaled numerator denominator 1074).1
        < (scaled numerator denominator 1074).2 := by omega
    rw [nearestQuotient, Nat.mod_eq_of_lt less, if_pos half, Nat.div_eq_of_lt less]
  simp only [round, none, if_false, scale, Int.neg_neg, nothing]
  rfl

/-- Three doublings come to less than a factor of ten. -/
theorem two_zpow_le_ten_zpow {power : Int} (nonneg : 0 ≤ power) :
    (2 : ℚ) ^ (3 * power) ≤ 10 ^ power := by
  rw [zpow_mul]
  exact zpow_le_zpow_left₀ nonneg (by positivity) (by norm_num)

/-- A decimal as a quotient, whatever the sign of its power. -/
theorem decimal_div (digits : Nat) (power : Int) :
    ((digits * Nat.pow 10 power.toNat : Nat) : ℚ) / (Nat.pow 10 (-power).toNat : Nat)
      = digits * 10 ^ power := by
  rw [Nat.cast_mul, mul_div_assoc, natPow_div_natPow (by decide)]
  rfl

/-- A decimal is rounded as the quotient that it is, so that nothing else about its digits
and its power counts. -/
theorem ofDecimal_eq_round (negative : Bool) {digits : Nat} {power : Int}
    {numerator denominator : Nat} (positive : 0 < denominator)
    (same : (numerator : ℚ) / denominator = digits * 10 ^ power) :
    ofDecimal negative digits power = round negative numerator denominator := by
  by_cases none : digits = 0
  · rw [ofDecimal, if_pos none]
    refine round_congr negative Nat.one_pos positive ?_
    rw [same, none, Nat.cast_zero, zero_div, zero_mul]
  have some := Nat.pos_of_ne_zero none
  obtain ⟨reached, below⟩ := log2_between some
  simp only [ofDecimal, none, if_false]
  split
  · rename_i large
    refine (round_of_large negative positive ?_).symm
    rw [same]
    calc (2 : ℚ) ^ (1024 : Int) ≤ 2 ^ (3 * 400 : Int) :=
          zpow_le_zpow_right₀ one_le_two (by decide)
      _ ≤ 10 ^ (400 : Int) := two_zpow_le_ten_zpow (by decide)
      _ ≤ 10 ^ power := zpow_le_zpow_right₀ (by norm_num) large.1.le
      _ ≤ digits * 10 ^ power :=
          le_mul_of_one_le_left (by positivity) (by exact_mod_cast some)
  · split
    · rename_i small
      refine (round_of_small negative positive ?_).symm
      have short : (digits : ℚ) < 10 ^ ((digits.log2 / 3 : Nat) + 1 : Int) := by
        calc (digits : ℚ) < 2 ^ ((digits.log2 : Int) + 1) := below
          _ ≤ 2 ^ (3 * ((digits.log2 / 3 : Nat) + 1 : Int)) :=
              zpow_le_zpow_right₀ one_le_two (by omega)
          _ ≤ 10 ^ ((digits.log2 / 3 : Nat) + 1 : Int) := two_zpow_le_ten_zpow (by omega)
      calc (numerator : ℚ) / denominator = digits * 10 ^ power := same
        _ < 10 ^ ((digits.log2 / 3 : Nat) + 1 : Int) * 10 ^ power := by gcongr
        _ = 10 ^ ((digits.log2 / 3 : Nat) + 1 + power : Int) :=
            (zpow_add₀ (by norm_num) _ _).symm
        _ ≤ 10 ^ (-400 : Int) := zpow_le_zpow_right₀ (by norm_num) (by omega)
        _ ≤ 2 ^ (-(3 * 400) : Int) := by
            rw [zpow_neg, zpow_neg]
            exact inv_anti₀ (by positivity) (two_zpow_le_ten_zpow (by decide))
        _ ≤ 2 ^ (-1075 : Int) := zpow_le_zpow_right₀ one_le_two (by decide)
    · refine round_congr negative (Nat.pow_pos (by decide)) positive ?_
      rw [same, decimal_div]

/-- Decimals of one amount are read as one number. -/
theorem ofDecimal_congr (negative : Bool) {digits other : Nat} {power otherPower : Int}
    (same : (digits : ℚ) * 10 ^ power = other * 10 ^ otherPower) :
    ofDecimal negative digits power = ofDecimal negative other otherPower := by
  have positive : 0 < Nat.pow 10 (-power).toNat := Nat.pow_pos (by decide)
  rw [ofDecimal_eq_round negative positive (decimal_div digits power)]
  exact (ofDecimal_eq_round negative positive ((decimal_div digits power).trans same)).symm

end ImageAtlas.Binary64
