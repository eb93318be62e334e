import ImageAtlas.Proofs.Decimal.Rounding

/-!
# The order of floating-point numbers

Floating-point numbers stand on a line, the infinities where the next numbers beyond the
greatest ones would stand (`Binary64.place`). Rounding keeps the order of quotients: within one
power of two because rounding to whole numbers does, and across powers because what is rounded
at a lower power stays at or below the number at which the higher one begins. So differences
from one number are ordered as what it is taken from.
-/

namespace ImageAtlas.Binary64

/-- An amount with a sign. -/
def signed (negative : Bool) (amount : ℚ) : ℚ :=
  if negative then -amount else amount

/-- Where a number stands on the line. -/
def place : Binary64 → Option ℚ
  | finite negative exponentField fraction =>
      some (signed negative (magnitude exponentField fraction))
  | infinite negative => some (signed negative (2 ^ (1024 : Int)))
  | nan => none

/-- Neither is no number, and the first does not stand above the second. -/
def AtMost (left right : Binary64) : Prop :=
  ∃ lower ∈ left.place, ∃ upper ∈ right.place, lower ≤ upper

/-- Finite numbers stand between the infinities. -/
theorem magnitude_lt (exponentField : Fin 2047) (fraction : Fin implicitBit) :
    magnitude exponentField fraction < 2 ^ (1024 : Int) := by
  have bound := fraction.isLt
  have field := exponentField.isLt
  have short : (significand exponentField fraction : ℚ) < 2 ^ (53 : Int) := by
    rw [← cast_double_implicitBit, Nat.cast_lt]
    rcases significand_cases exponentField fraction with ⟨-, whole, -⟩ | ⟨-, whole, -⟩
    all_goals omega
  have low : scale exponentField ≤ 971 := by
    rw [scale]
    omega
  calc magnitude exponentField fraction
      < 2 ^ (53 : Int) * 2 ^ scale exponentField := by
        rw [magnitude]
        gcongr
    _ ≤ 2 ^ (53 : Int) * 2 ^ (971 : Int) := by
        gcongr
        exact one_le_two
    _ = 2 ^ (1024 : Int) := by
        rw [← zpow_add₀ two_ne_zero]
        norm_num

section Rounded

variable {numerator denominator other otherDenominator : Nat}

/-- Rounding to a whole number goes down or up to the next one. -/
theorem nearestQuotient_between (numerator denominator : Nat) :
    numerator / denominator ≤ nearestQuotient numerator denominator ∧
      nearestQuotient numerator denominator ≤ numerator / denominator + 1 := by
  simp only [nearestQuotient]
  split_ifs <;> omega

/-- Over one denominator, rounding to a whole number keeps the order of numerators. -/
theorem nearestQuotient_le_of_le (le : numerator ≤ other) :
    nearestQuotient numerator denominator ≤ nearestQuotient other denominator := by
  rcases Nat.lt_or_eq_of_le (Nat.div_le_div_right (c := denominator) le) with apart | same
  · exact ((nearestQuotient_between numerator denominator).2.trans apart).trans
      (nearestQuotient_between other denominator).1
  · have whole := Nat.div_add_mod numerator denominator
    have otherWhole := Nat.div_add_mod other denominator
    rw [← same] at otherWhole
    have remainders : numerator % denominator ≤ other % denominator := by omega
    simp only [nearestQuotient, ← same]
    split_ifs <;> omega

/-- Rounding to a whole number keeps the order of quotients. -/
theorem nearestQuotient_mono (positive : 0 < denominator) (otherPositive : 0 < otherDenominator)
    (le : (numerator : ℚ) / denominator ≤ (other : ℚ) / otherDenominator) :
    nearestQuotient numerator denominator ≤ nearestQuotient other otherDenominator := by
  have crossed : numerator * otherDenominator ≤ other * denominator := by
    rw [div_le_div_iff₀ (by positivity) (by positivity)] at le
    exact_mod_cast le
  rw [← nearestQuotient_mul otherPositive, ← nearestQuotient_mul positive other,
    Nat.mul_comm denominator]
  exact nearestQuotient_le_of_le crossed

/-- The power of two at which a quotient is rounded. -/
def roundingScale (numerator denominator : Nat) : Int :=
  max (normalScale numerator denominator) (-1074)

/-- The whole number to which a quotient is rounded at its power of two. -/
def roundingSignificand (numerator denominator : Nat) : Nat :=
  nearestQuotient (scaled numerator denominator (-roundingScale numerator denominator)).1
    (scaled numerator denominator (-roundingScale numerator denominator)).2

/-- The amount to which a quotient is rounded. -/
def roundedAmount (numerator denominator : Nat) : ℚ :=
  if numerator = 0 then 0
  else roundingSignificand numerator denominator * 2 ^ roundingScale numerator denominator

/-- The power of two at which a quotient is rounded follows its logarithm, down to the least
one. -/
theorem roundingScale_eq (some : 0 < numerator) (positive : 0 < denominator) :
    roundingScale numerator denominator
      = max (Int.log 2 ((numerator : ℚ) / denominator) - 52) (-1074) := by
  rw [roundingScale, normalScale_eq_log some positive]

/-- A whole number is rounded to itself. -/
theorem nearestQuotient_one (whole : Nat) : nearestQuotient whole 1 = whole :=
  nearestQuotient_of_whole Nat.one_pos (by rw [Nat.cast_one, div_one])

/-- What a quotient is rounded to has 53 bits or is the next power of two. -/
theorem roundingSignificand_le (some : 0 < numerator) (positive : 0 < denominator) :
    roundingSignificand numerator denominator ≤ 2 * implicitBit := by
  rw [← nearestQuotient_one (2 * implicitBit)]
  refine nearestQuotient_mono (scaled_denominator_pos positive _) Nat.one_pos ?_
  have below := Int.lt_zpow_succ_log_self Nat.one_lt_two ((numerator : ℚ) / denominator)
  have reach : Int.log 2 ((numerator : ℚ) / denominator) + 1
      ≤ 53 + roundingScale numerator denominator := by
    rw [roundingScale_eq some positive]
    omega
  rw [scaled_div, Nat.cast_one, div_one, cast_double_implicitBit, zpow_neg, ← div_eq_mul_inv,
    div_le_iff₀ (by positivity), ← zpow_add₀ two_ne_zero]
  exact below.le.trans (zpow_le_zpow_right₀ one_le_two reach)

/-- Above the least power of two, it has no fewer bits. -/
theorem le_roundingSignificand (some : 0 < numerator) (positive : 0 < denominator)
    (above : -1074 < roundingScale numerator denominator) :
    implicitBit ≤ roundingSignificand numerator denominator := by
  rw [← nearestQuotient_one implicitBit]
  refine nearestQuotient_mono Nat.one_pos (scaled_denominator_pos positive _) ?_
  have quotient : (0 : ℚ) < (numerator : ℚ) / denominator := by positivity
  have reached := Int.zpow_log_le_self Nat.one_lt_two quotient
  have log : Int.log 2 ((numerator : ℚ) / denominator)
      = 52 + roundingScale numerator denominator := by
    rw [roundingScale_eq some positive] at above ⊢
    omega
  rw [log, Nat.cast_ofNat, zpow_add₀ two_ne_zero] at reached
  rw [scaled_div, Nat.cast_one, div_one, cast_implicitBit, zpow_neg, ← div_eq_mul_inv,
    le_div_iff₀ (by positivity)]
  exact reached

/-- Rounding keeps the order of quotients. -/
theorem roundedAmount_mono (positive : 0 < denominator) (otherPositive : 0 < otherDenominator)
    (le : (numerator : ℚ) / denominator ≤ (other : ℚ) / otherDenominator) :
    roundedAmount numerator denominator ≤ roundedAmount other otherDenominator := by
  by_cases none : numerator = 0
  · rw [roundedAmount, if_pos none, roundedAmount]
    split_ifs <;> positivity
  have some := Nat.pos_of_ne_zero none
  have quotient : (0 : ℚ) < (numerator : ℚ) / denominator := by positivity
  have otherSome := pos_of_div_pos (quotient.trans_le le)
  rw [roundedAmount, roundedAmount, if_neg none, if_neg otherSome.ne']
  have scales : roundingScale numerator denominator ≤ roundingScale other otherDenominator := by
    rw [roundingScale_eq some positive, roundingScale_eq otherSome otherPositive]
    have logs := Int.log_mono_right (b := 2) quotient le
    omega
  rcases scales.lt_or_eq with lower | same
  · -- The higher power begins where the lower one ends.
    have few := roundingSignificand_le some positive
    have many := le_roundingSignificand otherSome otherPositive (by
      have least : -1074 ≤ roundingScale numerator denominator := le_max_right _ _
      omega)
    calc (roundingSignificand numerator denominator : ℚ)
          * 2 ^ roundingScale numerator denominator
        ≤ (2 * implicitBit : Nat) * 2 ^ roundingScale numerator denominator := by
          gcongr
      _ = implicitBit * 2 ^ (roundingScale numerator denominator + 1) := by
          rw [zpow_add_one₀ two_ne_zero]
          push_cast
          ring
      _ ≤ implicitBit * 2 ^ roundingScale other otherDenominator := by
          gcongr
          · exact one_le_two
          · exact lower
      _ ≤ roundingSignificand other otherDenominator
            * 2 ^ roundingScale other otherDenominator := by
          gcongr
  · rw [same]
    gcongr
    rw [roundingSignificand, roundingSignificand, same]
    refine nearestQuotient_mono (scaled_denominator_pos positive _)
      (scaled_denominator_pos otherPositive _) ?_
    rw [scaled_div, scaled_div]
    gcongr

/-- Amounts are rounded to amounts. -/
theorem roundedAmount_nonneg (numerator denominator : Nat) :
    0 ≤ roundedAmount numerator denominator := by
  rw [roundedAmount]
  split_ifs <;> positivity

/-- Nothing is rounded to nothing. -/
theorem roundedAmount_nonpos (positive : 0 < denominator)
    (none : (numerator : ℚ) / denominator ≤ 0) : roundedAmount numerator denominator ≤ 0 := by
  have less : (numerator : ℚ) / denominator ≤ ((0 : Nat) : ℚ) / (1 : Nat) := by
    rwa [Nat.cast_zero, zero_div]
  have zero : roundedAmount 0 1 = 0 := if_pos rfl
  exact zero ▸ roundedAmount_mono positive Nat.one_pos less

/-- A whole number of at most 53 bits at a power of two in range is that of a finite number. -/
theorem exists_significand {whole : Nat} {power : Int} (bounded : whole < 2 * implicitBit)
    (least : -1074 ≤ power) (greatest : power ≤ 971)
    (normal : -1074 < power → implicitBit ≤ whole) :
    ∃ exponentField fraction, significand exponentField fraction = whole ∧
      scale exponentField = power := by
  by_cases subnormal : whole < implicitBit
  · obtain rfl : power = -1074 := by omega
    exact ⟨⟨0, by decide⟩, ⟨whole, subnormal⟩, rfl, rfl⟩
  · have field : (power + 1075).toNat < 2047 := by omega
    have some : (power + 1075).toNat ≠ 0 := by omega
    refine ⟨⟨_, field⟩, ⟨whole - implicitBit, by omega⟩, ?_, ?_⟩
    · rw [significand, if_neg some]
      exact Nat.add_sub_cancel' (Nat.not_lt.1 subnormal)
    · change ((max (power + 1075).toNat 1 : Nat) : Int) - 1075 = power
      omega

/-- A finite number stands at its amount, before the infinity. -/
theorem place_finite (negative : Bool) (exponentField : Fin 2047) (fraction : Fin implicitBit) :
    (finite negative exponentField fraction).place
      = some (signed negative (min (magnitude exponentField fraction) (2 ^ (1024 : Int)))) := by
  rw [place, min_eq_left (magnitude_lt exponentField fraction).le]

/-- A whole number of at most 53 bits and a power of two make the number of their product, or
the infinity before which no number reaches it. -/
theorem place_ofSignificand_of_lt (negative : Bool) {whole : Nat} {power : Int}
    (bounded : whole < 2 * implicitBit) (least : -1074 ≤ power)
    (normal : -1074 < power → implicitBit ≤ whole) :
    (ofSignificand negative whole power).place
      = some (signed negative (min (whole * 2 ^ power) (2 ^ (1024 : Int)))) := by
  by_cases greatest : power ≤ 971
  · obtain ⟨exponentField, fraction, rfl, rfl⟩ :=
      exists_significand bounded least greatest normal
    rw [ofSignificand_significand, place_finite]
    rfl
  · have far : 972 ≤ power := by omega
    have reached : (2 : ℚ) ^ (1024 : Int) ≤ whole * 2 ^ power := by
      calc (2 : ℚ) ^ (1024 : Int) = implicitBit * 2 ^ (972 : Int) := by
            rw [cast_implicitBit, ← zpow_add₀ two_ne_zero]
            norm_num
        _ ≤ whole * 2 ^ power := by
            gcongr
            · exact normal (by omega)
            · exact one_le_two
    rw [ofSignificand_of_large negative (normal (by omega)) far, min_eq_right reached]
    rfl

/-- A carry makes the next power of two. -/
theorem place_ofSignificand (negative : Bool) {whole : Nat} {power : Int}
    (bounded : whole ≤ 2 * implicitBit) (least : -1074 ≤ power)
    (normal : -1074 < power → implicitBit ≤ whole) :
    (ofSignificand negative whole power).place
      = some (signed negative (min (whole * 2 ^ power) (2 ^ (1024 : Int)))) := by
  rcases bounded.lt_or_eq with uncarried | rfl
  · exact place_ofSignificand_of_lt negative uncarried least normal
  · have carried : ofSignificand negative (2 * implicitBit) power
        = ofSignificand negative implicitBit (power + 1) := by
      have single : implicitBit ≠ 2 * implicitBit := by decide
      simp only [ofSignificand, if_true, single, if_false]
    have amount : ((2 * implicitBit : Nat) : ℚ) * 2 ^ power = implicitBit * 2 ^ (power + 1) := by
      rw [zpow_add_one₀ two_ne_zero]
      push_cast
      ring
    rw [carried, amount]
    exact place_ofSignificand_of_lt negative (by decide) (by omega) fun _ => le_rfl

/-- A quotient is rounded to the number that stands at its rounded amount. -/
theorem place_round (negative : Bool) (positive : 0 < denominator) :
    (round negative numerator denominator).place
      = some (signed negative (min (roundedAmount numerator denominator) (2 ^ (1024 : Int)))) := by
  by_cases none : numerator = 0
  · have nothing : magnitude ⟨0, by decide⟩ ⟨0, by decide⟩ = 0 := by
      rw [magnitude, show significand ⟨0, by decide⟩ ⟨0, by decide⟩ = 0 from rfl, Nat.cast_zero,
        zero_mul]
    rw [round, if_pos none, roundedAmount, if_pos none, place_finite, nothing]
  · have some := Nat.pos_of_ne_zero none
    rw [round, if_neg none, roundedAmount, if_neg none]
    exact place_ofSignificand negative (roundingSignificand_le some positive) (le_max_right _ _)
      (le_roundingSignificand some positive)

/-- Rounding keeps the order of quotients with signs. -/
theorem round_atMost (negative otherNegative : Bool) (positive : 0 < denominator)
    (otherPositive : 0 < otherDenominator)
    (le : signed negative ((numerator : ℚ) / denominator)
      ≤ signed otherNegative ((other : ℚ) / otherDenominator)) :
    AtMost (round negative numerator denominator) (round otherNegative other otherDenominator) := by
  have quotient : (0 : ℚ) ≤ (numerator : ℚ) / denominator := by positivity
  have otherQuotient : (0 : ℚ) ≤ (other : ℚ) / otherDenominator := by positivity
  have amount := roundedAmount_nonneg numerator denominator
  have otherAmount := roundedAmount_nonneg other otherDenominator
  refine ⟨_, place_round negative positive, _, place_round otherNegative otherPositive, ?_⟩
  cases negative <;> cases otherNegative <;> simp only [signed, Bool.false_eq_true, if_true,
    if_false] at le ⊢
  case false.false =>
    exact min_le_min_right _ (roundedAmount_mono positive otherPositive le)
  case true.true =>
    rw [neg_le_neg_iff] at le ⊢
    exact min_le_min_right _ (roundedAmount_mono otherPositive positive le)
  case true.false =>
    exact (neg_nonpos.2 (le_min amount (by positivity))).trans (le_min otherAmount (by positivity))
  case false.true =>
    have nothing := roundedAmount_nonpos positive (le.trans (neg_nonpos.2 otherQuotient))
    have otherNothing := roundedAmount_nonpos otherPositive
      (neg_nonneg.1 (quotient.trans le))
    exact ((min_le_left _ _).trans nothing).trans
      (neg_nonneg.2 ((min_le_left _ _).trans otherNothing))

end Rounded

section Sums

variable (negative otherNegative : Bool) (field otherField : Fin 2047)
  (fraction otherFraction : Fin implicitBit)

/-- The value of a finite number. -/
def value : ℚ :=
  signed negative (magnitude field fraction)

/-- A finite number as a multiple of a power of two that is not above its own. -/
def multiple (least : Int) : Int :=
  let amount : Int := significand field fraction * Nat.pow 2 (scale field - least).toNat
  if negative then -amount else amount

/-- The multiple of the power is the value. -/
theorem multiple_mul {least : Int} (below : least ≤ scale field) :
    (multiple negative field fraction least : ℚ) * 2 ^ least = value negative field fraction := by
  have shifted : (2 : ℚ) ^ scale field = 2 ^ (scale field - least).toNat * 2 ^ least := by
    rw [← zpow_natCast, Int.toNat_of_nonneg (Int.sub_nonneg.2 below), ← zpow_add₀ two_ne_zero,
      Int.sub_add_cancel]
  rw [value, signed, magnitude, multiple, shifted]
  cases negative <;> simp only [Bool.false_eq_true, if_false, if_true, Nat.pow_eq] <;> push_cast
    <;> ring

/-- A sum of finite numbers is the sum of their values, rounded. -/
theorem exists_add_eq_round :
    ∃ (sign : Bool) (numerator denominator : Nat), 0 < denominator ∧
      signed sign ((numerator : ℚ) / denominator)
        = value negative field fraction + value otherNegative otherField otherFraction ∧
      add (finite negative field fraction) (finite otherNegative otherField otherFraction)
        = round sign numerator denominator := by
  have left := multiple_mul negative field fraction (min_le_left (scale field) (scale otherField))
  have right := multiple_mul otherNegative otherField otherFraction
    (min_le_right (scale field) (scale otherField))
  have sums : add (finite negative field fraction) (finite otherNegative otherField otherFraction)
      = (let least := min (scale field) (scale otherField)
         let sum := multiple negative field fraction least
          + multiple otherNegative otherField otherFraction least
         round (sum < 0 || (sum == 0 && negative && otherNegative))
          (scaled sum.natAbs 1 least).1 (scaled sum.natAbs 1 least).2) := rfl
  generalize min (scale field) (scale otherField) = least at left right sums
  rw [← left, ← right, ← add_mul, ← Int.cast_add]
  dsimp only at sums
  generalize multiple negative field fraction least
    + multiple otherNegative otherField otherFraction least = sum at sums ⊢
  refine ⟨_, _, _, scaled_denominator_pos Nat.one_pos least, ?_, sums⟩
  rw [scaled_div, Nat.cast_one, div_one, signed, Nat.cast_natAbs]
  rcases lt_trichotomy sum 0 with below | rfl | above
  · rw [if_pos (by simp [below]), abs_of_neg below, Int.cast_neg, neg_mul, neg_neg]
  · simp
  · rw [if_neg (by simp [above.le, above.ne']), abs_of_pos above]

end Sums

/-- A number that is neither an infinity nor no number. -/
def IsFinite (number : Binary64) : Prop :=
  ∃ negative field fraction, number = finite negative field fraction

/-- Differences from one number are ordered as what it is taken from. -/
theorem sub_atMost {earlier later start : Binary64} (earlierFinite : earlier.IsFinite)
    (laterFinite : later.IsFinite) (startFinite : start.IsFinite)
    (ordered : earlier.AtMost later) : (earlier.sub start).AtMost (later.sub start) := by
  obtain ⟨negative, field, fraction, rfl⟩ := earlierFinite
  obtain ⟨otherNegative, otherField, otherFraction, rfl⟩ := laterFinite
  obtain ⟨startNegative, startField, startFraction, rfl⟩ := startFinite
  obtain ⟨_, ⟨⟩, _, ⟨⟩, le⟩ := ordered
  obtain ⟨sign, numerator, denominator, positive, amount, same⟩ :=
    exists_add_eq_round negative (!startNegative) field startField fraction startFraction
  obtain ⟨otherSign, otherNumerator, otherDenominator, otherPositive, otherAmount, otherSame⟩ :=
    exists_add_eq_round otherNegative (!startNegative) otherField startField otherFraction
      startFraction
  rw [sub, sub, negate, same, otherSame]
  refine round_atMost _ _ positive otherPositive ?_
  rw [amount, otherAmount]
  exact add_le_add_left le _

end ImageAtlas.Binary64
