import ImageAtlas.Text.Numeral
import Mathlib.Data.List.Induction
import Mathlib.Tactic.Ring

/-!
# Numerals that are written

The digits of a number are digits of the base and have the number as their value,
and there are as many of them as the powers of the base that it reaches. A number
that is written in decimal is therefore a run of decimal digits with the number as
its value, and it is no longer than what is read exactly if the number is writable. It
begins with a zero only if it is zero.
-/

namespace ImageAtlas.Text

variable {base value : Nat}

/-- A number has digits. -/
theorem digits_ne_nil (base value : Nat) : digits base value ≠ [] := by
  rw [digits]
  split
  · exact List.cons_ne_nil value []
  · exact List.append_ne_nil_of_right_ne_nil _ (List.cons_ne_nil _ [])

/-- The digits of a number are digits of the base. -/
theorem lt_of_mem_digits (large : 2 ≤ base) {digit : Nat} (member : digit ∈ digits base value) :
    digit < base := by
  fun_induction digits base value with
  | case1 value single =>
      rw [List.mem_singleton.1 member]
      omega
  | case2 value more inductionHypothesis =>
      rcases List.mem_append.1 member with before | last
      · exact inductionHypothesis before
      · rw [List.mem_singleton.1 last]
        exact Nat.mod_lt value (by omega)

/-- One more digit multiplies the value by the base and adds to it. -/
theorem positional_append_singleton (base : Nat) (digits : List Nat) (digit : Nat) :
    positional base (digits ++ [digit]) = base * positional base digits + digit := by
  rw [positional, List.foldl_append]
  rfl

/-- The digits of a number have it as their value. -/
theorem positional_digits (base value : Nat) : positional base (digits base value) = value := by
  fun_induction digits base value with
  | case1 value single => simp [positional]
  | case2 value more inductionHypothesis =>
      rw [positional_append_singleton, inductionHypothesis, Nat.div_add_mod]

/-- A number has no more digits than so many exactly if it is below that power of the
base. -/
theorem length_digits_le_iff (large : 2 ≤ base) {count : Nat} (some : 0 < count) :
    (digits base value).length ≤ count ↔ value < Nat.pow base count := by
  induction count generalizing value with
  | zero => cases some
  | succ count inductionHypothesis =>
      have power : Nat.pow base (count + 1) = Nat.pow base count * base := rfl
      rw [digits]
      split
      · rename_i single
        have positive : 0 < Nat.pow base count := Nat.pow_pos (by omega)
        have reached : base ≤ Nat.pow base count * base := Nat.le_mul_of_pos_left base positive
        simp only [List.length_singleton]
        omega
      · rename_i more
        rw [List.length_append, List.length_singleton, Nat.add_le_add_iff_right]
        cases count with
        | zero =>
            have nonempty := List.length_pos_iff.2 (digits_ne_nil base (value / base))
            have single : Nat.pow base 0 = 1 := Nat.pow_zero base
            rw [power, single]
            omega
        | succ count =>
            rw [inductionHypothesis (Nat.succ_pos count), power,
              Nat.div_lt_iff_lt_mul (by omega)]

/-- The character of a decimal digit has its value. -/
theorem digitValue?_digitCharacter {digit : Nat} (below : digit < 10) :
    digitValue? (digitCharacter digit) = some digit := by
  revert digit
  decide +kernel

/-- The decimal characters of a number are those of its digits. -/
theorem decimalCharacters_eq (value : Nat) :
    decimalCharacters value = (digits 10 value).map digitCharacter := by
  rw [decimalCharacters, digitsInHalves_eq_digits (by decide)]

/-- The text of a natural number in decimal. -/
theorem toList_decimal (value : Nat) : (decimal value).toList = decimalCharacters value := by
  rw [decimal, if_neg (Int.not_lt.2 (Int.natCast_nonneg value)), String.toList_ofList,
    Int.natAbs_natCast]

/-- A number is written with characters. -/
theorem decimalCharacters_ne_nil (value : Nat) : decimalCharacters value ≠ [] := by
  rw [decimalCharacters_eq, Ne, List.map_eq_nil_iff]
  exact digits_ne_nil 10 value

/-- A number is written with decimal digits. -/
theorem isDecimal_of_mem_decimalCharacters {character : Char}
    (member : character ∈ decimalCharacters value) : isDecimal character = true := by
  rw [decimalCharacters_eq] at member
  obtain ⟨digit, listed, rfl⟩ := List.mem_map.1 member
  rw [isDecimal, digitValue?_digitCharacter (lt_of_mem_digits (by decide) listed)]
  rfl

/-- What is written of a number has it as its value. -/
theorem positional_decimalCharacters (value : Nat) :
    positional 10 ((decimalCharacters value).map fun character =>
      (digitValue? character).getD 0) = value := by
  have kept : ∀ digit ∈ digits 10 value,
      (digitValue? (digitCharacter digit)).getD 0 = digit := by
    intro digit member
    rw [digitValue?_digitCharacter (lt_of_mem_digits (by decide) member)]
    rfl
  have same : (digits 10 value).map ((fun character => (digitValue? character).getD 0) ∘
      digitCharacter) = digits 10 value :=
    (List.map_congr_left kept).trans (List.map_id' _)
  rw [decimalCharacters_eq, List.map_map, same, positional_digits]

/-- A number is written with at most as many characters as are read exactly if it is
writable. -/
theorem length_decimalCharacters_le_iff :
    (decimalCharacters value).length ≤ numeralLimit ↔ isWritable value = true := by
  have some : 0 < numeralLimit := by decide
  rw [decimalCharacters_eq, List.length_map, length_digits_le_iff (by decide) some,
    isWritable, decide_eq_true_iff, Int.natAbs_natCast]
  delta numeralBound
  -- With the limit in sight the power would be computed.
  generalize numeralLimit = limit
  exact Iff.rfl

/-- Digits stand for a number below the next power of the base. -/
theorem positional_lt {base : Nat} {digits : List Nat}
    (below : ∀ digit ∈ digits, digit < base) : positional base digits < base ^ digits.length := by
  induction digits using List.reverseRecOn with
  | nil => exact Nat.one_pos
  | append_singleton digits digit inductionHypothesis =>
      have last : digit < base := below digit (by simp)
      have others : positional base digits < base ^ digits.length :=
        inductionHypothesis fun other member => below other (List.mem_append_left _ member)
      rw [positional_append_singleton, List.length_append, List.length_singleton]
      calc base * positional base digits + digit
          < base * positional base digits + base := Nat.add_lt_add_left last _
        _ = base * (positional base digits + 1) := (Nat.mul_succ _ _).symm
        _ ≤ base * base ^ digits.length := Nat.mul_le_mul_left base others
        _ = base ^ (digits.length + 1) := (Nat.pow_succ').symm

/-- A numeral within the limit stands for a number that can be written. -/
theorem isWritable_positional {digits : List Nat} (below : ∀ digit ∈ digits, digit < 10)
    (short : digits.length ≤ numeralLimit) : isWritable (positional 10 digits : Nat) = true := by
  rw [isWritable, decide_eq_true_iff, Int.natAbs_natCast]
  delta numeralBound
  -- With the limit in sight the power would be computed.
  generalize numeralLimit = limit at short
  exact Nat.lt_of_lt_of_le (positional_lt below) (Nat.pow_le_pow_right (by decide) short)

/-- Digits behind others move those up and add their own value. -/
theorem positional_append (base : Nat) (left right : List Nat) :
    positional base (left ++ right)
      = positional base left * base ^ right.length + positional base right := by
  induction right using List.reverseRecOn with
  | nil => simp [positional]
  | append_singleton right digit inductionHypothesis =>
      rw [← List.append_assoc, positional_append_singleton, positional_append_singleton,
        inductionHypothesis, List.length_append, List.length_singleton]
      ring

/-- Decimal digits behind others move those up and add their own value. -/
theorem decimalValue_append (left right : List Char) :
    decimalValue (left ++ right) = decimalValue left * 10 ^ right.length + decimalValue right := by
  simp only [decimalValue, valueInHalves_eq_positional, List.map_append, positional_append,
    List.length_map]

/-- Zeros have no value. -/
theorem decimalValue_replicate_zero (count : Nat) :
    decimalValue (List.replicate count '0') = 0 := by
  induction count with
  | zero => rfl
  | succ count inductionHypothesis =>
      have zero : decimalValue ['0'] = 0 := by decide +kernel
      rw [List.replicate_succ', decimalValue_append, inductionHypothesis, zero]
      rfl

/-- What is written of a number is read as it. -/
theorem decimalValue_decimalCharacters (value : Nat) :
    decimalValue (decimalCharacters value) = value := by
  rw [decimalValue, valueInHalves_eq_positional]
  exact positional_decimalCharacters value

/-- A number is written with ASCII digits. -/
theorem isAsciiDigit_of_mem_decimalCharacters {value : Nat} {character : Char}
    (member : character ∈ decimalCharacters value) : isAsciiDigit character = true := by
  have ascii : ∀ digit < 10, isAsciiDigit (digitCharacter digit) = true := by decide +kernel
  rw [decimalCharacters_eq] at member
  obtain ⟨digit, listed, rfl⟩ := List.mem_map.1 member
  exact ascii digit (lt_of_mem_digits (by decide) listed)

/-- The first digit of a number that is not zero is not zero. -/
theorem head?_digits {base value : Nat} (large : 2 ≤ base) (nonzero : value ≠ 0) :
    (digits base value).head? ≠ some 0 := by
  fun_induction digits base value with
  | case1 value single => simpa using nonzero
  | case2 value more inductionHypothesis =>
      have quotient : value / base ≠ 0 := Nat.div_ne_zero_iff.2 (by omega)
      obtain ⟨first, rest, digits⟩ := List.exists_cons_of_ne_nil (digits_ne_nil base (value / base))
      have leading := inductionHypothesis quotient
      rw [digits] at leading ⊢
      exact leading

/-- A number that is not zero does not begin with a zero. -/
theorem head?_decimalCharacters {value : Nat} (nonzero : value ≠ 0) :
    (decimalCharacters value).head? ≠ some '0' := by
  have zero : ∀ digit < 10, digitCharacter digit = '0' → digit = 0 := by decide +kernel
  rw [decimalCharacters_eq, List.head?_map]
  intro first
  obtain ⟨digit, headed, character⟩ := Option.map_eq_some_iff.1 first
  have below := lt_of_mem_digits (by decide) (List.mem_of_mem_head? headed)
  rw [zero digit below character] at headed
  exact head?_digits (by decide) nonzero headed

end ImageAtlas.Text
