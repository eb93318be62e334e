import ImageAtlas.Proofs.Text.Numeral

/-!
# Hexadecimal numerals

The characters of hexadecimal digits are read back in either case, and they are those of the
standard numeral: lower-case digits are its digits, upper-case digits its digits in upper
case.
-/

namespace ImageAtlas.Text

variable {base value digit : Nat}

/-- An upper-case hexadecimal digit has its value. -/
theorem hexValue?_digitCharacter (below : digit < 16) :
    hexValue? (digitCharacter digit) = some digit := by
  revert digit
  decide +kernel

/-- A lower-case hexadecimal digit has its value. -/
theorem hexValue?_lowerDigitCharacter (below : digit < 16) :
    hexValue? (lowerDigitCharacter digit) = some digit := by
  revert digit
  decide +kernel

/-- A lower-case digit is the standard character of the digit. -/
theorem lowerDigitCharacter_eq (below : digit < 16) :
    lowerDigitCharacter digit = digit.digitChar := by
  revert digit
  decide +kernel

/-- An upper-case digit is the standard character of the digit in upper case. -/
theorem digitCharacter_eq (below : digit < 16) :
    digitCharacter digit = digit.digitChar.toUpper := by
  revert digit
  decide +kernel

/-- The digits of a number are those of its standard numeral. -/
theorem map_digitChar_digits (large : 2 ≤ base) :
    (digits base value).map Nat.digitChar = Nat.toDigits base value := by
  fun_induction digits base value with
  | case1 value single =>
      rw [Nat.toDigits_of_lt_base (by omega)]
      rfl
  | case2 value more inductionHypothesis =>
      have reached : base ≤ value := by omega
      rw [List.map_append, inductionHypothesis]
      exact (Nat.toDigits_of_base_le large reached).symm

/-- The lower-case digits of a number are its standard numeral. -/
theorem map_lowerDigitCharacter_digits (value : Nat) :
    (digits 16 value).map lowerDigitCharacter = Nat.toDigits 16 value := by
  rw [← map_digitChar_digits (by decide)]
  exact List.map_congr_left fun digit member =>
    lowerDigitCharacter_eq (lt_of_mem_digits (by decide) member)

/-- The upper-case digits of a number are its standard numeral in upper case. -/
theorem map_digitCharacter_digits (value : Nat) :
    (digits 16 value).map digitCharacter = (Nat.toDigits 16 value).map Char.toUpper := by
  rw [← map_digitChar_digits (by decide), List.map_map]
  exact List.map_congr_left fun digit member =>
    digitCharacter_eq (lt_of_mem_digits (by decide) member)

/-- The hexadecimal characters of a number are its upper-case digits. -/
theorem hexCharacters_eq (value : Nat) :
    hexCharacters value = (digits 16 value).map digitCharacter := by
  rw [hexCharacters, digitsInHalves_eq_digits (by decide)]

end ImageAtlas.Text
