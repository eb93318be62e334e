import ImageAtlas.Text.Character

/-!
# Numerals

Whole numbers in positional notation: the digits of a number in a base and the
value of digits, the decimal and hexadecimal texts written into reports, and
the reading of a run of decimal digits. Long numbers are taken apart and put
together in halves of equal length; `digitsInHalves_eq_digits` and
`valueInHalves_eq_positional` say that this comes to the same as going digit by
digit. A decimal numeral has at most `numeralLimit` digits, whether it is read,
leading zeros included, or written; `isWritable` tells for which numbers the
second holds.

A numeral that stands alone may be written with the decimal digits of any script
and with blanks around it. Its plain form has ASCII digits and no blanks at the
ends. The four information separators are no blanks there.
-/

namespace ImageAtlas.Text

/-- Digits of a number in a base, the most significant first. Zero has the one
digit zero. -/
def digits (base value : Nat) : List Nat :=
  if base < 2 ∨ value < base then [value]
  else digits base (value / base) ++ [value % base]
termination_by value
decreasing_by exact Nat.div_lt_self (by omega) (by omega)

/-- The least number that has more than `2 ^ halvings` digits in a base. -/
def halfway (base halvings : Nat) : Nat :=
  Nat.pow base (Nat.pow 2 halvings)

/-- The digits of a number with zeros in front, `2 ^ halvings` of them unless it
has more. -/
def allDigits (base : Nat) : Nat → Nat → List Nat
  | 0, value => [value]
  | halvings + 1, value =>
      let middle := halfway base halvings
      allDigits base halvings (value / middle) ++ allDigits base halvings (value % middle)

/-- The digits of a number that has at most `2 ^ halvings` of them. -/
def leadingDigits (base : Nat) : Nat → Nat → List Nat
  | 0, value => [value]
  | halvings + 1, value =>
      let middle := halfway base halvings
      if value < middle then leadingDigits base halvings value
      else leadingDigits base halvings (value / middle) ++ allDigits base halvings (value % middle)

/-- How often the digits of a number have to be halved to come down to single
ones. -/
def halvingsFor (base value : Nat) : Nat :=
  (value.log2 / base.log2).log2 + 1

/-- The digits of a number, found by halving their number. -/
def digitsInHalves (base value : Nat) : List Nat :=
  leadingDigits base (halvingsFor base value) value

/-- The halfway power of one halving more is a square. -/
theorem halfway_succ (base halvings : Nat) :
    halfway base (halvings + 1) = halfway base halvings * halfway base halvings := by
  simp only [halfway, Nat.pow_eq]
  rw [Nat.pow_succ, Nat.mul_two, Nat.pow_add]

/-- Every power of a base that is no less than two is positive. -/
theorem halfway_pos {base : Nat} (large : 2 ≤ base) (halvings : Nat) :
    0 < halfway base halvings :=
  Nat.pow_pos (by omega)

/-- The last digits of a number can be split off all at once. -/
theorem digits_eq_append {base : Nat} (large : 2 ≤ base) (halvings : Nat) {value : Nat}
    (long : halfway base halvings ≤ value) :
    digits base value
      = digits base (value / halfway base halvings)
        ++ allDigits base halvings (value % halfway base halvings) := by
  induction halvings generalizing value with
  | zero =>
      have single : halfway base 0 = base := by simp [halfway]
      rw [single] at long ⊢
      rw [digits, if_neg (by omega), allDigits]
  | succ halvings inductionHypothesis =>
      have positive := halfway_pos large halvings
      rw [halfway_succ] at long ⊢
      have longer : halfway base halvings ≤ value / halfway base halvings :=
        (Nat.le_div_iff_mul_le positive).2 long
      have once : halfway base halvings ≤ value :=
        Nat.le_trans (Nat.le_mul_of_pos_left _ positive) long
      rw [inductionHypothesis once, inductionHypothesis longer, allDigits,
        Nat.div_div_eq_div_mul, Nat.mod_mul_right_div_self, Nat.mod_mul_right_mod,
        List.append_assoc]

/-- Splitting by halves gives the digits of a number. -/
theorem leadingDigits_eq_digits {base : Nat} (large : 2 ≤ base) (halvings : Nat) {value : Nat}
    (short : value < halfway base halvings) :
    leadingDigits base halvings value = digits base value := by
  induction halvings generalizing value with
  | zero =>
      have single : halfway base 0 = base := by simp [halfway]
      rw [single] at short
      rw [leadingDigits, digits, if_pos (Or.inr short)]
  | succ halvings inductionHypothesis =>
      simp only [leadingDigits]
      split
      · rename_i small
        exact inductionHypothesis small
      · rename_i long
        rw [halfway_succ] at short
        have shorter : value / halfway base halvings < halfway base halvings :=
          (Nat.div_lt_iff_lt_mul (halfway_pos large halvings)).2 short
        rw [inductionHypothesis shorter]
        exact (digits_eq_append large halvings (by omega)).symm

/-- The number of halvings is great enough. -/
theorem lt_halfway_halvingsFor {base : Nat} (large : 2 ≤ base) (value : Nat) :
    value < halfway base (halvingsFor base value) := by
  have logPositive : 0 < base.log2 := (Nat.le_log2 (by omega)).2 (by simpa using large)
  have enough : value.log2 < Nat.pow 2 (halvingsFor base value) * base.log2 :=
    (Nat.div_lt_iff_lt_mul logPositive).1 Nat.lt_log2_self
  calc value < 2 ^ (value.log2 + 1) := Nat.lt_log2_self
    _ ≤ 2 ^ (base.log2 * Nat.pow 2 (halvingsFor base value)) :=
        Nat.pow_le_pow_right (by omega) (by rw [Nat.mul_comm]; exact enough)
    _ = (2 ^ base.log2) ^ Nat.pow 2 (halvingsFor base value) := Nat.pow_mul ..
    _ ≤ base ^ Nat.pow 2 (halvingsFor base value) :=
        Nat.pow_le_pow_left (Nat.log2_self_le (by omega)) _

/-- The digits found by halving are the digits. -/
theorem digitsInHalves_eq_digits {base : Nat} (large : 2 ≤ base) (value : Nat) :
    digitsInHalves base value = digits base value :=
  leadingDigits_eq_digits large _ (lt_halfway_halvingsFor large value)

/-- The value of digits in a base, the most significant first. -/
def positional (base : Nat) (digits : List Nat) : Nat :=
  digits.foldl (fun value digit => base * value + digit) 0

/-- Joins neighbouring digits to digits of the base's square. -/
def joinPairs (base : Nat) : List Nat → List Nat
  | high :: low :: rest => (base * high + low) :: joinPairs base rest
  | digits => digits

/-- The same digits in even number, with a zero in front if need be. -/
def evened (digits : List Nat) : List Nat :=
  if digits.length % 2 = 0 then digits else 0 :: digits

/-- The digits are in even number. -/
theorem length_evened (digits : List Nat) : (evened digits).length % 2 = 0 := by
  by_cases even : digits.length % 2 = 0
  · simp [evened, even]
  · simp only [evened, even, if_false, List.length_cons]
    omega

/-- A zero in front adds nothing to the value. -/
theorem positional_evened (base : Nat) (digits : List Nat) :
    positional base (evened digits) = positional base digits := by
  by_cases even : digits.length % 2 = 0 <;> simp [evened, even, positional]

/-- The value of digits whose number is halved so many times. -/
def valueOfHalves : Nat → Nat → List Nat → Nat
  | 0, base, digits => positional base digits
  | halvings + 1, base, digits =>
      valueOfHalves halvings (base * base) (joinPairs base (evened digits))

/-- Joining the pairs of an even number of digits keeps their value. -/
theorem foldl_joinPairs (base : Nat) :
    ∀ (before : Nat) (digits : List Nat), digits.length % 2 = 0 →
      (joinPairs base digits).foldl (fun value digit => base * base * value + digit) before
        = digits.foldl (fun value digit => base * value + digit) before
  | _, [], _ => rfl
  | _, [_], even => by simp at even
  | before, high :: low :: rest, even => by
      simp only [List.length_cons] at even
      rw [joinPairs, List.foldl_cons, foldl_joinPairs base _ rest (by omega), List.foldl_cons,
        List.foldl_cons, Nat.mul_add, Nat.mul_assoc, Nat.add_assoc]

/-- Joining pairs any number of times gives the value of digits. -/
theorem valueOfHalves_eq_positional (halvings base : Nat) (digits : List Nat) :
    valueOfHalves halvings base digits = positional base digits := by
  induction halvings generalizing base digits with
  | zero => rfl
  | succ halvings inductionHypothesis =>
      rw [valueOfHalves, inductionHypothesis, positional,
        foldl_joinPairs base _ _ (length_evened digits)]
      exact positional_evened base digits

/-- The value of digits, found by halving their number. -/
def valueInHalves (base : Nat) (digits : List Nat) : Nat :=
  valueOfHalves digits.length.log2 base digits

/-- The value found by halving is the value. -/
theorem valueInHalves_eq_positional (base : Nat) (digits : List Nat) :
    valueInHalves base digits = positional base digits :=
  valueOfHalves_eq_positional _ base digits

/-- The character of a digit below sixteen, letters in upper case. -/
def digitCharacter (digit : Nat) : Char :=
  Char.ofNat (if digit < 10 then 0x30 + digit else 0x37 + digit)

/-- The character of a digit below sixteen, letters in lower case. -/
def lowerDigitCharacter (digit : Nat) : Char :=
  Char.ofNat (if digit < 10 then 0x30 + digit else 0x57 + digit)

/-- The decimal characters of a natural number. -/
def decimalCharacters (value : Nat) : List Char :=
  (digitsInHalves 10 value).map digitCharacter

/-- The hexadecimal characters of a natural number, in upper case. -/
def hexCharacters (value : Nat) : List Char :=
  (digitsInHalves 16 value).map digitCharacter

/-- Puts zeros in front until there are `width` characters. -/
def padded (width : Nat) (characters : List Char) : List Char :=
  List.replicate (width - characters.length) '0' ++ characters

/-- A number in decimal, a minus sign in front of a negative one. -/
def decimal (value : Int) : String :=
  if value < 0 then String.ofList ('-' :: decimalCharacters value.natAbs)
  else String.ofList (decimalCharacters value.natAbs)

/-- A number in upper-case hexadecimal with at least `width` characters; the
minus sign of a negative number is one of them. -/
def hexadecimal (width : Nat) (value : Int) : String :=
  if value < 0 then
    String.ofList ('-' :: padded (width - 1) (hexCharacters value.natAbs))
  else String.ofList (padded width (hexCharacters value.natAbs))

/-- An address as reports show it: at least six hexadecimal characters after
the mark `0x`. -/
def address (value : Int) : String :=
  "0x" ++ hexadecimal 6 value

/-- Whether a character is an ASCII digit. -/
def isAsciiDigit (character : Char) : Bool :=
  0x30 ≤ character.toNat && character.toNat ≤ 0x39

/-- The value of a hexadecimal digit. -/
def hexValue? (character : Char) : Option Nat :=
  let code := character.toNat
  if 0x30 ≤ code ∧ code ≤ 0x39 then some (code - 0x30)
  else if 0x41 ≤ code ∧ code ≤ 0x46 then some (code - 0x37)
  else if 0x61 ≤ code ∧ code ≤ 0x66 then some (code - 0x57)
  else none

/-- The most digits a decimal numeral may have. -/
def numeralLimit : Nat := 4300

/-- The least number that needs more digits than the limit. -/
def numeralBound : Nat := Nat.pow 10 numeralLimit

/-- Whether a number has few enough digits to be written in decimal. -/
def isWritable (value : Int) : Bool :=
  value.natAbs < numeralBound

/-- The report of a number that has too many digits to be written. -/
def tooManyDigits : String :=
  "Exceeds the limit (" ++ decimal numeralLimit
    ++ " digits) for integer string conversion; "
    ++ "use sys.set_int_max_str_digits() to increase the limit"

/-- The report of a numeral beyond the limit that was to be read. -/
def numeralTooLong (characters : Nat) : String :=
  "Exceeds the limit (" ++ decimal numeralLimit
    ++ " digits) for integer string conversion: value has " ++ decimal characters
    ++ " digits; use sys.set_int_max_str_digits() to increase the limit"

/-- The value of decimal digits, the most significant first. Characters that
are no digits count as zero. -/
def decimalValue (characters : List Char) : Nat :=
  valueInHalves 10 (characters.map fun character => (digitValue? character).getD 0)

/-- Reads a run of decimal digits, or reports the number of its characters
when there are more than the limit. -/
def readDecimal (characters : List Char) : Except Nat Nat :=
  if characters.length ≤ numeralLimit then .ok (decimalValue characters)
  else .error characters.length

/-- Whether an ASCII character may stand around a numeral. -/
def isPlainBlank (character : Char) : Bool :=
  character == ' ' || (0x9 ≤ character.toNat && character.toNat ≤ 0xD)

/-- The ASCII character as which a character counts in a numeral. One that has
no place there counts as itself. -/
def plainCharacter (character : Char) : Char :=
  if character.toNat < 0x80 then character
  else if isBlank character then ' '
  else
    match digitValue? character with
    | some value => digitCharacter value
    | none => character

/-- The characters of the plain form of a numeral. -/
def plainCharacters (text : String) : List Char :=
  let plain := (text.toList.map plainCharacter).dropWhile isPlainBlank
  (plain.reverse.dropWhile isPlainBlank).reverse

end ImageAtlas.Text
