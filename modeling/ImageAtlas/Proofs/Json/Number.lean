import ImageAtlas.Json.Reader
import ImageAtlas.Proofs.Text.Numeral
import ImageAtlas.Proofs.Decimal.Shortest

/-!
# Numbers read back

A number ends where neither a digit nor a point nor the mark of an exponent follows. Up to
there a run of digits is read as a whole number, and digits with a point or an exponent as
the number nearest to their decimal. The layout of a shortest decimal spells that decimal,
so the text of a finite number is read back as the number.
-/

namespace ImageAtlas.Json

open ImageAtlas.Text

/-- A run of digits does not go on with what stands behind it. -/
def EndsDigits (behind : List Char) : Prop :=
  ∀ character, behind.head? = some character → isAsciiDigit character = false

/-- A number does not go on with what stands behind it. -/
def EndsNumber (behind : List Char) : Prop :=
  ∀ character, behind.head? = some character →
    isAsciiDigit character = false ∧ character ≠ '.' ∧ character ≠ 'e' ∧ character ≠ 'E'

/-- Digits that are read as the whole part of a number: there are some, and no zero stands
in front of others. -/
structure WholePart (digits : List Char) : Prop where
  ascii : ∀ digit ∈ digits, isAsciiDigit digit = true
  nonempty : digits ≠ []
  leading : digits.head? = some '0' → digits = ['0']

variable {digits whole decimals behind : List Char}

/-- No digit of a whole part is left over. -/
theorem WholePart.front (part : WholePart whole) :
    (if whole.head? = some '0' then ['0'] else whole) = whole := by
  split
  · rename_i zero
    exact (part.leading zero).symm
  · rfl

/-- Where a number ends its digits end. -/
theorem EndsNumber.endsDigits (ends : EndsNumber behind) : EndsDigits behind :=
  fun character first => (ends character first).1

/-- A number ends before a character that is no part of one. -/
theorem endsNumber_cons {character : Char}
    (other : isAsciiDigit character = false ∧ character ≠ '.' ∧ character ≠ 'e' ∧
      character ≠ 'E') : EndsNumber (character :: behind) := by
  intro first same
  cases same
  exact other

/-- Digits are taken up to their end. -/
theorem takeWhile_digits (ascii : ∀ digit ∈ digits, isAsciiDigit digit = true)
    (ends : EndsDigits behind) : (digits ++ behind).takeWhile isAsciiDigit = digits := by
  rw [List.takeWhile_append_of_pos ascii]
  cases behind with
  | nil => simp
  | cons first rest => simp [ends first rfl]

/-- What is left when digits are taken begins at their end. -/
theorem dropWhile_digits (ascii : ∀ digit ∈ digits, isAsciiDigit digit = true)
    (ends : EndsDigits behind) : (digits ++ behind).dropWhile isAsciiDigit = behind := by
  rw [List.dropWhile_append_of_pos ascii]
  cases behind with
  | nil => simp
  | cons first rest => simp [ends first rfl]

/-- Digits behind a point are the fraction. -/
theorem fraction?_point (some : decimals ≠ [])
    (ascii : ∀ digit ∈ decimals, isAsciiDigit digit = true) (ends : EndsDigits behind) :
    fraction? ('.' :: (decimals ++ behind)) = .some (decimals, behind) := by
  simp only [fraction?, takeWhile_digits ascii ends, dropWhile_digits ascii ends, if_neg some]

/-- There is no fraction without a point. -/
theorem fraction?_none (pointless : ∀ character, behind.head? = some character →
    character ≠ '.') : fraction? behind = none := by
  cases behind with
  | nil => rfl
  | cons first rest =>
      simp only [fraction?]
      split
      · rename_i point
        cases point
        exact absurd rfl (pointless '.' rfl)
      · rfl

/-- Digits behind a mark and a sign are the exponent. -/
theorem exponent?_mark (some : digits ≠ [])
    (ascii : ∀ digit ∈ digits, isAsciiDigit digit = true) (ends : EndsDigits behind)
    (below : Bool) :
    exponent? ('e' :: (if below then '-' else '+') :: (digits ++ behind))
      = .some (if below then -(decimalValue digits : Int) else decimalValue digits, behind) := by
  cases below <;>
    simp [exponent?, takeWhile_digits ascii ends, dropWhile_digits ascii ends, some]

/-- There is no exponent without a mark. -/
theorem exponent?_none (unmarked : ∀ character, behind.head? = some character →
    character ≠ 'e' ∧ character ≠ 'E') : exponent? behind = none := by
  cases behind with
  | nil => rfl
  | cons first rest => simp [exponent?, unmarked first rfl]

/-- A run of digits alone is read as a whole number. -/
theorem readNumber_whole (negative : Bool) (part : WholePart whole)
    (short : whole.length ≤ numeralLimit) (ends : EndsNumber behind) :
    readNumber negative (whole ++ behind) = .ok (.integer
      (if negative then -(decimalValue whole : Int) else decimalValue whole), behind) := by
  have pointless : fraction? behind = none := fraction?_none fun _ first => (ends _ first).2.1
  have unmarked : exponent? behind = none := exponent?_none fun _ first => (ends _ first).2.2
  simp only [readNumber, takeWhile_digits part.ascii ends.endsDigits, part.front, List.drop_left,
    if_neg part.nonempty, pointless, Option.getD_none, unmarked, Option.isNone_none,
    Bool.and_true, if_true, readDecimal, if_pos short]

/-- Digits on both sides of a point are read as the number nearest to their decimal. -/
theorem readNumber_point (negative : Bool) (part : WholePart whole) (some : decimals ≠ [])
    (ascii : ∀ digit ∈ decimals, isAsciiDigit digit = true) (ends : EndsNumber behind) :
    readNumber negative (whole ++ '.' :: (decimals ++ behind)) = .ok (.real
      (.ofDecimal negative (decimalValue (whole ++ decimals)) (0 - decimals.length)), behind) := by
  have point : EndsDigits ('.' :: (decimals ++ behind)) := by
    rintro _ ⟨⟩
    rfl
  have unmarked : exponent? behind = none := exponent?_none fun _ first => (ends _ first).2.2
  simp only [readNumber, takeWhile_digits part.ascii point, part.front, List.drop_left,
    if_neg part.nonempty, fraction?_point some ascii ends.endsDigits, Option.getD_some, unmarked,
    Option.getD_none, Option.isNone_some, Bool.false_and, Bool.false_eq_true, if_false]

/-- Digits with a power of ten are read as the number nearest to their decimal, whether or
not some of them stand behind a point. -/
theorem readNumber_exponent (negative : Bool) (part : WholePart whole)
    (ascii : ∀ digit ∈ decimals, isAsciiDigit digit = true) (some : digits ≠ [])
    (powerAscii : ∀ digit ∈ digits, isAsciiDigit digit = true) (ends : EndsNumber behind)
    (below : Bool) :
    readNumber negative (whole ++ ((if decimals = [] then [] else '.' :: decimals)
        ++ 'e' :: (if below then '-' else '+') :: (digits ++ behind))) = .ok (.real
      (.ofDecimal negative (decimalValue (whole ++ decimals))
        ((if below then -(decimalValue digits : Int) else decimalValue digits)
          - decimals.length)), behind) := by
  have marked := exponent?_mark some powerAscii ends.endsDigits below
  have mark : EndsDigits ('e' :: (if below then '-' else '+') :: (digits ++ behind)) := by
    rintro _ ⟨⟩
    rfl
  by_cases none : decimals = []
  · have pointless : fraction? ('e' :: (if below then '-' else '+') :: (digits ++ behind))
        = .none := by
      refine fraction?_none ?_
      rintro _ ⟨⟩
      decide
    subst none
    simp only [if_true, List.nil_append, readNumber, takeWhile_digits part.ascii mark, part.front,
      List.drop_left, if_neg part.nonempty, pointless, Option.getD_none, marked,
      Option.isNone_some, Bool.and_false, Bool.false_eq_true, if_false, Option.getD_some,
      List.append_nil, List.length_nil]
  · have point : EndsDigits ('.' :: (decimals ++
        'e' :: (if below then '-' else '+') :: (digits ++ behind))) := by
      rintro _ ⟨⟩
      rfl
    simp only [if_neg none, List.cons_append, readNumber, takeWhile_digits part.ascii point,
      part.front, List.drop_left, if_neg part.nonempty, fraction?_point none ascii mark,
      Option.getD_some, marked, Option.isNone_some, Bool.false_and, Bool.false_eq_true, if_false]

/-- A number that is written is a whole part. -/
theorem wholePart_decimalCharacters (value : Nat) : WholePart (decimalCharacters value) where
  ascii _ member := isAsciiDigit_of_mem_decimalCharacters member
  nonempty := decimalCharacters_ne_nil value
  leading first := by
    by_cases zero : value = 0
    · rw [zero]
      decide +kernel
    · exact absurd first (head?_decimalCharacters zero)

/-- Digits that do not begin with a zero are a whole part. -/
theorem wholePart_of_leading (ascii : ∀ digit ∈ digits, isAsciiDigit digit = true)
    (nonempty : digits ≠ []) (leading : digits.head? ≠ some '0') : WholePart digits :=
  ⟨ascii, nonempty, fun zero => absurd zero leading⟩

/-- Zeros are digits. -/
theorem isAsciiDigit_of_mem_replicate {count : Nat} {character : Char}
    (member : character ∈ List.replicate count '0') : isAsciiDigit character = true := by
  rw [List.eq_of_mem_replicate member]
  rfl

/-- A zero alone is a digit. -/
theorem isAsciiDigit_of_mem_zero : ∀ digit ∈ ['0'], isAsciiDigit digit = true :=
  fun _ member => isAsciiDigit_of_mem_replicate (List.mem_replicate.2
    ⟨Nat.one_ne_zero, List.mem_singleton.1 member⟩)

/-- A zero alone is a whole part. -/
theorem wholePart_zero : WholePart ['0'] :=
  ⟨isAsciiDigit_of_mem_zero, List.cons_ne_nil _ _, fun _ => rfl⟩

/-- Zeros in front of digits do not change their value. -/
theorem decimalValue_zeros_append (count : Nat) (digits : List Char) :
    decimalValue (List.replicate count '0' ++ digits) = decimalValue digits := by
  rw [decimalValue_append, decimalValue_replicate_zero, Nat.zero_mul, Nat.zero_add]

section LayOut

variable {characters : List Char} {place : Int}
  (ascii : ∀ digit ∈ characters, isAsciiDigit digit = true) (nonempty : characters ≠ [])
  (leading : characters.head? ≠ some '0') (ends : EndsNumber behind)

include ascii nonempty ends in
/-- Digits behind a point and zeros. -/
theorem readNumber_fractional (negative : Bool) (behindPoint : place ≤ 0) :
    readNumber negative ('0' :: '.' :: (List.replicate (-place).toNat '0' ++ characters)
        ++ behind) = .ok (.real
      (.ofDecimal negative (decimalValue characters) (place - characters.length)), behind) := by
  have all : ∀ digit ∈ List.replicate (-place).toNat '0' ++ characters,
      isAsciiDigit digit = true := by
    intro digit member
    rcases List.mem_append.1 member with zero | other
    · exact isAsciiDigit_of_mem_replicate zero
    · exact ascii digit other
  have some := List.append_ne_nil_of_right_ne_nil (List.replicate (-place).toNat '0') nonempty
  have value : decimalValue (['0'] ++ (List.replicate (-place).toNat '0' ++ characters))
      = decimalValue characters := by
    rw [← List.append_assoc]
    exact decimalValue_zeros_append ((-place).toNat + 1) characters
  have power : (0 : Int) - (List.replicate (-place).toNat '0' ++ characters).length
      = place - characters.length := by
    rw [List.length_append, List.length_replicate]
    omega
  rw [← value, ← power]
  exact readNumber_point negative wholePart_zero some all ends

include ascii nonempty leading ends in
/-- Digits with zeros behind them up to the point, and one behind it. -/
theorem readNumber_filledUp (negative : Bool) (short : characters.length ≤ place.toNat)
    (inFront : 0 < place) :
    readNumber negative (characters
        ++ List.replicate (place.toNat - characters.length) '0' ++ '.' :: '0' :: behind) =
      .ok (.real (.ofDecimal negative (decimalValue characters) (place - characters.length)),
        behind) := by
  have part : WholePart (characters ++ List.replicate (place.toNat - characters.length) '0') := by
    refine wholePart_of_leading ?_ (List.append_ne_nil_of_left_ne_nil nonempty _) ?_
    · intro digit member
      rcases List.mem_append.1 member with other | zero
      · exact ascii digit other
      · exact isAsciiDigit_of_mem_replicate zero
    · obtain ⟨first, rest, rfl⟩ := List.exists_cons_of_ne_nil nonempty
      exact leading
  have read := readNumber_point negative part (List.cons_ne_nil '0' [])
    isAsciiDigit_of_mem_zero ends
  have zeros : List.replicate (place.toNat - characters.length) '0' ++ ['0']
      = List.replicate (place.toNat - characters.length + 1) '0' :=
    List.replicate_succ'.symm
  have amount : (decimalValue
        (characters ++ List.replicate (place.toNat - characters.length + 1) '0') : ℚ)
        * 10 ^ (0 - (['0'].length : Int))
      = decimalValue characters * 10 ^ (place - characters.length) := by
    rw [decimalValue_append, decimalValue_replicate_zero, List.length_replicate, Nat.add_zero,
      Nat.cast_mul, Nat.cast_pow, Nat.cast_ofNat, mul_assoc, ← zpow_natCast,
      ← zpow_add₀ (by norm_num)]
    congr 2
    rw [List.length_singleton]
    omega
  rw [List.append_assoc characters _ ['0'], zeros, Binary64.ofDecimal_congr negative amount] at read
  exact read

include ascii leading ends in
/-- Digits around a point. -/
theorem readNumber_around (negative : Bool) (long : place.toNat < characters.length)
    (inFront : 0 < place) :
    readNumber negative (characters.take place.toNat
        ++ '.' :: (characters.drop place.toNat ++ behind)) =
      .ok (.real (.ofDecimal negative (decimalValue characters) (place - characters.length)),
        behind) := by
  have taken : (characters.take place.toNat).length = place.toNat := by
    rw [List.length_take]
    omega
  have some : characters.drop place.toNat ≠ [] :=
    fun last => Nat.not_le.2 long (List.drop_eq_nil_iff.1 last)
  have part : WholePart (characters.take place.toNat) := by
    refine wholePart_of_leading (fun digit member => ascii digit (List.mem_of_mem_take member))
      (List.length_pos_iff.1 (by omega)) ?_
    rw [List.head?_take, if_neg (by omega)]
    exact leading
  have read := readNumber_point negative part some
    (fun digit member => ascii digit (List.mem_of_mem_drop member)) ends
  have power : (0 : Int) - (characters.drop place.toNat).length
      = place - characters.length := by
    rw [List.length_drop]
    omega
  rw [List.take_append_drop, power] at read
  exact read

include ascii nonempty leading ends in
/-- Digits around a point, with zeros where there are none. -/
theorem readNumber_positional (negative : Bool) (inFront : 0 < place) :
    readNumber negative (characters.take place.toNat
        ++ List.replicate (place.toNat - (characters.take place.toNat).length) '0'
        ++ '.' :: (if characters.drop place.toNat = [] then ['0']
          else characters.drop place.toNat) ++ behind) = .ok (.real
      (.ofDecimal negative (decimalValue characters) (place - characters.length)), behind) := by
  rcases Nat.lt_or_ge place.toNat characters.length with long | short
  · have some : characters.drop place.toNat ≠ [] :=
      fun last => Nat.not_le.2 long (List.drop_eq_nil_iff.1 last)
    rw [if_neg some, List.length_take_of_le long.le, Nat.sub_self, List.replicate_zero,
      List.append_nil, List.append_assoc, List.cons_append]
    exact readNumber_around ascii leading ends negative long inFront
  · rw [if_pos (List.drop_eq_nil_iff.2 short), List.take_of_length_le short, List.append_assoc,
      List.cons_append]
    exact readNumber_filledUp ascii nonempty leading ends negative short inFront

include ascii nonempty leading ends in
/-- Digits with a point behind the first of them, if there are more, and a power of ten. -/
theorem readNumber_scientific (negative : Bool) (place : Int) :
    readNumber negative (characters.take 1
        ++ (if characters.drop 1 = [] then [] else '.' :: characters.drop 1)
        ++ 'e' :: (if place - 1 < 0 then '-' else '+')
          :: padded 2 (decimalCharacters (place - 1).natAbs) ++ behind) = .ok (.real
      (.ofDecimal negative (decimalValue characters) (place - characters.length)), behind) := by
  have some : 0 < characters.length := List.length_pos_iff.2 nonempty
  have part : WholePart (characters.take 1) := by
    refine wholePart_of_leading (fun digit member => ascii digit (List.mem_of_mem_take member))
      (List.length_pos_iff.1 (by rw [List.length_take]; omega)) ?_
    rw [List.head?_take, if_neg Nat.one_ne_zero]
    exact leading
  have powerAscii : ∀ digit ∈ padded 2 (decimalCharacters (place - 1).natAbs),
      isAsciiDigit digit = true := by
    intro digit member
    rcases List.mem_append.1 member with zero | other
    · exact isAsciiDigit_of_mem_replicate zero
    · exact isAsciiDigit_of_mem_decimalCharacters other
  have value : decimalValue (padded 2 (decimalCharacters (place - 1).natAbs))
      = (place - 1).natAbs := by
    rw [padded, decimalValue_zeros_append, decimalValue_decimalCharacters]
  have rest : ∀ digit ∈ characters.drop 1, isAsciiDigit digit = true :=
    fun digit member => ascii digit (List.mem_of_mem_drop member)
  have written : padded 2 (decimalCharacters (place - 1).natAbs) ≠ [] :=
    List.append_ne_nil_of_right_ne_nil _ (decimalCharacters_ne_nil _)
  have read := readNumber_exponent negative part rest written powerAscii ends
    (decide (place - 1 < 0))
  have power : (if place - 1 < 0 then -((place - 1).natAbs : Int) else (place - 1).natAbs)
      - (characters.drop 1).length = place - characters.length := by
    rw [List.length_drop]
    split <;> omega
  simp only [decide_eq_true_eq, value, power, List.take_append_drop] at read
  simpa only [List.append_assoc, List.cons_append] using read

include ascii nonempty leading ends in
/-- The digits of a decimal are read back from its layout, with the power that the place of
the point gives them. -/
theorem readNumber_layOut (negative : Bool) (place : Int) :
    readNumber negative (Binary64.layOut characters place ++ behind) = .ok (.real
      (.ofDecimal negative (decimalValue characters) (place - characters.length)), behind) := by
  simp only [Binary64.layOut]
  split
  · split
    · rename_i behindPoint
      exact readNumber_fractional ascii nonempty ends negative behindPoint
    · rename_i inFront
      exact readNumber_positional ascii nonempty leading ends negative (Int.not_le.1 inFront)
  · exact readNumber_scientific ascii nonempty leading ends negative place

end LayOut

/-- Digits are the trimmed ones with zeros behind them. -/
theorem exists_trimZeros (characters : List Char) :
    ∃ zeros, characters = Binary64.trimZeros characters ++ List.replicate zeros '0' := by
  induction characters using List.reverseRecOn with
  | nil => exact ⟨0, rfl⟩
  | append_singleton characters last inductionHypothesis =>
      by_cases zero : last = '0'
      · obtain ⟨zeros, split⟩ := inductionHypothesis
        have trimmed : Binary64.trimZeros (characters ++ [last])
            = Binary64.trimZeros characters := by
          simp [Binary64.trimZeros, zero]
        refine ⟨zeros + 1, ?_⟩
        rw [trimmed, List.replicate_succ', ← List.append_assoc, ← split, zero]
      · refine ⟨0, ?_⟩
        simp [Binary64.trimZeros, zero]

/-- The text of a positive finite number is read back as it. -/
theorem readNumber_shortestForm {exponentField : Fin 2047} {fraction : Fin implicitBit}
    (some : 0 < Binary64.significand exponentField fraction) (negative : Bool)
    (ends : EndsNumber behind) :
    let form := Binary64.shortestForm negative exponentField fraction
    let written := decimalCharacters form.digits
    readNumber negative
        (Binary64.layOut (Binary64.trimZeros written) (written.length + form.power) ++ behind)
      = .ok (.real (.finite negative exponentField fraction), behind) := by
  intro form written
  have back : Binary64.ofDecimal negative form.digits form.power
      = .finite negative exponentField fraction := Binary64.read_shortestForm negative some
  have nonzero : form.digits ≠ 0 := by
    intro zero
    rw [zero, Binary64.ofDecimal, if_pos rfl, Binary64.round, if_pos rfl] at back
    cases back
    exact absurd some (by decide)
  have leads : written.head? ≠ .some '0' := head?_decimalCharacters nonzero
  have ascii : ∀ digit ∈ written, isAsciiDigit digit = true :=
    fun digit => isAsciiDigit_of_mem_decimalCharacters
  have value : decimalValue written = form.digits := decimalValue_decimalCharacters _
  obtain ⟨zeros, split⟩ := exists_trimZeros written
  generalize Binary64.trimZeros written = characters at split ⊢
  rw [split] at value leads ascii ⊢
  have nonempty : characters ≠ [] := by
    rintro rfl
    rw [List.nil_append, decimalValue_replicate_zero] at value
    exact nonzero value.symm
  have leading : characters.head? ≠ .some '0' := by
    obtain ⟨first, rest, rfl⟩ := List.exists_cons_of_ne_nil nonempty
    exact leads
  rw [readNumber_layOut (fun digit member => ascii digit (List.mem_append_left _ member))
    nonempty leading ends, ← back]
  have amount : (decimalValue characters : ℚ) * 10 ^
      (((characters ++ List.replicate zeros '0').length : Int) + form.power - characters.length)
        = form.digits * 10 ^ form.power := by
    rw [← value, decimalValue_append, decimalValue_replicate_zero, List.length_append,
      List.length_replicate, Nat.add_zero, Nat.cast_mul, Nat.cast_pow, Nat.cast_ofNat, mul_assoc,
      ← zpow_natCast, ← zpow_add₀ (by norm_num)]
    congr 2
    omega
  rw [Binary64.ofDecimal_congr negative amount]

/-- The text of a zero is read back as it. -/
theorem readNumber_zero {exponentField : Fin 2047} {fraction : Fin implicitBit}
    (zero : Binary64.significand exponentField fraction = 0) (negative : Bool)
    (ends : EndsNumber behind) :
    readNumber negative ('0' :: '.' :: '0' :: behind)
      = .ok (.real (.finite negative exponentField fraction), behind) := by
  have read := readNumber_point negative wholePart_zero (List.cons_ne_nil '0' [])
    isAsciiDigit_of_mem_zero ends
  have none : decimalValue (['0'] ++ ['0']) = 0 := decimalValue_replicate_zero 2
  have same : Binary64.finite negative exponentField fraction
      = .finite negative ⟨0, by decide⟩ ⟨0, by decide⟩ := by
    rcases Binary64.significand_cases exponentField fraction with
      ⟨field, whole, -⟩ | ⟨-, whole, -⟩
    · rw [Fin.ext (a := exponentField) (b := ⟨0, by decide⟩) field,
        Fin.ext (a := fraction) (b := ⟨0, by decide⟩) (whole.symm.trans zero)]
    · have bit : 0 < implicitBit := by decide
      omega
  rw [none] at read
  rw [same]
  exact read

/-- What begins a number that is read is a digit. -/
theorem exists_digit_of_readNumber {characters : List Char} {negative : Bool}
    {result : Value × List Char} (read : readNumber negative characters = .ok result) :
    ∃ first rest, characters = first :: rest ∧ isAsciiDigit first = true := by
  cases characters with
  | nil => cases read
  | cons first rest =>
      refine ⟨first, rest, rfl, ?_⟩
      by_contra other
      simp [readNumber, other] at read

end ImageAtlas.Json
