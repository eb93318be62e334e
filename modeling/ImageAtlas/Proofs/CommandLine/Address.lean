import ImageAtlas.CommandLine.Address
import ImageAtlas.Proofs.Text.Hexadecimal

/-!
# Addresses that are read back

An address is printed as a mark and at least six upper-case digits. It is read back from
that, and from every other spelling of its digits: without the mark, in lower case and with
any number of zeros in front (`AddressSpelling`). A reader takes signs, blanks and
underscores, too, and digits of every script; none of them is a hexadecimal digit, so none of
them changes how plain digits are read. What has a sign may be negative, and is refused then.
-/

namespace ImageAtlas

namespace Text

variable {characters : List Char} {digits : List Nat} {character : Char} {digit before : Nat}

/-- A hexadecimal digit is an ASCII character and no blank. -/
theorem plain_of_hexValue? (valued : hexValue? character = some digit) :
    character.toNat < 0x80 ∧ isPlainBlank character = false := by
  have code : 0x30 ≤ character.toNat ∧ character.toNat < 0x80 := by
    simp only [hexValue?] at valued
    split at valued
    · omega
    split at valued
    · omega
    split at valued
    · omega
    · cases valued
  have noSpace : character ≠ ' ' := by
    rintro rfl
    exact absurd code.1 (by decide)
  simp only [isPlainBlank, beq_false_of_ne noSpace, Bool.false_or, Bool.and_eq_false_iff,
    decide_eq_false_iff_not]
  omega

/-- A text of ASCII characters without blanks is its own plain form. -/
theorem plainCharacters_ofList
    (plain : ∀ character ∈ characters,
      character.toNat < 0x80 ∧ isPlainBlank character = false) :
    plainCharacters (String.ofList characters) = characters := by
  have kept : characters.map plainCharacter = characters := by
    refine (List.map_congr_left fun character member => ?_).trans (List.map_id characters)
    exact if_pos (plain character member).1
  have uncut : ∀ {rest : List Char}, (∀ character ∈ rest, character ∈ characters) →
      rest.dropWhile isPlainBlank = rest := by
    intro rest within
    cases rest with
    | nil => rfl
    | cons first others =>
        have solid := (plain first (within first List.mem_cons_self)).2
        rw [List.dropWhile_cons_of_neg (by rw [solid]; decide)]
  simp only [plainCharacters, String.toList_ofList, kept]
  rw [uncut fun _ member => member, uncut fun _ member => List.mem_reverse.1 member,
    List.reverse_reverse]

/-- A digit with nothing behind it is the last one. -/
theorem hexDigits?_singleton (valued : hexValue? character = some digit) :
    hexDigits? before [character] = some (16 * before + digit) := by
  rw [hexDigits?, valued]

/-- A digit with no underscore behind it moves those in front up. -/
theorem hexDigits?_cons_cons {next : Char} {rest : List Char}
    (valued : hexValue? character = some digit) (noUnderscore : next ≠ '_') :
    hexDigits? before (character :: next :: rest)
      = hexDigits? (16 * before + digit) (next :: rest) := by
  rw [hexDigits?, valued]
  dsimp only
  split
  · rename_i ended
    cases ended
  · rename_i underscore
    exact absurd (List.cons.inj underscore).1 noUnderscore
  · rename_i same
    rw [same]

/-- Hexadecimal digits are read one behind the other. -/
theorem hexDigits?_eq (valued : characters.map hexValue? = digits.map some)
    (nonempty : characters ≠ []) :
    hexDigits? before characters
      = some (digits.foldl (fun value digit => 16 * value + digit) before) := by
  induction digits generalizing characters before with
  | nil => exact absurd (List.map_eq_nil_iff.1 valued) nonempty
  | cons digit others inductionHypothesis =>
      obtain ⟨character, rest, rfl, first, behind⟩ := List.map_eq_cons_iff.1 valued
      cases others with
      | nil =>
          obtain rfl : rest = [] := List.map_eq_nil_iff.1 behind
          exact hexDigits?_singleton first
      | cons other others =>
          obtain ⟨next, rest, rfl, second, -⟩ := List.map_eq_cons_iff.1 behind
          have noUnderscore : next ≠ '_' := by
            rintro rfl
            cases second
          rw [hexDigits?_cons_cons first noUnderscore]
          exact inductionHypothesis behind (List.cons_ne_nil next rest)

/-- All characters of hexadecimal digits are digits. -/
theorem exists_hexValue? (valued : characters.map hexValue? = digits.map some)
    (member : character ∈ characters) : ∃ digit, hexValue? character = some digit := by
  have listed : hexValue? character ∈ digits.map some :=
    valued ▸ List.mem_map_of_mem member
  obtain ⟨digit, -, same⟩ := List.mem_map.1 listed
  exact ⟨digit, same.symm⟩

/-- Hexadecimal digits have no mark. -/
theorem behindMark_of_digits (valued : characters.map hexValue? = digits.map some) :
    behindMark characters = characters := by
  unfold behindMark
  split
  · rename_i mark rest
    have noMark : ¬ (mark = 'x' ∨ mark = 'X') := by
      obtain ⟨digit, second⟩ : ∃ digit, hexValue? mark = some digit :=
        exists_hexValue? valued (List.mem_cons_of_mem _ List.mem_cons_self)
      rintro (rfl | rfl)
      · cases second
      · cases second
    rw [if_neg noMark]
  · rfl

/-- Behind the mark of hexadecimal digits are the digits. -/
theorem behindMark_of_marked (valued : characters.map hexValue? = digits.map some) :
    behindMark ('0' :: 'x' :: characters) = characters := by
  rw [behindMark, if_pos (.inl rfl)]
  rintro behind rfl
  obtain ⟨digit, first⟩ : ∃ digit, hexValue? '_' = some digit :=
    exists_hexValue? valued List.mem_cons_self
  cases first

/-- Hexadecimal digits are read as the number for which they stand, with a mark or without
it. -/
theorem readHexadecimal?_of_digits (valued : characters.map hexValue? = digits.map some)
    (nonempty : characters ≠ []) {spelled : List Char}
    (spells : spelled = characters ∨ spelled = '0' :: 'x' :: characters) :
    readHexadecimal? (String.ofList spelled) = some (positional 16 digits : Int) := by
  have plain : ∀ character ∈ spelled,
      character.toNat < 0x80 ∧ isPlainBlank character = false := by
    have digitsPlain : ∀ character ∈ characters,
        character.toNat < 0x80 ∧ isPlainBlank character = false := by
      intro character member
      obtain ⟨digit, value⟩ := exists_hexValue? valued member
      exact plain_of_hexValue? value
    rcases spells with rfl | rfl
    · exact digitsPlain
    · exact List.forall_mem_cons.2 ⟨by decide, List.forall_mem_cons.2 ⟨by decide, digitsPlain⟩⟩
  -- What is spelled begins with a digit, so it has no sign.
  have leads : ∀ {first rest}, spelled = first :: rest → ∃ digit, hexValue? first = some digit := by
    intro first rest headed
    rcases spells with rfl | rfl
    · exact exists_hexValue? valued (headed ▸ List.mem_cons_self)
    · rw [← (List.cons.inj headed).1]
      exact ⟨0, rfl⟩
  have behind : behindMark spelled = characters := by
    rcases spells with rfl | rfl
    · exact behindMark_of_digits valued
    · exact behindMark_of_marked valued
  have read : hexDigits? 0 characters = some (positional 16 digits) :=
    hexDigits?_eq valued nonempty
  unfold readHexadecimal?
  rw [plainCharacters_ofList plain]
  split
  · obtain ⟨digit, minus⟩ := leads rfl
    cases minus
  · obtain ⟨digit, plus⟩ := leads rfl
    cases plus
  · rw [behind, read]
    rfl

end Text

/-- A way to write an address: whether the mark stands in front, how many zeros follow it and
whether the digits are in upper case. -/
structure AddressSpelling where
  marked : Bool
  zeros : Nat
  upper : Bool

namespace AddressSpelling

/-- The digits of an address in a spelling. -/
def digits (spelling : AddressSpelling) (value : Nat) : List Char :=
  let numeral := Nat.toDigits 16 value
  List.replicate spelling.zeros '0' ++ if spelling.upper then numeral.map Char.toUpper else numeral

/-- The characters of an address in a spelling. -/
def characters (spelling : AddressSpelling) (value : Nat) : List Char :=
  if spelling.marked then '0' :: 'x' :: spelling.digits value else spelling.digits value

/-- An address in a spelling. -/
def text (spelling : AddressSpelling) (value : Nat) : String :=
  String.ofList (spelling.characters value)

/-- The spelling in which an address is printed. -/
def printed (value : Nat) : AddressSpelling where
  marked := true
  zeros := 6 - (Nat.toDigits 16 value).length
  upper := true

/-- The digits of a spelling have the address as their value. -/
theorem map_hexValue?_digits (spelling : AddressSpelling) (value : Nat) :
    (spelling.digits value).map Text.hexValue? =
      (List.replicate spelling.zeros 0 ++ Text.digits 16 value).map some := by
  have below : ∀ digit ∈ Text.digits 16 value, digit < 16 := fun digit member =>
    Text.lt_of_mem_digits (by decide) member
  have zero : Text.hexValue? '0' = some 0 := rfl
  rw [digits, List.map_append, List.map_append, List.map_replicate, List.map_replicate, zero]
  congr 1
  split
  · rw [← Text.map_digitCharacter_digits, List.map_map]
    exact List.map_congr_left fun digit member =>
      Text.hexValue?_digitCharacter (below digit member)
  · rw [← Text.map_lowerDigitCharacter_digits, List.map_map]
    exact List.map_congr_left fun digit member =>
      Text.hexValue?_lowerDigitCharacter (below digit member)

/-- There are digits in every spelling. -/
theorem digits_ne_nil (spelling : AddressSpelling) (value : Nat) : spelling.digits value ≠ [] := by
  intro empty
  have valued := map_hexValue?_digits spelling value
  rw [empty, List.map_nil] at valued
  exact Text.digits_ne_nil 16 value (List.append_eq_nil_iff.1 (List.map_eq_nil_iff.1 valued.symm)).2

/-- Zeros in front add nothing to an address. -/
theorem positional_zeros_append (zeros value : Nat) :
    Text.positional 16 (List.replicate zeros 0 ++ Text.digits 16 value) = value := by
  have nothing : Text.positional 16 (List.replicate zeros 0) = 0 := by
    induction zeros with
    | zero => rfl
    | succ zeros inductionHypothesis =>
        rw [List.replicate_succ', Text.positional_append_singleton, inductionHypothesis]
  rw [Text.positional_append, nothing, Nat.zero_mul, Nat.zero_add, Text.positional_digits]

/-- An address is read from each of its spellings. -/
theorem readAddress_text (spelling : AddressSpelling) (value : Nat) :
    readAddress (spelling.text value) = .ok value := by
  have spells : spelling.characters value = spelling.digits value ∨
      spelling.characters value = '0' :: 'x' :: spelling.digits value := by
    rw [characters]
    split
    · exact .inr rfl
    · exact .inl rfl
  have read := Text.readHexadecimal?_of_digits (map_hexValue?_digits spelling value)
    (digits_ne_nil spelling value) spells
  rw [positional_zeros_append] at read
  rw [readAddress, text, read]
  dsimp only
  rw [if_neg (Int.not_lt.2 (Int.natCast_nonneg value)), Int.toNat_natCast]

/-- Reports print addresses in that spelling. -/
theorem address_eq (value : Nat) : Text.address value = (printed value).text value := by
  have characters : Text.hexCharacters value = (Nat.toDigits 16 value).map Char.toUpper := by
    rw [Text.hexCharacters_eq, Text.map_digitCharacter_digits]
  rw [Text.address, Text.hexadecimal, if_neg (Int.not_lt.2 (Int.natCast_nonneg value)),
    Int.natAbs_natCast, characters, Text.padded, List.length_map]
  apply String.toList_inj.1
  simp only [text, String.toList_append, String.toList_ofList]
  rfl

end AddressSpelling

/-- What is read from a text is the hexadecimal number that it spells, unless there is none or
it is negative. -/
theorem readAddress_eq (text : String) :
    (∀ value : Nat, readAddress text = .ok value ↔
      Text.readHexadecimal? text = some (value : Int)) ∧
    (readAddress text = .error (.negative text) ↔
      ∃ amount, amount < 0 ∧ Text.readHexadecimal? text = some amount) ∧
    (readAddress text = .error (.unreadable text) ↔ Text.readHexadecimal? text = none) := by
  rw [readAddress]
  cases Text.readHexadecimal? text with
  | none => simp
  | some amount =>
      by_cases negative : amount < 0
      · have noValue : ∀ value : Nat, amount ≠ value := by omega
        simp [negative, noValue]
      · have same : ∀ value : Nat, amount.toNat = value ↔ amount = value := by omega
        simp [negative, same]

/-- Addresses that are printed can be typed in again. The printed text of an address is one of
its spellings, from all of which it is read: with the mark or without it, with any number of
zeros in front, in upper or lower case. What is read from any text is the number that it
spells, and a text that spells a negative one is refused, so no address is negative. -/
theorem printed_addresses_are_read_back :
    (∀ value : Nat, Text.address value = (AddressSpelling.printed value).text value) ∧
    (∀ (spelling : AddressSpelling) (value : Nat), readAddress (spelling.text value) = .ok value) ∧
    ∀ text : String,
      (∀ value : Nat, readAddress text = .ok value ↔
        Text.readHexadecimal? text = some (value : Int)) ∧
      (readAddress text = .error (.negative text) ↔
        ∃ amount, amount < 0 ∧ Text.readHexadecimal? text = some amount) ∧
      (readAddress text = .error (.unreadable text) ↔ Text.readHexadecimal? text = none) :=
  ⟨AddressSpelling.address_eq, AddressSpelling.readAddress_text, readAddress_eq⟩

end ImageAtlas
