import ImageAtlas.Json.Reader
import ImageAtlas.Json.Writer
import ImageAtlas.Proofs.Text.Hexadecimal

/-!
# Texts read back

Every character of a text is written in one piece, as itself or as an escape of one unit or
of two, and the reader takes each piece as the code point of its character. A text is
therefore read back from between its marks, and so are the keys of a table.
-/

namespace ImageAtlas.Json

open ImageAtlas.Text

/-- The last of the digits of a unit stands behind those of the units before it. -/
theorem padded_digits (width value : Nat) :
    padded (width + 2) ((digits 16 value).map lowerDigitCharacter)
      = padded (width + 1) ((digits 16 (value / 16)).map lowerDigitCharacter)
          ++ [lowerDigitCharacter (value % 16)] := by
  rw [digits]
  split
  · rename_i single
    have below : value < 16 := by omega
    have none : digits 16 (value / 16) = [0] := by
      rw [Nat.div_eq_of_lt below]
      decide +kernel
    rw [none, Nat.mod_eq_of_lt below]
    simp only [padded, List.map_cons, List.map_nil, List.length_singleton]
    exact congrArg (· ++ [lowerDigitCharacter value]) List.replicate_succ'
  · have missing : ∀ length, width + 2 - (length + 1) = width + 1 - length := by omega
    simp only [padded, List.map_append, List.map_cons, List.map_nil, List.length_append,
      List.length_singleton, missing, List.append_assoc]

/-- Four hexadecimal digits are read as the unit that they spell. -/
theorem readUnit?_padded {unit : Nat} (bound : unit < 0x10000) (behind : List Char) :
    readUnit? (padded 4 ((digits 16 unit).map lowerDigitCharacter) ++ behind)
      = some (unit, behind) := by
  have first : digits 16 (unit / 16 / 16 / 16) = [unit / 16 / 16 / 16] := by
    rw [digits, if_pos (by omega)]
  have four : padded 4 ((digits 16 unit).map lowerDigitCharacter)
      = [lowerDigitCharacter (unit / 16 / 16 / 16), lowerDigitCharacter (unit / 16 / 16 % 16),
          lowerDigitCharacter (unit / 16 % 16), lowerDigitCharacter (unit % 16)] := by
    rw [padded_digits, padded_digits, padded_digits, first]
    rfl
  have whole : ((unit / 16 / 16 / 16 * 16 + unit / 16 / 16 % 16) * 16 + unit / 16 % 16) * 16
      + unit % 16 = unit := by omega
  rw [four]
  simp only [List.cons_append, List.nil_append, readUnit?]
  rw [hexValue?_lowerDigitCharacter (by omega), hexValue?_lowerDigitCharacter (by omega),
    hexValue?_lowerDigitCharacter (by omega), hexValue?_lowerDigitCharacter (by omega)]
  simp only [Option.bind_eq_bind, Option.bind_some, whole, Option.pure_def]

/-- The digits of a unit in its escape. -/
def unitDigits (unit : Nat) : List Char :=
  padded 4 ((digits 16 unit).map lowerDigitCharacter)

/-- A unit that needs no partner is a code point. -/
theorem readEscapedCode?_single {unit : Nat} (bound : unit < 0x10000)
    (alone : ¬ (0xD800 ≤ unit ∧ unit < 0xDC00)) (behind : List Char) :
    readEscapedCode? (unitDigits unit ++ behind) = some (unit, behind) := by
  rw [readEscapedCode?, unitDigits, readUnit?_padded bound]
  simp [alone]

/-- Two units that belong together are a code point. -/
theorem readEscapedCode?_pair {high low : Nat} (leads : 0xD800 ≤ high ∧ high < 0xDC00)
    (trails : 0xDC00 ≤ low ∧ low < 0xE000) (behind : List Char) :
    readEscapedCode? (unitDigits high ++ (unitEscape low ++ behind))
      = some (0x10000 + (high - 0xD800) * 0x400 + (low - 0xDC00), behind) := by
  have highBound : high < 0x10000 := by omega
  have lowBound : low < 0x10000 := by omega
  rw [readEscapedCode?, unitDigits, readUnit?_padded highBound, unitEscape, List.cons_append,
    List.cons_append]
  simp only [Option.bind_eq_bind, Option.bind_some, if_pos leads, readUnit?_padded lowBound,
    if_pos trails, Option.pure_def]

/-- The escape of a code point that is no surrogate is read as it, be it one unit or two. -/
theorem exists_codeEscape {code : Nat} (valid : code.isValidChar) (behind : List Char) :
    ∃ escape, codeEscape code = '\\' :: 'u' :: escape ∧
      readEscapedCode? (escape ++ behind) = some (code, behind) := by
  rw [codeEscape]
  by_cases single : code < 0x10000
  · have alone : ¬ (0xD800 ≤ code ∧ code < 0xDC00) := by
      rcases valid with low | ⟨high, -⟩ <;> omega
    refine ⟨unitDigits code, ?_, readEscapedCode?_single single alone behind⟩
    rw [if_pos single, unitEscape, unitDigits]
  · have bound : code < 0x110000 := by
      rcases valid with low | ⟨-, high⟩ <;> omega
    simp only [if_neg single]
    -- The units are named, for otherwise they would be counted out.
    generalize highDefinition : 0xD800 + (code - 0x10000) / 0x400 = high
    generalize lowDefinition : 0xDC00 + (code - 0x10000) % 0x400 = low
    have leads : 0xD800 ≤ high ∧ high < 0xDC00 := by omega
    have trails : 0xDC00 ≤ low ∧ low < 0xE000 := by omega
    have joined : 0x10000 + (high - 0xD800) * 0x400 + (low - 0xDC00) = code := by omega
    refine ⟨unitDigits high ++ unitEscape low, ?_, ?_⟩
    · rw [unitEscape, unitDigits, List.cons_append, List.cons_append]
    · rw [List.append_assoc, readEscapedCode?_pair leads trails, joined]

/-- A character that is written is read back in one step. -/
theorem readTextFrom_writeCharacter (fuel : Nat) (before : List Nat) (character : Char)
    (behind : List Char) :
    readTextFrom (fuel + 1) before (writeCharacter character ++ behind)
      = readTextFrom fuel (character.toNat :: before) behind := by
  simp only [writeCharacter]
  split
  · rename_i mark
    rcases mark with rfl | rfl <;> rfl
  split
  · rename_i same
    subst same
    rfl
  split
  · rename_i same
    subst same
    rfl
  split
  · rename_i same
    subst same
    rfl
  split
  · rename_i same
    subst same
    rfl
  split
  · rename_i same
    subst same
    rfl
  split
  · rename_i quiet _ _ _ _ _ printable
    obtain ⟨unquoted, unescaped⟩ := not_or.1 quiet
    have plain : ¬ (character.toNat < 0x20 ∨ character = '\\') := by
      rintro (low | same)
      · omega
      · exact unescaped same
    rw [List.singleton_append, readTextFrom]
    · rw [if_neg plain]
    · exact unquoted
    · exact fun _ same => absurd same unescaped
    · exact fun _ _ same => absurd same unescaped
  · obtain ⟨escape, written, read⟩ := exists_codeEscape character.valid behind
    rw [Char.toNat, written, List.cons_append, List.cons_append, readTextFrom]
    simp only [read]

/-- A character is written with characters. -/
theorem length_writeCharacter_pos (character : Char) : 0 < (writeCharacter character).length := by
  obtain ⟨escape, written, -⟩ := exists_codeEscape character.valid []
  simp only [writeCharacter]
  split_ifs
  all_goals first
    | exact Nat.zero_lt_succ _
    | rw [Char.toNat, written]; exact Nat.zero_lt_succ _

/-- Characters that are written are read back up to the mark behind them. -/
theorem readTextFrom_written (characters : List Char) {fuel : Nat} (before : List Nat)
    (behind : List Char)
    (enough : (characters.foldr (fun character rest => writeCharacter character ++ rest)
      ('"' :: behind)).length ≤ fuel) :
    readTextFrom fuel before (characters.foldr
        (fun character rest => writeCharacter character ++ rest) ('"' :: behind))
      = .ok (before.reverse ++ characters.map Char.toNat, behind) := by
  induction characters generalizing fuel before with
  | nil =>
      obtain ⟨fuel, rfl⟩ := Nat.exists_eq_succ_of_ne_zero (n := fuel) (by
        simp only [List.foldr_nil, List.length_cons] at enough
        omega)
      simp [readTextFrom]
  | cons character rest inductionHypothesis =>
      have some := length_writeCharacter_pos character
      rw [List.foldr_cons, List.length_append] at enough
      obtain ⟨fuel, rfl⟩ := Nat.exists_eq_succ_of_ne_zero (n := fuel) (by omega)
      rw [List.foldr_cons, readTextFrom_writeCharacter, inductionHypothesis _ (by omega)]
      simp

/-- A text that is written is read back up to what stands behind it. -/
theorem readText_writeText (text : String) {fuel : Nat} (behind : List Char)
    (enough : (writeText text behind).length ≤ fuel + 1) :
    ∃ inside, writeText text behind = '"' :: inside ∧
      readText fuel inside = .ok (Value.codesOf text, behind) := by
  refine ⟨_, rfl, ?_⟩
  have read := readTextFrom_written text.toList [] behind (Nat.le_of_succ_le_succ enough)
  exact read

/-- The code points of a text make it up. -/
theorem ofCodes_codesOf (text : String) : Value.ofCodes (Value.codesOf text) = .text text := by
  have valid : (Value.codesOf text).all fun code => code.isValidChar := by
    rw [Value.codesOf, List.all_map, List.all_eq_true]
    intro character _
    exact decide_eq_true character.valid
  have back : (Value.codesOf text).map Char.ofNat = text.toList := by
    rw [Value.codesOf, List.map_map]
    exact (List.map_congr_left fun character _ => Char.ofNat_toNat character).trans (List.map_id' _)
  rw [Value.ofCodes, Value.textOfCodes?, if_pos valid, back, String.ofList_toList]

/-- Texts differ in their code points. -/
theorem codesOf_injective : Function.Injective Value.codesOf := by
  intro left right same
  have texts := congrArg Value.ofCodes same
  rw [ofCodes_codesOf, ofCodes_codesOf] at texts
  exact Value.text.inj texts

/-- The entries of a table make it up when its keys are given by their code points. -/
theorem ofCodeEntries_codesOf (entries : List (String × Value)) :
    Value.ofCodeEntries (entries.map fun entry => (Value.codesOf entry.1, entry.2))
      = .table entries := by
  have keyed : ∀ text, Value.textOfCodes? (Value.codesOf text) = some text := by
    intro text
    have whole := ofCodes_codesOf text
    rw [Value.ofCodes] at whole
    split at whole
    · rename_i found
      rw [found, Value.text.inj whole]
    · cases whole
  have all : (entries.map fun entry => (Value.codesOf entry.1, entry.2)).mapM
      (fun entry => (Value.textOfCodes? entry.1).map fun key => (key, entry.2))
        = some entries := by
    induction entries with
    | nil => rfl
    | cons entry rest inductionHypothesis =>
        rw [List.map_cons, List.mapM_cons, inductionHypothesis, keyed]
        rfl
  rw [Value.ofCodeEntries, all]

end ImageAtlas.Json
