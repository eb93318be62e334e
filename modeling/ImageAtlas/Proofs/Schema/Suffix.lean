import ImageAtlas.Proofs.Schema.Reading
import ImageAtlas.Proofs.Text.Numeral

/-!
# Texts with another suffix

Another suffix behind the last closing bracket of a schema text leaves the row of
segments as it is. As long as the suffix brings no closing bracket of its own, what
is read is that row with the length rule of the suffix.

Not every length rule has a suffix from which it is read: a count may have too many
digits, and a name may be empty, hold other characters or be a numeral. The rules that
have one are `Spellable`. What is read from any suffix is such a rule, so that a text
can be given the suffix of its own rule.
-/

namespace ImageAtlas.Schema

open ImageAtlas.Text

variable {text suffix : String} {schema : Schema}

/-- A schema keeps the text from which it was read. -/
theorem text_of_read (accepted : read text = .ok schema) : schema.text = text := by
  have origin := textRead text
  rw [accepted] at origin
  cases origin with
  | spelled valid spelled layout length stated => exact stated

/-- A text that is divided at its last closing bracket keeps what is before it. -/
theorem toList_withSuffix {before after : List Char}
    (divided : splitAtLastClose text.toList = some (before, after)) (suffix : String) :
    (withSuffix text suffix).toList = before ++ ']' :: suffix.toList := by
  rw [withSuffix, divided]
  simp

/-- With another suffix, a text that is read states the same layout and the length rule
of that suffix. -/
theorem read_withSuffix (accepted : read text = .ok schema) (unclosed : ']' ∉ suffix.toList) :
    read (withSuffix text suffix) = (readLength suffix.toList).map fun length =>
      ⟨schema.layout, length, withSuffix text suffix, schema.layout_ne_nil⟩ := by
  have origin := textRead text
  rw [accepted] at origin
  cases origin with
  | @spelled spelling _ valid spelled layout length stated =>
      have row := valid.readSegments_eq
      rw [← layout] at row
      have divided : splitAtLastClose text.toList =
          some ('[' :: (rowCharacters spelling.row ++ spelling.margin), spelling.suffix) := by
        rw [spelled, Spelling.characters_eq, ← List.cons_append]
        exact splitAtLastClose_append valid.unclosed
      exact read_of_row (toList_withSuffix divided suffix) unclosed row schema.layout_ne_nil

/-- A text that is divided at its last closing bracket is divided there with another
suffix, too. -/
theorem withSuffix_withSuffix {first : String} (closed : ']' ∈ text.toList)
    (unclosed : ']' ∉ first.toList) (second : String) :
    withSuffix (withSuffix text first) second = withSuffix text second := by
  cases divided : splitAtLastClose text.toList with
  | none => exact absurd closed (splitAtLastClose_eq_none_iff.1 divided)
  | some parts =>
      obtain ⟨before, after⟩ := parts
      have again : splitAtLastClose (withSuffix text first).toList =
          some (before, first.toList) := by
        rw [toList_withSuffix divided]
        exact splitAtLastClose_append unclosed
      apply String.toList_inj.1
      rw [toList_withSuffix again, toList_withSuffix divided]

/-- A length rule that can be written behind a closing bracket: none, a count with few
enough digits, or an anchor name that is no numeral. -/
inductive Spellable : LengthRule → Prop where
  | implied : Spellable .impliedByNextRun
  | fixed {count : Nat} (writable : isWritable count = true) : Spellable (.fixed count)
  | derived {anchor : String} (nonempty : anchor ≠ "")
      (allowed : ∀ character ∈ anchor.toList,
        character.isAlphanum = true ∨ character = '_' ∨ character = '.')
      (noNumeral : ¬ ∀ character ∈ anchor.toList, isDecimal character = true) :
      Spellable (.derivedFromAnchor anchor)

/-- A character of an anchor name is not blank. -/
theorem not_blank_of_anchorCharacter {character : Char}
    (allowed : character.isAlphanum = true ∨ character = '_' ∨ character = '.') :
    isBlank character = false := by
  have bounds : 0x2E ≤ character.toNat ∧ character.toNat ≤ 0x7A := by
    rcases allowed with alphanumeric | rfl | rfl
    · delta Char.isAlphanum Char.isAlpha Char.isUpper Char.isLower Char.isDigit at alphanumeric
      simp only [Bool.or_eq_true, Bool.and_eq_true, decide_eq_true_iff, ge_iff_le,
        UInt32.le_iff_toNat_le] at alphanumeric
      have codes : 'A'.val.toNat = 0x41 ∧ 'Z'.val.toNat = 0x5A ∧ 'a'.val.toNat = 0x61 ∧
          'z'.val.toNat = 0x7A ∧ '0'.val.toNat = 0x30 ∧ '9'.val.toNat = 0x39 := by decide
      rw [Char.toNat]
      omega
    · decide
    · decide
  refine Bool.eq_false_iff.2 fun blank => ?_
  obtain ⟨range, member, lower, upper⟩ := exists_range_of_inRanges blank
  have apart : ∀ range ∈ blankRanges, range.2 < 0x2E ∨ 0x7A < range.1 := by decide
  have outside := apart range member
  omega

namespace Spellable

variable {rule : LengthRule}

/-- The suffix of a rule spells that rule. -/
theorem lengthSpelled (spellable : Spellable rule) : LengthSpelled rule.suffix.toList rule := by
  cases spellable with
  | implied => exact .implied rfl
  | @fixed count writable =>
      have decimal : ∀ character ∈ decimalCharacters count, isDecimal character = true :=
        fun character member => isDecimal_of_mem_decimalCharacters member
      have solid : strip (decimalCharacters count) = decimalCharacters count :=
        strip_eq_self fun character member => not_blank_of_decimal (decimal character member)
      have value : numeralValue (decimalCharacters count) = count :=
        positional_decimalCharacters count
      have spelled : LengthSpelled (decimalCharacters count)
          (.fixed (numeralValue (strip (decimalCharacters count)))) := by
        refine .fixed ?_ ?_ ?_
        all_goals rw [solid]
        · exact decimalCharacters_ne_nil count
        · exact decimal
        · exact length_decimalCharacters_le_iff.2 writable
      rw [solid, value] at spelled
      rw [LengthRule.suffix, toList_decimal]
      exact spelled
  | @derived anchor nonempty allowed noNumeral =>
      have solid : strip anchor.toList = anchor.toList :=
        strip_eq_self fun character member =>
          not_blank_of_anchorCharacter (allowed character member)
      have spelled : LengthSpelled anchor.toList
          (.derivedFromAnchor (String.ofList (strip anchor.toList))) := by
        refine .derived ?_ ?_ ?_
        all_goals rw [solid]
        · exact fun empty => nonempty (String.toList_eq_nil_iff.1 empty)
        · exact allowed
        · exact noNumeral
      rw [solid, String.ofList_toList] at spelled
      exact spelled

/-- The suffix of a rule brings no closing bracket of its own. -/
theorem unclosed (spellable : Spellable rule) : ']' ∉ rule.suffix.toList := by
  intro close
  cases spellable with
  | implied => cases close
  | fixed writable =>
      rw [LengthRule.suffix, toList_decimal] at close
      have decimal := isDecimal_of_mem_decimalCharacters close
      revert decimal
      decide
  | derived nonempty allowed noNumeral =>
      have character := allowed ']' close
      revert character
      decide

end Spellable

/-- What a suffix spells can be written. -/
theorem LengthSpelled.spellable {suffix : List Char} {rule : LengthRule}
    (spelled : LengthSpelled suffix rule) : Spellable rule := by
  cases spelled with
  | implied empty => exact .implied
  | fixed nonempty decimal short =>
      refine .fixed (isWritable_positional ?_ ?_)
      · intro digit listed
        obtain ⟨character, member, rfl⟩ := List.mem_map.1 listed
        obtain ⟨value, found⟩ := Option.isSome_iff_exists.1 (decimal character member)
        rw [found]
        exact valueUnder_lt_ten found
      · rw [List.length_map]
        exact short
  | derived nonempty anchor noNumeral =>
      refine .derived ?_ ?_ ?_
      · exact fun empty => nonempty (String.ofList_eq_empty_iff.1 empty)
      all_goals rw [String.toList_ofList]
      · exact anchor
      · exact noNumeral

/-- The length rule of a schema that was read can be written. -/
theorem spellable_of_read (accepted : read text = .ok schema) : Spellable schema.length := by
  have origin := textRead text
  rw [accepted] at origin
  cases origin with
  | spelled valid spelled layout length stated => exact length.spellable

/-- The suffix of a rule may stand behind any text that is read, and says that rule. -/
theorem read_withSuffix_rule (accepted : read text = .ok schema) {rule : LengthRule}
    (spellable : Spellable rule) :
    read (withSuffix text rule.suffix) =
      .ok ⟨schema.layout, rule, withSuffix text rule.suffix, schema.layout_ne_nil⟩ := by
  rw [read_withSuffix accepted spellable.unclosed, spellable.lengthSpelled.readLength_eq]
  rfl

/-- A writable count may stand behind any text that is read. -/
theorem read_withSuffix_decimal (accepted : read text = .ok schema) {count : Nat}
    (writable : isWritable count = true) :
    read (withSuffix text (decimal count)) =
      .ok ⟨schema.layout, .fixed count, withSuffix text (decimal count),
        schema.layout_ne_nil⟩ := by
  have stated := read_withSuffix_rule accepted (.fixed writable)
  exact stated

/-- A text that is read may be given the suffix of any length rule that can be written;
it is read again, with the same layout and that rule. Its own length rule is one of them.
Of two suffixes, the second takes the place of the first, unless that one brings a closing
bracket. -/
theorem suffixes_are_read_back (text : String) :
    (∀ schema, read text = .ok schema →
      (∀ rule, Spellable rule →
        read (withSuffix text rule.suffix) =
          .ok ⟨schema.layout, rule, withSuffix text rule.suffix, schema.layout_ne_nil⟩) ∧
      read (withSuffix text schema.length.suffix) =
        .ok ⟨schema.layout, schema.length, withSuffix text schema.length.suffix,
          schema.layout_ne_nil⟩) ∧
    (']' ∈ text.toList → ∀ first second : String, ']' ∉ first.toList →
      withSuffix (withSuffix text first) second = withSuffix text second) := by
  refine ⟨?_, ?_⟩
  · intro schema accepted
    refine ⟨fun rule spellable => read_withSuffix_rule accepted spellable, ?_⟩
    exact read_withSuffix_rule accepted (spellable_of_read accepted)
  · intro closed first second unclosed
    exact withSuffix_withSuffix closed unclosed second

/-- A width and a count with digits of another script, the count with a leading zero and
between blanks. -/
def foreignDigits : String :=
  "[a\"\"\u0663] \u06607 "

/-- The text states seven elements, and is read with seven in other digits behind it, or
with a name that looks like a number. -/
theorem foreignDigits_with_suffixes :
    ∃ schema, read foreignDigits = .ok schema ∧ schema.length = .fixed 7 ∧
      read "[a\"\"\u0663]1.5" = .ok ⟨schema.layout, .derivedFromAnchor "1.5",
        "[a\"\"\u0663]1.5", schema.layout_ne_nil⟩ ∧
      read "[a\"\"\u0663]7" = .ok ⟨schema.layout, .fixed 7, "[a\"\"\u0663]7",
        schema.layout_ne_nil⟩ ∧
      withSuffix (withSuffix foreignDigits " x") "7" = withSuffix foreignDigits "7" := by
  have segmentValid : SegmentSpelling.Valid ⟨[], ['a'], ['\u0663']⟩ :=
    { blank := by simp
      name_ne_nil := by simp
      alphanumeric := List.forall_mem_singleton.2 (by decide +kernel)
      width_ne_nil := by simp
      decimal := List.forall_mem_singleton.2 (by decide +kernel)
      short := by decide
      positive := by decide +kernel }
  have valid : Spelling.Valid ⟨[⟨[], ['a'], ['\u0663']⟩], [], [' ', '\u0660', '7', ' ']⟩ :=
    ⟨by simp, by simpa using segmentValid, by simp, by simp, by decide⟩
  have spelled : foreignDigits.toList =
      Spelling.characters ⟨[⟨[], ['a'], ['\u0663']⟩], [], [' ', '\u0660', '7', ' ']⟩ := by
    decide
  have digits : strip [' ', '\u0660', '7', ' '] = ['\u0660', '7'] := by decide
  have counted : LengthSpelled [' ', '\u0660', '7', ' '] (.fixed 7) := by
    refine .fixed (by decide) ?_ (by decide)
    rw [digits]
    exact List.forall_mem_cons.2 ⟨by decide, List.forall_mem_singleton.2 (by decide)⟩
  have characters : "1.5".toList = ['1', '.', '5'] := by decide
  have named : Spellable (.derivedFromAnchor "1.5") := by
    refine .derived (by decide) ?_ ?_
    all_goals rw [characters]
    · simp only [List.forall_mem_cons]
      exact ⟨by decide, by decide, by decide, List.forall_mem_nil _⟩
    · intro numeral
      exact absurd (numeral '.' (by simp)) (by decide)
  have accepted := valid.read_eq spelled counted
  obtain ⟨suffixes, replaced⟩ := suffixes_are_read_back foreignDigits
  obtain ⟨anyRule, ownRule⟩ := suffixes _ accepted
  exact ⟨_, accepted, rfl, anyRule _ named, ownRule, replaced (by decide) " x" "7" (by decide)⟩

end ImageAtlas.Schema
