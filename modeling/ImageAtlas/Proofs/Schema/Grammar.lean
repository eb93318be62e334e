import ImageAtlas.Proofs.Text.Run
import ImageAtlas.Schema.Reader

/-!
# The grammar of schema texts

A schema text is spelled by a row of segments between brackets and a suffix.
Each segment is spelled by blanks, an alphanumeric name, the tag of its content
kind and the digits of its width; a margin of blanks may follow the last one. A
name may begin with digits, so digits in front of a later segment would be taken
for the width before it: there, blanks have to come between. With that, a text
has one spelling at most.

The grammar does not look at how texts are read. That it is what the reader
accepts is shown where reading is.
-/

namespace ImageAtlas.Schema

open ImageAtlas.Text

/-- The number that digits stand for, the most significant first. -/
def numeralValue (digits : List Char) : Nat :=
  positional 10 (digits.map fun character => (digitValue? character).getD 0)

/-- How one segment is spelled, with the blanks in front of it. -/
structure SegmentSpelling where
  blanks : List Char
  name : List Char
  width : List Char

namespace SegmentSpelling

/-- The characters of a segment. -/
def characters (spelling : SegmentSpelling) : List Char :=
  spelling.blanks ++ (spelling.name ++ '"' :: '"' :: spelling.width)

/-- The segment that is spelled. -/
def meaning (spelling : SegmentSpelling) : Segment :=
  ⟨String.ofList spelling.name, .delimitedText, numeralValue spelling.width⟩

/-- Blanks, a name and digits stand where they should. -/
structure Shaped (spelling : SegmentSpelling) : Prop where
  blank : ∀ character ∈ spelling.blanks, isBlank character = true
  name_ne_nil : spelling.name ≠ []
  alphanumeric : ∀ character ∈ spelling.name, isAlphanumeric character = true
  width_ne_nil : spelling.width ≠ []
  decimal : ∀ character ∈ spelling.width, isDecimal character = true

/-- The width is a numeral within the limit and at least one. -/
structure Valid (spelling : SegmentSpelling) : Prop extends Shaped spelling where
  short : spelling.width.length ≤ numeralLimit
  positive : 1 ≤ numeralValue spelling.width

/-- Without blanks in front, the name does not begin with a digit. -/
def Apart (spelling : SegmentSpelling) : Prop :=
  spelling.blanks = [] → StopsAt isDecimal spelling.name

end SegmentSpelling

/-- The characters of a row of segments. -/
def rowCharacters (row : List SegmentSpelling) : List Char :=
  row.flatMap SegmentSpelling.characters

/-- How a schema text is spelled. -/
structure Spelling where
  row : List SegmentSpelling
  margin : List Char
  suffix : List Char

namespace Spelling

/-- The characters of a schema text. -/
def characters (spelling : Spelling) : List Char :=
  '[' :: (rowCharacters spelling.row ++ (spelling.margin ++ ']' :: spelling.suffix))

/-- The layout that is spelled. -/
def layout (spelling : Spelling) : Layout :=
  spelling.row.map SegmentSpelling.meaning

/-- There are segments, each after the first one is apart from the one before,
and the suffix begins behind the last closing bracket. -/
structure Valid (spelling : Spelling) : Prop where
  row_ne_nil : spelling.row ≠ []
  valid : ∀ segment ∈ spelling.row, segment.Valid
  apart : ∀ segment ∈ spelling.row.tail, segment.Apart
  blank : ∀ character ∈ spelling.margin, isBlank character = true
  unclosed : ']' ∉ spelling.suffix

end Spelling

/-- The length rule that a suffix spells once it is stripped: nothing, a numeral
within the limit, or an anchor name that is no numeral. -/
inductive LengthSpelled (suffix : List Char) : LengthRule → Prop where
  | implied (empty : strip suffix = []) : LengthSpelled suffix .impliedByNextRun
  | fixed (nonempty : strip suffix ≠ [])
      (decimal : ∀ character ∈ strip suffix, isDecimal character = true)
      (short : (strip suffix).length ≤ numeralLimit) :
      LengthSpelled suffix (.fixed (numeralValue (strip suffix)))
  | derived (nonempty : strip suffix ≠ [])
      (anchor : ∀ character ∈ strip suffix,
        character.isAlphanum = true ∨ character = '_' ∨ character = '.')
      (noNumeral : ¬ ∀ character ∈ strip suffix, isDecimal character = true) :
      LengthSpelled suffix (.derivedFromAnchor (String.ofList (strip suffix)))

/-- The numeral beyond the limit that comes first in a text, and how many digits
it has: the width of a segment that follows valid ones, or the count that follows
a valid row. -/
inductive Overlong (characters : List Char) : Nat → Prop where
  | width {row : List SegmentSpelling} {long : SegmentSpelling} {rest suffix : List Char}
      (valid : ∀ segment ∈ row, segment.Valid) (shaped : long.Shaped)
      (apart : ∀ segment ∈ (row ++ [long]).tail, segment.Apart)
      (whole : StopsAt isDecimal rest) (beyond : numeralLimit < long.width.length)
      (unclosed : ']' ∉ suffix)
      (spelled : characters =
        '[' :: (rowCharacters (row ++ [long]) ++ (rest ++ ']' :: suffix))) :
      Overlong characters long.width.length
  | count {spelling : Spelling} (valid : spelling.Valid)
      (decimal : ∀ character ∈ strip spelling.suffix, isDecimal character = true)
      (beyond : numeralLimit < (strip spelling.suffix).length)
      (spelled : characters = spelling.characters) :
      Overlong characters (strip spelling.suffix).length

namespace SegmentSpelling

variable {spelling : SegmentSpelling}

/-- A name does not go on with the tag. -/
theorem stopsAt_tag (rest : List Char) : StopsAt isAlphanumeric ('"' :: rest) := by
  rw [stopsAt_cons]
  decide +kernel

/-- A segment begins with its blanks. -/
theorem Shaped.stopsAt_name (shaped : spelling.Shaped) (rest : List Char) :
    StopsAt isBlank (spelling.name ++ rest) := by
  cases name : spelling.name with
  | nil => exact absurd name shaped.name_ne_nil
  | cons first others =>
      have member : first ∈ spelling.name := by
        rw [name]
        exact List.mem_cons_self
      rw [List.cons_append, stopsAt_cons]
      exact not_blank_of_alphanumeric (shaped.alphanumeric first member)

/-- A segment that is apart does not continue the digits before it. -/
theorem Shaped.stopsAt_decimal (shaped : spelling.Shaped) (apart : spelling.Apart)
    (rest : List Char) : StopsAt isDecimal (spelling.characters ++ rest) := by
  rw [characters]
  cases blanks : spelling.blanks with
  | nil =>
      have stop := apart blanks
      cases name : spelling.name with
      | nil => exact absurd name shaped.name_ne_nil
      | cons first others =>
          rw [name, stopsAt_cons] at stop
          exact (stopsAt_cons _ _ _).2 stop
  | cons first others =>
      have member : first ∈ spelling.blanks := by
        rw [blanks]
        exact List.mem_cons_self
      exact (stopsAt_cons _ _ _).2 (not_decimal_of_blank (shaped.blank first member))

/-- The characters of a segment and of what follows it, run by run. -/
theorem characters_append (spelling : SegmentSpelling) (rest : List Char) :
    spelling.characters ++ rest =
      spelling.blanks ++ (spelling.name ++ '"' :: '"' :: (spelling.width ++ rest)) := by
  simp [characters]

/-- A text begins with one segment only, if its digits end there. -/
theorem Shaped.unique {other : SegmentSpelling} {rest otherRest : List Char}
    (shaped : spelling.Shaped) (otherShaped : other.Shaped)
    (stop : StopsAt isDecimal rest) (otherStop : StopsAt isDecimal otherRest)
    (same : spelling.characters ++ rest = other.characters ++ otherRest) :
    spelling = other ∧ rest = otherRest := by
  rw [characters_append, characters_append] at same
  obtain ⟨sameBlanks, sameBehind⟩ := run_unique shaped.blank (shaped.stopsAt_name _)
    otherShaped.blank (otherShaped.stopsAt_name _) same
  obtain ⟨sameName, sameTag⟩ := run_unique shaped.alphanumeric (stopsAt_tag _)
    otherShaped.alphanumeric (stopsAt_tag _) sameBehind
  have sameWidths : spelling.width ++ rest = other.width ++ otherRest := by
    simpa using sameTag
  obtain ⟨sameWidth, sameRest⟩ := run_unique shaped.decimal stop otherShaped.decimal otherStop
    sameWidths
  obtain ⟨blanks, name, width⟩ := spelling
  obtain ⟨otherBlanks, otherName, otherWidth⟩ := other
  cases sameBlanks
  cases sameName
  cases sameWidth
  exact ⟨rfl, sameRest⟩

end SegmentSpelling

section Row

variable {segment : SegmentSpelling} {row : List SegmentSpelling} {rest margin : List Char}

/-- The characters of a row begin with those of its first segment. -/
@[simp] theorem rowCharacters_cons (segment : SegmentSpelling) (row : List SegmentSpelling) :
    rowCharacters (segment :: row) = segment.characters ++ rowCharacters row :=
  List.flatMap_cons

/-- A row that is apart from the digits before it does not continue them. -/
theorem stopsAt_rowCharacters (shaped : ∀ segment ∈ row, segment.Shaped)
    (apart : ∀ segment ∈ row, segment.Apart) (stop : StopsAt isDecimal rest) :
    StopsAt isDecimal (rowCharacters row ++ rest) := by
  cases row with
  | nil => exact stop
  | cons segment row =>
      have first := shaped segment List.mem_cons_self
      rw [rowCharacters_cons, List.append_assoc]
      exact first.stopsAt_decimal (apart segment List.mem_cons_self) _

/-- Blanks do not continue digits. -/
theorem stopsAt_blanks (blank : ∀ character ∈ margin, isBlank character = true) :
    StopsAt isDecimal margin := by
  intro character first
  exact not_decimal_of_blank (blank character (List.mem_of_head? (Option.mem_def.1 first)))

/-- No segment begins in a margin of blanks. -/
theorem characters_append_ne_blanks (shaped : segment.Shaped)
    (blank : ∀ character ∈ margin, isBlank character = true) :
    segment.characters ++ rest ≠ margin := by
  intro same
  obtain ⟨first, others, name⟩ := List.exists_cons_of_ne_nil shaped.name_ne_nil
  have inName : first ∈ segment.name := by
    rw [name]
    exact List.mem_cons_self
  have inMargin : first ∈ margin := by
    rw [← same, SegmentSpelling.characters_append]
    exact List.mem_append_right _ (List.mem_append_left _ inName)
  have solid := not_blank_of_alphanumeric (shaped.alphanumeric first inName)
  rw [blank first inMargin] at solid
  cases solid

/-- A text is made up of one row and one margin only. -/
theorem row_unique {otherRow : List SegmentSpelling} {otherMargin : List Char}
    (shaped : ∀ segment ∈ row, segment.Shaped) (apart : ∀ segment ∈ row.tail, segment.Apart)
    (blank : ∀ character ∈ margin, isBlank character = true)
    (otherShaped : ∀ segment ∈ otherRow, segment.Shaped)
    (otherApart : ∀ segment ∈ otherRow.tail, segment.Apart)
    (otherBlank : ∀ character ∈ otherMargin, isBlank character = true)
    (same : rowCharacters row ++ margin = rowCharacters otherRow ++ otherMargin) :
    row = otherRow ∧ margin = otherMargin := by
  -- Segment by segment: both texts begin with one run after the other, each of them whole.
  induction row generalizing otherRow with
  | nil =>
      cases otherRow with
      | nil => exact ⟨rfl, same⟩
      | cons other otherRow =>
          rw [rowCharacters_cons, List.append_assoc] at same
          exact absurd same.symm
            (characters_append_ne_blanks (otherShaped other List.mem_cons_self) blank)
  | cons segment row inductionHypothesis =>
      cases otherRow with
      | nil =>
          rw [rowCharacters_cons, List.append_assoc] at same
          exact absurd same
            (characters_append_ne_blanks (shaped segment List.mem_cons_self) otherBlank)
      | cons other otherRow =>
          have rowShaped := fun segment member => shaped segment (List.mem_cons_of_mem _ member)
          have otherRowShaped :=
            fun segment member => otherShaped segment (List.mem_cons_of_mem _ member)
          rw [rowCharacters_cons, rowCharacters_cons, List.append_assoc,
            List.append_assoc] at same
          obtain ⟨rfl, sameRest⟩ :=
            (shaped segment List.mem_cons_self).unique (otherShaped other List.mem_cons_self)
              (stopsAt_rowCharacters rowShaped apart (stopsAt_blanks blank))
              (stopsAt_rowCharacters otherRowShaped otherApart (stopsAt_blanks otherBlank)) same
          obtain ⟨rfl, sameMargin⟩ := inductionHypothesis rowShaped
            (fun segment member => apart segment (List.mem_of_mem_tail member)) otherRowShaped
            (fun segment member => otherApart segment (List.mem_of_mem_tail member)) sameRest
          exact ⟨rfl, sameMargin⟩

end Row

/-- A text is divided at one last bracket only. -/
theorem lastClose_unique {before after otherBefore otherAfter : List Char}
    (unclosed : ']' ∉ after) (otherUnclosed : ']' ∉ otherAfter)
    (same : before ++ ']' :: after = otherBefore ++ ']' :: otherAfter) :
    before = otherBefore ∧ after = otherAfter := by
  have inside {suffix : List Char} (absent : ']' ∉ suffix) :
      ∀ character ∈ suffix.reverse, (character != ']') = true := by
    intro character member
    refine bne_iff_ne.2 ?_
    rintro rfl
    exact absent (List.mem_reverse.1 member)
  -- From behind, the suffix is a run of characters other than the bracket.
  have reversed : after.reverse ++ ']' :: before.reverse =
      otherAfter.reverse ++ ']' :: otherBefore.reverse := by
    simpa using congrArg List.reverse same
  obtain ⟨sameAfter, sameBefore⟩ := run_unique (inside unclosed) (by simp)
    (inside otherUnclosed) (by simp) reversed
  constructor
  · simpa using sameBefore
  · simpa using sameAfter

/-- A text has one spelling at most. -/
theorem Spelling.Valid.unique {spelling other : Spelling} (valid : spelling.Valid)
    (otherValid : other.Valid) (same : spelling.characters = other.characters) :
    spelling = other := by
  have inside : rowCharacters spelling.row ++ spelling.margin ++ ']' :: spelling.suffix =
      rowCharacters other.row ++ other.margin ++ ']' :: other.suffix := by
    simpa [Spelling.characters] using same
  obtain ⟨sameContent, sameSuffix⟩ :=
    lastClose_unique valid.unclosed otherValid.unclosed inside
  obtain ⟨sameRow, sameMargin⟩ := row_unique
    (fun segment member => (valid.valid segment member).toShaped) valid.apart valid.blank
    (fun segment member => (otherValid.valid segment member).toShaped) otherValid.apart
    otherValid.blank sameContent
  obtain ⟨row, margin, suffix⟩ := spelling
  obtain ⟨otherRow, otherMargin, otherSuffix⟩ := other
  cases sameRow
  cases sameMargin
  cases sameSuffix
  rfl

end ImageAtlas.Schema
