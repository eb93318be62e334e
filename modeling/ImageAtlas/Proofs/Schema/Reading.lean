import ImageAtlas.Proofs.Schema.Grammar

/-!
# Reading follows the grammar

The reader is compared with the grammar in two ways. What it gives is accounted
for: `SegmentRead`, `RowRead` and `TextRead` say for each result which spelling
was in the text, one for each part of the reader. And what the grammar spells is
read: valid rows are passed over one segment at a time, whatever follows them.

A result is accounted for together with the blanks that stripping took away.
-/

namespace ImageAtlas.Schema

open ImageAtlas.Text

/-- The numeral of a run of digits is read, unless it has too many. -/
theorem readCount_eq (digits : List Char) :
    readCount digits =
      if digits.length ≤ numeralLimit then .ok (numeralValue digits)
      else .error (.numeralTooLong digits.length) := by
  rw [readCount, readDecimal]
  split
  · rename_i value read
    split at read
    · rename_i short
      rw [if_pos short]
      cases read
      rw [decimalValue, valueInHalves_eq_positional]
      rfl
    · cases read
  · rename_i length read
    split at read
    · cases read
    · rename_i long
      rw [if_neg long]
      cases read
      rfl

/-- What stands at the front of a text from which a segment is read, with the
blanks before it. -/
inductive SegmentRead (blanks characters : List Char) :
    Except Refusal (Segment × List Char) → Prop where
  | malformed {malformation : Malformation} :
      SegmentRead blanks characters (.error (.malformed malformation))
  | overlong {spelling : SegmentSpelling} {rest : List Char} (shaped : spelling.Shaped)
      (beyond : numeralLimit < spelling.width.length) (whole : StopsAt isDecimal rest)
      (spelled : blanks ++ characters = spelling.characters ++ rest) :
      SegmentRead blanks characters (.error (.numeralTooLong spelling.width.length))
  | valid {spelling : SegmentSpelling} {rest : List Char} (valid : spelling.Valid)
      (whole : StopsAt isDecimal rest)
      (spelled : blanks ++ characters = spelling.characters ++ rest) :
      SegmentRead blanks characters (.ok (spelling.meaning, rest))

/-- Reading a segment is accounted for. -/
theorem segmentRead {blanks : List Char}
    (blank : ∀ character ∈ blanks, isBlank character = true) (characters : List Char) :
    SegmentRead blanks characters (readSegment characters) := by
  obtain ⟨name, alphanumeric, nameSplit⟩ := exists_run isAlphanumeric characters
  have nameTaken := takeWhile_run alphanumeric (stopsAt_dropWhile isAlphanumeric characters)
  rw [← nameSplit] at nameTaken
  simp only [readSegment, nameTaken]
  split
  · exact .malformed
  · rename_i nameNonempty
    split
    · rename_i behindTag behindName
      obtain ⟨width, decimal, widthSplit⟩ := exists_run isDecimal behindTag
      have widthTaken := takeWhile_run decimal (stopsAt_dropWhile isDecimal behindTag)
      rw [← widthSplit] at widthTaken
      rw [widthTaken]
      split
      · exact .malformed
      · rename_i widthNonempty
        let spelling : SegmentSpelling := ⟨blanks, name, width⟩
        have shaped : spelling.Shaped :=
          ⟨blank, nameNonempty, alphanumeric, widthNonempty, decimal⟩
        have spelled : blanks ++ characters =
            spelling.characters ++ behindTag.dropWhile isDecimal := by
          rw [SegmentSpelling.characters_append, ← widthSplit, ← behindName, ← nameSplit]
        have whole := stopsAt_dropWhile isDecimal behindTag
        rw [readCount_eq]
        by_cases short : width.length ≤ numeralLimit
        · rw [if_pos short]
          dsimp only
          split
          · exact .malformed
          · rename_i value_ne_zero
            have valid : spelling.Valid :=
              { shaped with short, positive := Nat.one_le_iff_ne_zero.2 value_ne_zero }
            exact .valid valid whole spelled
        · rw [if_neg short]
          exact .overlong shaped (Nat.not_le.1 short) whole spelled
    · exact .malformed

namespace SegmentSpelling

variable {spelling : SegmentSpelling} {rest : List Char}

/-- Reading a segment comes down to reading its digits. -/
theorem Shaped.readSegment_eq (shaped : spelling.Shaped) (whole : StopsAt isDecimal rest) :
    readSegment (spelling.name ++ '"' :: '"' :: (spelling.width ++ rest)) =
      match readCount spelling.width with
      | .error refusal => .error refusal
      | .ok value =>
          if value = 0 then
            .error (.malformed (.lengthZero (String.ofList spelling.name)
              (String.ofList (spelling.width ++ rest))))
          else .ok (⟨String.ofList spelling.name, .delimitedText, value⟩, rest) := by
  have nameTaken := takeWhile_run shaped.alphanumeric
    (stopsAt_tag ('"' :: (spelling.width ++ rest)))
  have nameDropped := dropWhile_run shaped.alphanumeric
    (stopsAt_tag ('"' :: (spelling.width ++ rest)))
  rw [readSegment, nameTaken, nameDropped, if_neg shaped.name_ne_nil]
  split
  · rename_i behindTag tagged
    cases tagged
    rw [takeWhile_run shaped.decimal whole, dropWhile_run shaped.decimal whole]
    exact if_neg shaped.width_ne_nil
  · rename_i untagged
    exact absurd rfl (untagged (spelling.width ++ rest))

/-- A valid segment is read as what it spells. -/
theorem Valid.readSegment_eq (valid : spelling.Valid) (whole : StopsAt isDecimal rest) :
    readSegment (spelling.name ++ '"' :: '"' :: (spelling.width ++ rest)) =
      .ok (spelling.meaning, rest) := by
  have value_ne_zero : numeralValue spelling.width ≠ 0 :=
    Nat.one_le_iff_ne_zero.1 valid.positive
  rw [valid.toShaped.readSegment_eq whole, readCount_eq, if_pos valid.short]
  exact if_neg value_ne_zero

/-- A segment with a width beyond the limit is refused for it. -/
theorem Shaped.readSegment_overlong (shaped : spelling.Shaped)
    (beyond : numeralLimit < spelling.width.length) (whole : StopsAt isDecimal rest) :
    readSegment (spelling.name ++ '"' :: '"' :: (spelling.width ++ rest)) =
      .error (.numeralTooLong spelling.width.length) := by
  rw [shaped.readSegment_eq whole, readCount_eq, if_neg (Nat.not_le.2 beyond)]

/-- Without the blanks in front, a segment begins with its name. -/
theorem Shaped.stripFront_eq (shaped : spelling.Shaped) (rest : List Char) :
    stripFront (spelling.characters ++ rest) =
      spelling.name ++ '"' :: '"' :: (spelling.width ++ rest) := by
  rw [characters_append]
  exact stripFront_run shaped.blank (shaped.stopsAt_name _)

/-- A segment that does not continue the digits before it is apart from them. -/
theorem Shaped.apart_of_stopsAt (shaped : spelling.Shaped)
    (stop : StopsAt isDecimal (spelling.characters ++ rest)) : spelling.Apart := by
  intro blanks
  obtain ⟨first, others, name⟩ := List.exists_cons_of_ne_nil shaped.name_ne_nil
  rw [characters_append, blanks, name] at stop
  rw [name]
  exact (stopsAt_cons _ _ _).2 ((stopsAt_cons _ _ _).1 stop)

/-- A segment ends with a character that is not blank. -/
theorem Shaped.exists_last (shaped : spelling.Shaped) :
    ∃ front last, spelling.characters = front ++ [last] ∧ isBlank last = false := by
  have width := List.dropLast_concat_getLast shaped.width_ne_nil
  refine ⟨spelling.blanks ++ (spelling.name ++ '"' :: '"' :: spelling.width.dropLast),
    spelling.width.getLast shaped.width_ne_nil, ?_,
    not_blank_of_decimal (shaped.decimal _ (List.getLast_mem _))⟩
  simp only [characters, List.append_assoc, List.cons_append, width]

end SegmentSpelling

/-- Segments are read one after the other. -/
theorem readSegments_of_ok {characters rest : List Char} {segment : Segment}
    (read : readSegment characters = .ok (segment, rest)) :
    readSegments characters = (readSegments (stripFront rest)).map (segment :: ·) := by
  have nonempty : characters ≠ [] := by
    rintro rfl
    cases read
  rw [readSegments, if_neg nonempty]
  split
  · rename_i refusal refused
    rw [read] at refused
    cases refused
  · rename_i other otherRest otherRead
    rw [read] at otherRead
    cases otherRead
    cases readSegments (stripFront rest) <;> rfl

/-- A refused segment ends the reading. -/
theorem readSegments_of_error {characters : List Char} {refusal : Refusal}
    (nonempty : characters ≠ []) (read : readSegment characters = .error refusal) :
    readSegments characters = .error refusal := by
  rw [readSegments, if_neg nonempty]
  split
  · rename_i other refused
    rw [read] at refused
    cases refused
    rfl
  · rename_i segment rest otherRead
    rw [read] at otherRead
    cases otherRead

/-- What stands in a text from which a row is read. -/
inductive RowRead (content : List Char) : Except Refusal (List Segment) → Prop where
  | malformed {malformation : Malformation} : RowRead content (.error (.malformed malformation))
  | overlong {row : List SegmentSpelling} {long : SegmentSpelling} {rest : List Char}
      (valid : ∀ segment ∈ row, segment.Valid) (shaped : long.Shaped)
      (apart : ∀ segment ∈ (row ++ [long]).tail, segment.Apart)
      (whole : StopsAt isDecimal rest) (beyond : numeralLimit < long.width.length)
      (spelled : content = rowCharacters (row ++ [long]) ++ rest) :
      RowRead content (.error (.numeralTooLong long.width.length))
  | valid {row : List SegmentSpelling} {margin : List Char}
      (valid : ∀ segment ∈ row, segment.Valid) (apart : ∀ segment ∈ row.tail, segment.Apart)
      (blank : ∀ character ∈ margin, isBlank character = true)
      (spelled : content = rowCharacters row ++ margin) :
      RowRead content (.ok (row.map SegmentSpelling.meaning))

section Row

variable {row : List SegmentSpelling} {content rest after : List Char}
  {result : Except Refusal (List Segment)}

/-- The segments of a row that does not continue the digits before it are apart. -/
theorem apart_of_stopsAt (shaped : ∀ segment ∈ row, segment.Shaped)
    (apart : ∀ segment ∈ row.tail, segment.Apart)
    (stop : StopsAt isDecimal (rowCharacters row ++ rest)) :
    ∀ segment ∈ row, segment.Apart := by
  cases row with
  | nil => simp
  | cons first row =>
      rw [rowCharacters_cons, List.append_assoc] at stop
      intro segment member
      rcases List.mem_cons.1 member with rfl | later
      · exact (shaped segment member).apart_of_stopsAt stop
      · exact apart segment later

/-- Rows are shaped when their segments are valid but for the width of the last. -/
theorem shaped_append {long : SegmentSpelling} (valid : ∀ segment ∈ row, segment.Valid)
    (shaped : long.Shaped) : ∀ segment ∈ row ++ [long], segment.Shaped := by
  intro segment member
  rcases List.mem_append.1 member with inRow | last
  · exact (valid segment inRow).toShaped
  · rw [List.mem_singleton.1 last]
    exact shaped

/-- A valid segment in front is accounted for with what is behind it. -/
theorem RowRead.cons {segment : SegmentSpelling} (valid : segment.Valid)
    (whole : StopsAt isDecimal content) (read : RowRead content result) :
    RowRead (segment.characters ++ content) (result.map (segment.meaning :: ·)) := by
  cases read with
  | malformed => exact .malformed
  | @overlong row long rest rowValid shaped apart restWhole beyond spelled =>
      rw [spelled] at whole ⊢
      refine .overlong (List.forall_mem_cons.2 ⟨valid, rowValid⟩) shaped ?_ restWhole beyond ?_
      · exact apart_of_stopsAt (shaped_append rowValid shaped) apart whole
      · rw [List.cons_append, rowCharacters_cons, List.append_assoc]
  | @valid row margin rowValid apart blank spelled =>
      rw [spelled] at whole ⊢
      refine .valid (List.forall_mem_cons.2 ⟨valid, rowValid⟩) ?_ blank ?_
      · exact apart_of_stopsAt (fun segment member => (rowValid segment member).toShaped)
          apart whole
      · rw [rowCharacters_cons, List.append_assoc]

/-- Blanks at the end are accounted for as well. -/
theorem RowRead.append_blanks (blank : ∀ character ∈ after, isBlank character = true)
    (read : RowRead content result) : RowRead (content ++ after) result := by
  cases read with
  | malformed => exact .malformed
  | @overlong row long rest valid shaped apart whole beyond spelled =>
      refine .overlong valid shaped apart ?_ beyond (by rw [spelled, List.append_assoc])
      cases rest with
      | nil => exact stopsAt_blanks blank
      | cons first rest => exact (stopsAt_cons _ _ _).2 ((stopsAt_cons _ _ _).1 whole)
  | @valid row margin valid apart marginBlank spelled =>
      refine .valid valid apart ?_ (by rw [spelled, List.append_assoc])
      intro character member
      rcases List.mem_append.1 member with inMargin | behind
      · exact marginBlank character inMargin
      · exact blank character behind

/-- A segment that was read is accounted for with what is read behind it. -/
theorem RowRead.of_segment {blanks characters : List Char} {segment : Segment}
    (blank : ∀ character ∈ blanks, isBlank character = true)
    (read : readSegment characters = .ok (segment, rest))
    (behind : ∀ {between : List Char}, (∀ character ∈ between, isBlank character = true) →
      RowRead (between ++ stripFront rest) result) :
    RowRead (blanks ++ characters) (result.map (segment :: ·)) := by
  have origin := segmentRead blank characters
  rw [read] at origin
  cases origin with
  | valid valid whole spelled =>
      obtain ⟨between, betweenBlank, split⟩ := exists_run isBlank rest
      have further := behind betweenBlank
      rw [stripFront, ← split] at further
      rw [spelled]
      exact further.cons valid whole

/-- Reading a row is accounted for, with blanks in front of it. -/
theorem rowRead {blanks : List Char}
    (blank : ∀ character ∈ blanks, isBlank character = true) (characters : List Char) :
    RowRead (blanks ++ characters) (readSegments characters) := by
  -- The induction is on what the reader has left. The blanks vary, because those that
  -- it strips behind a segment are the blanks in front of the next one.
  fun_induction readSegments characters generalizing blanks with
  | case1 =>
      have none : RowRead blanks (.ok ([].map SegmentSpelling.meaning)) :=
        .valid (by simp) (by simp) blank rfl
      simpa using none
  | case2 characters nonempty refusal read =>
      have origin := segmentRead blank characters
      rw [read] at origin
      cases origin with
      | malformed => exact .malformed
      | @overlong spelling rest shaped beyond whole spelled =>
          have alone : blanks ++ characters = rowCharacters ([] ++ [spelling]) ++ rest := by
            simpa [rowCharacters] using spelled
          exact .overlong (by simp) shaped (by simp) whole beyond alone
  | case3 characters nonempty segment rest read shorter refusal refused inductionHypothesis =>
      have whole := RowRead.of_segment blank read inductionHypothesis
      rw [refused] at whole
      exact whole
  | case4 characters nonempty segment rest read shorter segments others inductionHypothesis =>
      have whole := RowRead.of_segment blank read inductionHypothesis
      rw [others] at whole
      exact whole

/-- Reading stripped content is accounted for. -/
theorem rowRead_strip (content : List Char) :
    RowRead content (readSegments (strip content)) := by
  obtain ⟨blanks, after, blank, afterBlank, split⟩ := exists_strip content
  have read := (rowRead blank (strip content)).append_blanks afterBlank
  rw [List.append_assoc, ← split] at read
  exact read

/-- Valid segments are passed over, whatever follows them. -/
theorem readSegments_rowCharacters (valid : ∀ segment ∈ row, segment.Valid)
    (apart : ∀ segment ∈ row.tail, segment.Apart)
    (stop : row ≠ [] → StopsAt isDecimal rest) :
    readSegments (stripFront (rowCharacters row ++ rest)) =
      (readSegments (stripFront rest)).map (row.map SegmentSpelling.meaning ++ ·) := by
  induction row with
  | nil =>
      change readSegments (stripFront rest) = _
      cases readSegments (stripFront rest) <;> rfl
  | cons segment row inductionHypothesis =>
      -- What follows the digits of this segment must not continue them.
      have restStop := stop (List.cons_ne_nil segment row)
      have rowValid := fun segment member => valid segment (List.mem_cons_of_mem _ member)
      have shaped := fun segment member => (rowValid segment member).toShaped
      have first := valid segment List.mem_cons_self
      have whole : StopsAt isDecimal (rowCharacters row ++ rest) :=
        stopsAt_rowCharacters shaped apart restStop
      rw [rowCharacters_cons, List.append_assoc, first.toShaped.stripFront_eq,
        readSegments_of_ok (first.readSegment_eq whole), inductionHypothesis rowValid
          (fun segment member => apart segment (List.mem_of_mem_tail member))
          (fun _ => restStop)]
      cases readSegments (stripFront rest) <;> rfl

/-- Behind a row, only the back is stripped. -/
theorem strip_rowCharacters (shaped : ∀ segment ∈ row, segment.Shaped) (nonempty : row ≠ []) :
    strip (rowCharacters row ++ rest) = stripFront (rowCharacters row ++ stripBack rest) := by
  obtain ⟨others, last, rfl⟩ := (List.eq_nil_or_concat row).resolve_left nonempty
  obtain ⟨front, final, ends, solid⟩ := (shaped last (by simp)).exists_last
  have split (behind : List Char) : rowCharacters (others.concat last) ++ behind =
      (rowCharacters others ++ front) ++ final :: behind := by
    simp [rowCharacters, ends]
  rw [split, split]
  exact strip_append_cons solid

/-- Behind valid segments, one with a width beyond the limit is refused for it. -/
theorem readSegments_overlong {long : SegmentSpelling}
    (valid : ∀ segment ∈ row, segment.Valid) (shaped : long.Shaped)
    (apart : ∀ segment ∈ (row ++ [long]).tail, segment.Apart)
    (whole : StopsAt isDecimal rest) (beyond : numeralLimit < long.width.length) :
    readSegments (strip (rowCharacters (row ++ [long]) ++ rest)) =
      .error (.numeralTooLong long.width.length) := by
  have rowApart : ∀ segment ∈ row.tail, segment.Apart := by
    intro segment member
    refine apart segment ?_
    rw [List.tail_append_of_ne_nil (List.ne_nil_of_mem (List.mem_of_mem_tail member))]
    exact List.mem_append_left _ member
  have stop : row ≠ [] → StopsAt isDecimal (long.characters ++ stripBack rest) := by
    intro nonempty
    refine shaped.stopsAt_decimal (apart long ?_) _
    rw [List.tail_append_of_ne_nil nonempty]
    exact List.mem_append_right _ List.mem_cons_self
  have order : rowCharacters (row ++ [long]) ++ stripBack rest =
      rowCharacters row ++ (long.characters ++ stripBack rest) := by
    simp [rowCharacters]
  have refused := shaped.readSegment_overlong beyond (stopsAt_stripBack whole)
  rw [strip_rowCharacters (shaped_append valid shaped) (by simp), order,
    readSegments_rowCharacters valid rowApart stop, shaped.stripFront_eq,
    readSegments_of_error (by simp) refused]
  rfl

end Row

/-- A text is divided nowhere exactly if it has no closing bracket. -/
theorem splitAtLastClose_eq_none_iff {characters : List Char} :
    splitAtLastClose characters = none ↔ ']' ∉ characters := by
  induction characters with
  | nil => simp [splitAtLastClose]
  | cons character rest inductionHypothesis =>
      rw [splitAtLastClose, List.mem_cons, not_or, ← inductionHypothesis]
      cases splitAtLastClose rest with
      | some parts => simp
      | none => simp [eq_comm]

/-- A text is divided at the bracket behind which there is no other. -/
theorem splitAtLastClose_append {before after : List Char} (unclosed : ']' ∉ after) :
    splitAtLastClose (before ++ ']' :: after) = some (before, after) := by
  induction before with
  | nil => simp [splitAtLastClose, splitAtLastClose_eq_none_iff.2 unclosed]
  | cons character before inductionHypothesis =>
      rw [List.cons_append, splitAtLastClose, inductionHypothesis]

/-- The parts of a divided text make it up with that bracket. -/
theorem eq_of_splitAtLastClose {characters before after : List Char}
    (divided : splitAtLastClose characters = some (before, after)) :
    characters = before ++ ']' :: after ∧ ']' ∉ after := by
  induction characters generalizing before after with
  | nil => cases divided
  | cons character rest inductionHypothesis =>
      rw [splitAtLastClose] at divided
      split at divided
      · rename_i restBefore restAfter restDivided
        cases divided
        obtain ⟨rfl, unclosed⟩ := inductionHypothesis restDivided
        exact ⟨rfl, unclosed⟩
      · rename_i undivided
        split at divided
        · rename_i close
          cases divided
          exact ⟨by rw [close]; rfl, splitAtLastClose_eq_none_iff.1 undivided⟩
        · cases divided

/-- A character that may stand in an anchor name. -/
theorem isAnchorCharacter_iff (character : Char) :
    isAnchorCharacter character = true ↔
      character.isAlphanum = true ∨ character = '_' ∨ character = '.' := by
  simp [isAnchorCharacter, or_assoc]

/-- What a suffix spells from which a length rule is read. -/
inductive LengthRead (suffix : List Char) : Except Refusal LengthRule → Prop where
  | malformed {malformation : Malformation} : LengthRead suffix (.error (.malformed malformation))
  | overlong (decimal : ∀ character ∈ strip suffix, isDecimal character = true)
      (beyond : numeralLimit < (strip suffix).length) :
      LengthRead suffix (.error (.numeralTooLong (strip suffix).length))
  | spelled {rule : LengthRule} (spelled : LengthSpelled suffix rule) :
      LengthRead suffix (.ok rule)

/-- Reading a length rule is accounted for. -/
theorem lengthRead (suffix : List Char) : LengthRead suffix (readLength suffix) := by
  simp only [readLength, List.all_eq_true, isAnchorCharacter_iff]
  split
  · rename_i empty
    exact .spelled (.implied empty)
  · rename_i nonempty
    split
    · rename_i decimal
      rw [readCount_eq]
      by_cases short : (strip suffix).length ≤ numeralLimit
      · rw [if_pos short]
        exact .spelled (.fixed nonempty decimal short)
      · rw [if_neg short]
        exact .overlong decimal (Nat.not_le.1 short)
    · rename_i noNumeral
      split
      · rename_i anchor
        exact .spelled (.derived nonempty anchor noNumeral)
      · exact .malformed

/-- The length rule that a suffix spells is read. -/
theorem LengthSpelled.readLength_eq {suffix : List Char} {rule : LengthRule}
    (spelled : LengthSpelled suffix rule) : readLength suffix = .ok rule := by
  simp only [readLength, List.all_eq_true, isAnchorCharacter_iff]
  cases spelled with
  | implied empty => rw [if_pos empty]
  | fixed nonempty decimal short =>
      rw [if_neg nonempty, if_pos decimal, readCount_eq, if_pos short]
  | derived nonempty anchor noNumeral =>
      rw [if_neg nonempty, if_neg noNumeral, if_pos anchor]

/-- A count beyond the limit is refused for it. -/
theorem readLength_overlong {suffix : List Char}
    (decimal : ∀ character ∈ strip suffix, isDecimal character = true)
    (beyond : numeralLimit < (strip suffix).length) :
    readLength suffix = .error (.numeralTooLong (strip suffix).length) := by
  have nonempty : strip suffix ≠ [] := by
    intro empty
    rw [empty] at beyond
    cases beyond
  simp only [readLength, List.all_eq_true]
  rw [if_neg nonempty, if_pos decimal, readCount_eq, if_neg (Nat.not_le.2 beyond)]

/-- Segments that were read from content make up a spelling with any suffix. -/
theorem RowRead.exists_spelling {content suffix : List Char} {segments : List Segment}
    (read : RowRead content (.ok segments)) (nonempty : segments ≠ [])
    (unclosed : ']' ∉ suffix) :
    ∃ spelling : Spelling, spelling.Valid ∧ spelling.layout = segments ∧
      spelling.suffix = suffix ∧ '[' :: (content ++ ']' :: suffix) = spelling.characters := by
  cases read with
  | @valid row margin valid apart blank spelled =>
      have row_ne_nil : row ≠ [] := by
        rintro rfl
        exact nonempty rfl
      refine ⟨⟨row, margin, suffix⟩, ⟨row_ne_nil, valid, apart, blank, unclosed⟩, rfl, rfl, ?_⟩
      rw [spelled, Spelling.characters, List.append_assoc]

/-- What a text spells from which a schema is read. -/
inductive TextRead (text : String) : Except Refusal Schema → Prop where
  | malformed {malformation : Malformation} : TextRead text (.error (.malformed malformation))
  | overlong {length : Nat} (overlong : Overlong text.toList length) :
      TextRead text (.error (.numeralTooLong length))
  | spelled {spelling : Spelling} {schema : Schema} (valid : spelling.Valid)
      (spelled : text.toList = spelling.characters) (layout : schema.layout = spelling.layout)
      (length : LengthSpelled spelling.suffix schema.length) (stated : schema.text = text) :
      TextRead text (.ok schema)

/-- Reading a schema is accounted for. -/
theorem textRead (text : String) : TextRead text (read text) := by
  rw [read]
  split
  · rename_i inside opened
    split
    · exact .malformed
    · rename_i content suffix divided
      obtain ⟨whole, unclosed⟩ := eq_of_splitAtLastClose divided
      have row := rowRead_strip content
      split
      · rename_i refusal refused
        rw [refused] at row
        cases row with
        | malformed => exact .malformed
        | overlong valid shaped apart restWhole beyond spelled =>
            refine .overlong (.width valid shaped apart restWhole beyond unclosed ?_)
            rw [opened, whole, spelled, List.append_assoc]
      · exact .malformed
      · rename_i first others segments
        rw [segments] at row
        obtain ⟨spelling, valid, layout, rfl, spelled⟩ :=
          row.exists_spelling (List.cons_ne_nil first others) unclosed
        rw [whole, spelled] at opened
        have count := lengthRead spelling.suffix
        split
        · rename_i refusal refused
          rw [refused] at count
          cases count with
          | malformed => exact .malformed
          | overlong decimal beyond =>
              exact .overlong (.count valid decimal beyond opened)
        · rename_i rule stated
          rw [stated] at count
          cases count with
          | spelled length => exact .spelled valid opened layout.symm length rfl
  · exact .malformed

/-- The segments of a schema that was read hold text and are at least one byte
wide. -/
theorem segments_of_read {text : String} {schema : Schema} (accepted : read text = .ok schema) :
    ∀ segment ∈ schema.layout, segment.kind = .delimitedText ∧ 1 ≤ segment.length := by
  have origin := textRead text
  rw [accepted] at origin
  cases origin with
  | @spelled spelling _ valid _ layout _ _ =>
      rw [layout]
      intro segment member
      obtain ⟨spelled, inRow, rfl⟩ := List.mem_map.1 member
      exact ⟨rfl, Int.ofNat_le.2 (valid.valid spelled inRow).positive⟩

section Text

variable {text : String} {content suffix : List Char}

/-- A row that is refused is the reason for which a text is. -/
theorem read_of_refused_row {refusal : Refusal}
    (opened : text.toList = '[' :: (content ++ ']' :: suffix)) (unclosed : ']' ∉ suffix)
    (refused : readSegments (strip content) = .error refusal) :
    read text = .error refusal := by
  simp only [read, opened, splitAtLastClose_append unclosed, refused]

/-- With a row of segments, reading a text comes down to reading its length rule. -/
theorem read_of_row {segments : List Segment}
    (opened : text.toList = '[' :: (content ++ ']' :: suffix)) (unclosed : ']' ∉ suffix)
    (row : readSegments (strip content) = .ok segments) (nonempty : segments ≠ []) :
    read text = (readLength suffix).map fun length => ⟨segments, length, text, nonempty⟩ := by
  obtain ⟨first, others, rfl⟩ := List.exists_cons_of_ne_nil nonempty
  simp only [read, opened, splitAtLastClose_append unclosed, row]
  cases readLength suffix <;> rfl

/-- The segments of a spelling are read. -/
theorem Spelling.Valid.readSegments_eq {spelling : Spelling} (valid : spelling.Valid) :
    readSegments (strip (rowCharacters spelling.row ++ spelling.margin)) =
      .ok spelling.layout := by
  have shaped := fun segment member => (valid.valid segment member).toShaped
  rw [strip_rowCharacters shaped valid.row_ne_nil, stripBack_blanks valid.blank,
    readSegments_rowCharacters valid.valid valid.apart (fun _ => stopsAt_nil isDecimal)]
  have none : readSegments (stripFront []) = .ok [] := by
    rw [readSegments]
    rfl
  rw [none, Except.map, List.append_nil]
  rfl

/-- A spelling has segments. -/
theorem Spelling.Valid.layout_ne_nil {spelling : Spelling} (valid : spelling.Valid) :
    spelling.layout ≠ [] := by
  intro none
  exact valid.row_ne_nil (List.map_eq_nil_iff.1 none)

/-- The content of a spelling stands between its brackets. -/
theorem Spelling.characters_eq (spelling : Spelling) :
    spelling.characters =
      '[' :: ((rowCharacters spelling.row ++ spelling.margin) ++ ']' :: spelling.suffix) := by
  rw [characters, List.append_assoc]

/-- A text that is spelled is read as what is spelled. -/
theorem Spelling.Valid.read_eq {spelling : Spelling} (valid : spelling.Valid)
    (spelled : text.toList = spelling.characters) {rule : LengthRule}
    (length : LengthSpelled spelling.suffix rule) :
    read text = .ok ⟨spelling.layout, rule, text, valid.layout_ne_nil⟩ := by
  rw [spelling.characters_eq] at spelled
  rw [read_of_row spelled valid.unclosed valid.readSegments_eq valid.layout_ne_nil,
    length.readLength_eq]
  rfl

/-- A text is refused for the numeral beyond the limit that comes first. -/
theorem Overlong.read_eq {length : Nat} (overlong : Overlong text.toList length) :
    read text = .error (.numeralTooLong length) := by
  cases overlong with
  | @width row long rest suffix valid shaped apart whole beyond unclosed spelled =>
      rw [← List.append_assoc] at spelled
      exact read_of_refused_row spelled unclosed
        (readSegments_overlong valid shaped apart whole beyond)
  | @count spelling valid decimal beyond spelled =>
      rw [spelling.characters_eq] at spelled
      rw [read_of_row spelled valid.unclosed valid.readSegments_eq valid.layout_ne_nil,
        readLength_overlong decimal beyond]
      rfl

end Text

/-- The reader accepts exactly the texts that the grammar spells, and reads them as
what is spelled; a text has one spelling at most. It stops with a numeral of too
many digits exactly where one comes first, and finds any other text malformed. -/
theorem read_follows_grammar (text : String) :
    (∀ schema, read text = .ok schema ↔
      schema.text = text ∧ ∃ spelling : Spelling, spelling.Valid ∧
        text.toList = spelling.characters ∧ schema.layout = spelling.layout ∧
        LengthSpelled spelling.suffix schema.length) ∧
    (∀ spelling other : Spelling, spelling.Valid → other.Valid →
      text.toList = spelling.characters → text.toList = other.characters → spelling = other) ∧
    (∀ length, read text = .error (.numeralTooLong length) ↔ Overlong text.toList length) ∧
    ((∃ malformation, read text = .error (.malformed malformation)) ↔
      (¬ ∃ (spelling : Spelling) (rule : LengthRule), spelling.Valid ∧
        text.toList = spelling.characters ∧ LengthSpelled spelling.suffix rule) ∧
      ∀ length, ¬ Overlong text.toList length) := by
  have origin := textRead text
  refine ⟨?_, ?_, ?_, ?_⟩
  · intro schema
    constructor
    · intro accepted
      rw [accepted] at origin
      cases origin with
      | spelled valid spelled layout length stated =>
          exact ⟨stated, _, valid, spelled, layout, length⟩
    · rintro ⟨stated, spelling, valid, spelled, layout, length⟩
      rw [valid.read_eq spelled length]
      obtain ⟨schemaLayout, rule, schemaText, nonempty⟩ := schema
      cases layout
      cases stated
      rfl
  · intro spelling other valid otherValid spelled otherSpelled
    exact valid.unique otherValid (spelled.symm.trans otherSpelled)
  · intro length
    constructor
    · intro refused
      rw [refused] at origin
      cases origin with
      | overlong overlong => exact overlong
    · intro overlong
      exact overlong.read_eq
  · constructor
    · rintro ⟨malformation, refused⟩
      constructor
      · rintro ⟨spelling, rule, valid, spelled, length⟩
        rw [valid.read_eq spelled length] at refused
        cases refused
      · intro length overlong
        rw [overlong.read_eq] at refused
        cases refused
    · rintro ⟨unspelled, noOverlong⟩
      generalize result : read text = outcome at origin ⊢
      cases origin with
      | malformed => exact ⟨_, rfl⟩
      | overlong overlong => exact absurd overlong (noOverlong _)
      | spelled valid spelled layout length _ =>
          exact absurd ⟨_, _, valid, spelled, length⟩ unspelled

/-- The first segment needs no blanks before a name that begins with a digit: this
text is read, and its only spelling has such a segment. -/
theorem read_accepts_digit_in_front :
    (∃ schema, read "[1\"\"1]" = .ok schema) ∧
      ¬ ∃ (spelling : Spelling) (rule : LengthRule), spelling.Valid ∧
        (∀ segment ∈ spelling.row, segment.Apart) ∧
        "[1\"\"1]".toList = spelling.characters ∧ LengthSpelled spelling.suffix rule := by
  have segmentValid : SegmentSpelling.Valid ⟨[], ['1'], ['1']⟩ :=
    { blank := by simp
      name_ne_nil := by simp
      alphanumeric := List.forall_mem_singleton.2 (by decide +kernel)
      width_ne_nil := by simp
      decimal := List.forall_mem_singleton.2 (by decide +kernel)
      short := by decide
      positive := by decide +kernel }
  have valid : Spelling.Valid ⟨[⟨[], ['1'], ['1']⟩], [], []⟩ :=
    ⟨by simp, by simpa using segmentValid, by simp, by simp, by simp⟩
  have spelled : "[1\"\"1]".toList = Spelling.characters ⟨[⟨[], ['1'], ['1']⟩], [], []⟩ := by
    decide
  constructor
  · exact ⟨_, valid.read_eq spelled (.implied rfl)⟩
  · rintro ⟨spelling, rule, otherValid, apart, otherSpelled, -⟩
    cases otherValid.unique valid (otherSpelled.symm.trans spelled)
    have stop := apart ⟨[], ['1'], ['1']⟩ List.mem_cons_self rfl
    rw [stopsAt_cons] at stop
    exact absurd stop (by decide +kernel)

end ImageAtlas.Schema
