import ImageAtlas.Proofs.Schema.Suffix
import ImageAtlas.Proofs.Space.Placing

/-!
# What was found, described by its text

What a search finds has its count for a suffix, in place of the one that was searched
with, and the back-references of the candidate at which it lies. Its text is read as
the layout with that count, so that it describes what was found. It still does once
that was recorded under a name which no array follows: then nothing is passed on, and
the array is placed.

A count is a suffix only if it can be written. That is so in every image of fewer than
`Text.numeralBound` bytes (`EarliestLongest.isWritable_count`).
-/

namespace ImageAtlas.Space

variable {space : Space} {text name : String} {report : SearchReport} {hit : ArrayRegion}
  {schema : Schema} {counted : Int → Nat}

/-- A search that finds something has read its text and counted its elements, and what it
finds lies at the first of the candidates with the greatest count. -/
theorem WellFormed.exists_counted (wellFormed : space.WellFormed)
    (searched : (space.search text).value = .ok report) (found : report.hit = some hit) :
    ∃ schema counted, Schema.read text = .ok schema ∧ space.Counts schema.layout counted ∧
      space.EarliestLongest schema counted hit := by
  cases accepted : Schema.read text with
  | error refusal =>
      cases refusal with
      | malformed malformation =>
          simp only [search, accepted, Noted.value_note, Except.ok.injEq] at searched
          rw [← searched] at found
          cases found
      | numeralTooLong characters =>
          simp [search, accepted] at searched
  | ok schema =>
      have plain := Schema.plain_of_read accepted
      obtain ⟨counted, counts⟩ := exists_counts plain space
      have longest := longestOf_longestRun (space.candidates.map (runAt counted))
      rw [counts.search_eq accepted, Except.ok.injEq] at searched
      rw [← searched, Option.map_eq_some_iff] at found
      obtain ⟨run, chosen, rfl⟩ := found
      rw [chosen] at longest
      exact ⟨schema, counted, rfl, counts, wellFormed.earliestLongest counts plain longest⟩

/-- A search that finds something has read its text, and what it finds lies at the first
of the candidates with the greatest count. -/
theorem WellFormed.exists_earliestLongest (wellFormed : space.WellFormed)
    (searched : (space.search text).value = .ok report) (found : report.hit = some hit) :
    ∃ schema counted, Schema.read text = .ok schema ∧
      space.EarliestLongest schema counted hit := by
  obtain ⟨schema, counted, accepted, -, longest⟩ := wellFormed.exists_counted searched found
  exact ⟨schema, counted, accepted, longest⟩

/-- A search fails only by a refusal of its text. -/
theorem refusal_of_search {fault : Fault} (failed : (space.search text).value = .error fault) :
    ∃ refusal, Schema.read text = .error refusal ∧ fault = .schema refusal := by
  cases accepted : Schema.read text with
  | error refusal =>
      refine ⟨refusal, rfl, ?_⟩
      cases refusal with
      | malformed malformation => simp [search, accepted] at failed
      | numeralTooLong characters =>
          simp only [search, accepted, Noted.value_pure, Except.error.injEq] at failed
          exact failed.symm
  | ok schema =>
      obtain ⟨counted, counts⟩ := exists_counts (Schema.plain_of_read accepted) space
      rw [counts.search_eq accepted] at failed
      cases failed

/-- A candidate is recorded where it begins. -/
theorem WellFormed.regionAt_candidate (wellFormed : space.WellFormed) {candidate : Region}
    (member : candidate ∈ space.candidates) :
    space.regionAt candidate.start = some candidate := by
  apply wellFormed.mem_ascending.1
  exact (walkCandidates_sublist 0 space.ascending).subset member

/-- An array at a candidate has the back-references known there. -/
theorem EarliestLongest.backReferencesAt_eq
    (longest : space.EarliestLongest schema counted hit) (wellFormed : space.WellFormed) :
    space.backReferencesAt hit.start = hit.backReferences := by
  obtain ⟨candidate, member, start, references, -⟩ := longest.candidate
  rw [wellFormed.backReferencesAt_eq, ← start, wellFormed.regionAt_candidate member]
  exact references

/-- The count of what was found can be written if the image is not too great. -/
theorem EarliestLongest.isWritable_count (longest : space.EarliestLongest schema counted hit)
    (plain : schema.layout.Plain) (small : space.image.size < Text.numeralBound) :
    Text.isWritable hit.count = true := by
  have width := plain.one_le_width
  rw [← longest.layout] at width
  have bytes : (hit.count : Int) ≤ hit.length :=
    le_mul_of_one_le_left (Int.natCast_nonneg hit.count) width
  obtain ⟨nonneg, inside⟩ := longest.inside
  rw [ArrayRegion.stop] at inside
  rw [Text.isWritable, decide_eq_true_iff, Int.natAbs_natCast]
  omega

/-- The text of what was found states its layout and its count, if that can be written. -/
theorem EarliestLongest.read_schemaText (longest : space.EarliestLongest schema counted hit)
    (accepted : Schema.read text = .ok schema) (writable : Text.isWritable hit.count = true) :
    Schema.read hit.schemaText =
      .ok ⟨hit.layout, hit.lengthRule, hit.schemaText, hit.layout_ne_nil⟩ := by
  have stated := Schema.read_withSuffix_decimal accepted writable
  simp only [longest.schemaText, Schema.text_of_read accepted, stated, longest.layout,
    longest.lengthRule]

/-- The text of what was found describes it. -/
theorem EarliestLongest.parseAt_eq (longest : space.EarliestLongest schema counted hit)
    (wellFormed : space.WellFormed) (accepted : Schema.read text = .ok schema)
    (writable : Text.isWritable hit.count = true) :
    (space.parseAt hit.schemaText hit.start none).value = .ok hit := by
  have stated := longest.read_schemaText accepted writable
  have resolved : (space.resolveLength hit.lengthRule hit.layout hit.start).value =
      .ok (hit.count : Int) := by
    rw [longest.lengthRule]
    rfl
  rw [parseAt_of_resolved stated resolved, Option.getD_none,
    longest.backReferencesAt_eq wellFormed]

/-- In every reachable space, the text of what a search finds describes it where it lies,
if its count can be written. It does so also when what was found has been recorded under
any name from which no recorded array derives its length; writing that anchor succeeds. -/
theorem Reachable.parseAt_hit (reachable : Reachable anyOperation space)
    (searched : (space.search text).value = .ok report) (found : report.hit = some hit)
    (writable : Text.isWritable hit.count = true) :
    (space.parseAt hit.schemaText hit.start none).value = .ok hit ∧
      ∀ name, (∀ address array, space.regionAt address = some (.array array) →
          array.lengthRule ≠ .derivedFromAnchor name) →
        (space.writeAnchor name (.array hit)).outcome = .ok (.array hit) ∧
          ((space.writeAnchor name (.array hit)).space.parseAt hit.schemaText hit.start
            none).value = .ok hit := by
  have wellFormed := reachable.wellFormed
  obtain ⟨schema, counted, accepted, longest⟩ := wellFormed.exists_earliestLongest searched found
  have described := longest.parseAt_eq wellFormed accepted writable
  refine ⟨described, ?_⟩
  intro name unfollowed
  have asGiven := wellFormed.inheriting_of_parseAt described
  have independent : ∀ array, Region.array hit = .array array →
      array.lengthRule ≠ .derivedFromAnchor name := by
    rintro _ ⟨⟩ derived
    rw [longest.lengthRule] at derived
    cases derived
  obtain ⟨outcome, left⟩ := wellFormed.writeAnchor_unfollowed unfollowed independent
  have placed := (wellFormed.placed_observe asGiven).bind name
  rw [asGiven] at outcome
  rw [left]
  exact ⟨outcome, placed.parseAt_eq wellFormed described⟩

/-- The rows, and behind them an array that follows "y". -/
def rowsAndFollower : Space :=
  rows.after (.observe (.array (fieldArray 0x20 (.derivedFromAnchor "y") 0)))

/-- The two elements that are found among the rows. -/
def foundRow : ArrayRegion where
  start := 3
  schemaText := "[n\"\"2]2"
  layout := [⟨"n", .delimitedText, 2⟩]
  lengthRule := .fixed 2
  count := 2
  backReferences := AddressSet.empty.insert 0
  layout_ne_nil := List.cons_ne_nil _ _

/-- A search for as many texts of two bytes as "x" has finds two. Their text says so,
also once they are under "x". -/
theorem parseAt_foundRow :
    Reachable anyOperation rowsAndFollower ∧
      (∃ report, (rowsAndFollower.search "[n\"\"2]x").value = .ok report ∧
        report.hit = some foundRow) ∧
      Text.isWritable foundRow.count = true ∧
      (∀ address array, rowsAndFollower.regionAt address = some (.array array) →
        array.lengthRule ≠ .derivedFromAnchor "x") ∧
      (rowsAndFollower.parseAt "[n\"\"2]2" 3 none).value = .ok foundRow ∧
      ((rowsAndFollower.writeAnchor "x" (.array foundRow)).space.parseAt
        "[n\"\"2]2" 3 none).value = .ok foundRow := by
  have reachable : Reachable anyOperation rowsAndFollower :=
    .step (.step (.step (.step (.initial _ .ascii {}) trivial) trivial) trivial) trivial
  have searched : (rowsAndFollower.search "[n\"\"2]x").value =
      .ok { hit := some foundRow, progress := [(0, 1), (3, 2), (8, 2)] } := by
    cbv
  have writable : Text.isWritable foundRow.count = true := by
    apply Text.length_decimalCharacters_le_iff.1
    decide
  have unfollowed : ∀ address array,
      rowsAndFollower.regionAt address = some (.array array) →
        array.lengthRule ≠ .derivedFromAnchor "x" := by
    intro address array found
    have bare := bareArrayAt_of_array found
    simp only [rowsAndFollower, rows, Space.after, bareArrayAt_observe, pointed,
      Region.bareArray?] at bare
    split at bare
    · have rule : LengthRule.derivedFromAnchor "y" = array.lengthRule :=
        congrArg ArrayRegion.lengthRule (Option.some.inj bare)
      rw [← rule]
      decide
    · simp [bareArrayAt, regionAt] at bare
  obtain ⟨described, under⟩ := reachable.parseAt_hit searched rfl writable
  obtain ⟨-, again⟩ := under "x" unfollowed
  exact ⟨reachable, ⟨_, searched, rfl⟩, writable, unfollowed, described, again⟩

end ImageAtlas.Space
