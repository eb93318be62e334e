import ImageAtlas.Proofs.Space.Cover
import ImageAtlas.Proofs.Space.SearchHit

/-!
# Searches one after another

What a search found is recorded as an array in place of the candidate at which it lies.
The starts of regions and all other regions stay (`Replaced`), so that the walk over
candidates takes the same steps up to the array, whatever lies before it, and then steps
over its whole extent. No candidate is left inside the array, and the candidates before it
are the same. The next search, for whatever text, therefore finds nothing inside it.
-/

namespace ImageAtlas.Space

variable {space after : Space} {floor : Int} {region old other : Region} {name text : String}
  {before behind further : List Region} {report : SearchReport} {hit : ArrayRegion}

/-- A region is recorded at its start, where another one was. The starts and all other
regions are the same. -/
structure Replaced (space after : Space) (region : Region) : Prop where
  starts : after.starts = space.starts
  here : after.regionAt region.start = some region
  elsewhere : ∀ {address}, address ≠ region.start →
    after.regionAt address = space.regionAt address

/-- Where a region is recorded already, another one that keeps its own back-references
takes its place when it is anchored. -/
theorem replaced_anchoring (known : (space.regionAt region.start).isSome)
    (asGiven : space.inheriting region = region) (name : String) :
    Replaced space (space.anchoring name region) region := by
  obtain ⟨existing, found⟩ := Option.isSome_iff_exists.1 known
  have same : space.addStart region.start = space := by rw [addStart, found]
  refine ⟨?_, ?_, ?_⟩
  · rw [anchoring, Space.bind, observe, same, store]
  · rw [regionAt_anchoring, if_pos rfl, asGiven]
  · intro address different
    rw [regionAt_anchoring, if_neg different.symm]

/-- The next region is the one that took the place of another, or the same as before. -/
theorem Replaced.nextAfter_eq (replaced : Replaced space after region)
    (wellFormed : space.WellFormed) {address : Int} (next : space.nextAfter address = some other) :
    after.nextAfter address = if other.start = region.start then some region else some other := by
  obtain ⟨start, least, found⟩ := Option.bind_eq_some_iff.1 next
  have begins := wellFormed.start_eq found
  rw [nextAfter, replaced.starts, least, Option.bind_some, begins]
  split
  · rename_i same
    rw [same, replaced.here]
  · rename_i different
    rw [replaced.elsewhere different, found]

/-- A walk takes the same steps up to the region that took the place of another. -/
theorem Replaced.walkedFrom (replaced : Replaced space after region)
    (wellFormed : space.WellFormed) (same : old.start = region.start)
    (walked : WalkedFrom space floor (before ++ old :: behind))
    (onward : WalkedFrom after region.coverEnd further) :
    WalkedFrom after floor (before ++ region :: further) := by
  induction before generalizing floor with
  | nil =>
      cases walked with
      | onward next _ =>
          have here := replaced.nextAfter_eq wellFormed next
          rw [if_pos same] at here
          exact .onward here onward
  | cons first rest inductionHypothesis =>
      cases walked with
      | onward next walkedOn =>
          -- What the walk meets later begins behind the extent of the first region.
          have later := wellFormed.floor_le_of_visitedFrom
            (walkedOn.mem_iff.1 (List.mem_append_right rest List.mem_cons_self))
          have covered := first.start_lt_coverEnd
          have here := replaced.nextAfter_eq wellFormed next
          rw [if_neg (by omega)] at here
          exact .onward here (inductionHypothesis walkedOn)

/-- What a walk meets below a region that it meets, it meets before that. -/
theorem WalkedFrom.mem_iff_of_lt (walked : WalkedFrom space floor (before ++ region :: behind))
    (wellFormed : space.WellFormed) (below : other.start < region.start) :
    other ∈ before ++ region :: behind ↔ other ∈ before := by
  have ordered := (List.pairwise_append.1 (wellFormed.pairwise_walkedFrom walked)).2.1
  refine ⟨fun member => ?_, List.mem_append_left _⟩
  rcases List.mem_append.1 member with early | late
  · exact early
  · rcases List.mem_cons.1 late with rfl | later
    · exact absurd below (Int.lt_irrefl _)
    · have beyond := (List.pairwise_cons.1 ordered).1 other later
      have covered := region.start_lt_coverEnd
      omega

/-- A region that takes the place of a visited one is visited, and below it the same
regions are visited as before. -/
theorem Replaced.visited (replaced : Replaced space after region)
    (wellFormed : space.WellFormed) (afterWellFormed : after.WellFormed)
    (same : old.start = region.start) (visited : space.Visited old) :
    after.Visited region ∧
      ∀ other, other.start < region.start → (after.Visited other ↔ space.Visited other) := by
  obtain ⟨met, walked⟩ := wellFormed.exists_walkedFrom 0
  obtain ⟨before, behind, rfl⟩ := List.append_of_mem (walked.mem_iff.2 visited)
  obtain ⟨further, onward⟩ := afterWellFormed.exists_walkedFrom region.coverEnd
  have again := replaced.walkedFrom wellFormed same walked onward
  refine ⟨again.mem_iff.1 (List.mem_append_right before List.mem_cons_self), ?_⟩
  intro other below
  rw [Visited, Visited, ← again.mem_iff, ← walked.mem_iff,
    again.mem_iff_of_lt afterWellFormed below,
    walked.mem_iff_of_lt wellFormed (same.symm ▸ below)]

/-- A search has a result, unless its text holds a numeral beyond the limit. -/
theorem exists_report (space : Space) (text : String) :
    (∃ report, (space.search text).value = .ok report) ∨
      ∃ length, Schema.read text = .error (.numeralTooLong length) := by
  cases searched : (space.search text).value with
  | ok report => exact .inl ⟨report, rfl⟩
  | error fault =>
      obtain ⟨refusal, refused, -⟩ := refusal_of_search searched
      cases refusal with
      | malformed malformation => simp [search, refused] at searched
      | numeralTooLong length => exact .inr ⟨length, refused⟩

/-- What a search found is recorded in every reachable space under any name from which no
recorded array derives its length. Then no candidate begins inside it, so that the next
search of any text finds nothing or an array that begins outside; it has a result unless
a numeral in the text is beyond the limit. Below what was found the candidates are the
same as before. -/
theorem Reachable.searches_find_successive_arrays (reachable : Reachable anyOperation space)
    (searched : (space.search text).value = .ok report) (found : report.hit = some hit)
    (unfollowed : space.Unfollowed name) :
    (space.writeAnchor name (.array hit)).outcome = .ok (.array hit) ∧
    (∀ candidate ∈ (space.writeAnchor name (.array hit)).space.candidates,
      ¬ (hit.start ≤ candidate.start ∧ candidate.start < hit.stop)) ∧
    (∀ otherText,
      (∃ otherReport,
        ((space.writeAnchor name (.array hit)).space.search otherText).value = .ok otherReport ∧
          ∀ otherHit, otherReport.hit = some otherHit →
            ¬ (hit.start ≤ otherHit.start ∧ otherHit.start < hit.stop)) ∨
      ∃ length, Schema.read otherText = .error (.numeralTooLong length)) ∧
    ∀ candidate, candidate.start < hit.start →
      (candidate ∈ (space.writeAnchor name (.array hit)).space.candidates ↔
        candidate ∈ space.candidates) := by
  have wellFormed := reachable.wellFormed
  have afterWellFormed := wellFormed.writeAnchor name (.array hit)
  obtain ⟨schema, counted, -, longest⟩ := wellFormed.exists_earliestLongest searched found
  obtain ⟨old, member, same, -⟩ := longest.candidate
  have independent : ∀ array, Region.array hit = .array array →
      array.lengthRule ≠ .derivedFromAnchor name := by
    rintro _ ⟨⟩ derived
    rw [longest.lengthRule] at derived
    cases derived
  have asGiven : space.inheriting (.array hit) = .array hit :=
    wellFormed.inheriting_of_references (longest.backReferencesAt_eq wellFormed).symm
  obtain ⟨outcome, left⟩ := wellFormed.writeAnchor_unfollowed unfollowed independent
  rw [asGiven] at outcome
  have known : (space.regionAt (Region.array hit).start).isSome := by
    rw [show (Region.array hit).start = old.start from same.symm,
      wellFormed.regionAt_candidate member]
    rfl
  have replaced := replaced_anchoring known asGiven name
  rw [← left] at replaced
  obtain ⟨visited, -⟩ := wellFormed.mem_candidates_iff.1 member
  obtain ⟨hitVisited, below⟩ := replaced.visited wellFormed afterWellFormed same visited
  have outside : ∀ candidate ∈ (space.writeAnchor name (.array hit)).space.candidates,
      ¬ (hit.start ≤ candidate.start ∧ candidate.start < hit.stop) :=
    fun candidate => afterWellFormed.candidate_outside hitVisited
  refine ⟨outcome, outside, ?_, ?_⟩
  · intro otherText
    rcases exists_report (space.writeAnchor name (.array hit)).space otherText with
      ⟨otherReport, otherSearched⟩ | tooLong
    · refine .inl ⟨otherReport, otherSearched, ?_⟩
      intro otherHit otherFound
      obtain ⟨_, _, -, otherLongest⟩ :=
        afterWellFormed.exists_earliestLongest otherSearched otherFound
      obtain ⟨candidate, candidateMember, start, -⟩ := otherLongest.candidate
      rw [← start]
      exact outside candidate candidateMember
    · exact .inr tooLong
  · intro candidate sooner
    rw [afterWellFormed.mem_candidates_iff, wellFormed.mem_candidates_iff, below candidate sooner]

/-- The rows, and a pointer that leads into the second one. -/
def rowsAndStray : Space :=
  rows.after (.observe (pointed 5))

/-- Under "x", the two elements at 3 are no longer searched. What the stray pointer leads
to is a candidate before and none behind them, and the row at zero remains one. -/
theorem search_rowsAndStray_again :
    Reachable anyOperation rowsAndStray ∧
      (∃ report, (rowsAndStray.search "[n\"\"2]").value = .ok report ∧
        report.hit = some foundRow) ∧
      rowsAndStray.Unfollowed "x" ∧
      pointed 5 ∈ rowsAndStray.candidates ∧
      pointed 5 ∉ (rowsAndStray.writeAnchor "x" (.array foundRow)).space.candidates ∧
      pointed 0 ∈ (rowsAndStray.writeAnchor "x" (.array foundRow)).space.candidates ∧
      ∃ again, ((rowsAndStray.writeAnchor "x" (.array foundRow)).space.search
          "[n\"\"2]").value = .ok again ∧
        ∀ hit, again.hit = some hit → ¬ (3 ≤ hit.start ∧ hit.start < 7) := by
  have reachable : Reachable anyOperation rowsAndStray :=
    .step (.step (.step (.step (.initial _ .ascii {}) trivial) trivial) trivial) trivial
  have candidates : rowsAndStray.candidates = [pointed 0, pointed 3, pointed 5, pointed 8] := by
    cbv
  have searched : (rowsAndStray.search "[n\"\"2]").value =
      .ok { hit := some foundRow, progress := [(0, 1), (3, 2), (5, 1), (8, 2)] } := by
    cbv
  have unfollowed : rowsAndStray.Unfollowed "x" := by
    intro address array found
    have bare := bareArrayAt_of_array found
    simp only [rowsAndStray, rows, Space.after, bareArrayAt_observe, pointed,
      Region.bareArray?] at bare
    simp [bareArrayAt, regionAt] at bare
  obtain ⟨-, outside, again, below⟩ :=
    reachable.searches_find_successive_arrays searched rfl unfollowed
  refine ⟨reachable, ⟨_, searched, rfl⟩, unfollowed, ?_, ?_, ?_, ?_⟩
  · rw [candidates]
    simp
  · intro inside
    exact outside (pointed 5) inside (by decide)
  · refine (below (pointed 0) (by decide)).2 ?_
    rw [candidates]
    exact List.mem_cons_self
  · rcases again "[n\"\"2]" with ⟨report, result, apart⟩ | ⟨length, tooLong⟩
    · exact ⟨report, result, apart⟩
    · simp [search, tooLong] at searched

end ImageAtlas.Space
