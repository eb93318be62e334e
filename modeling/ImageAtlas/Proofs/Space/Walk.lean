import ImageAtlas.Proofs.Space.Neighbours
import ImageAtlas.Space.Search

/-!
# The walk over candidates

Candidates are found on a walk that goes from a region to the next one behind its
extent. `VisitedFrom` says which regions such a walk meets, told by neighbours
alone; `WellFormed.walk_induction` is the end of every walk as an induction, and
`WellFormed.mem_walkCandidates_iff` says that the candidates are the visited
regions which are worth guessing at.

The extents of visited regions lie apart. So nothing inside an array that is
visited is a candidate. An array that begins inside the extent of a visited
region is stepped over, though, and what lies in it behind that extent may be a
candidate; the same holds of an array that begins before address zero.
-/

namespace ImageAtlas

/-- A region occupies at least the byte at its start. -/
theorem Region.start_lt_coverEnd (region : Region) : region.start < region.coverEnd := by
  rw [coverEnd]
  omega

/-- An array without bytes aside, what a region covers ends with it. -/
theorem Region.stop_le_coverEnd (array : ArrayRegion) :
    array.stop ≤ (Region.array array).coverEnd := by
  have longest : array.length ≤ max array.length 1 := Int.le_max_left _ _
  exact Int.add_le_add_left longest array.start

namespace Space

/-- The regions that a walk visits: the first one that begins at `floor` or behind
it, and then those that a walk visits behind the extent of that one. -/
inductive VisitedFrom (space : Space) : Int → Region → Prop where
  | first {floor : Int} {region : Region} (next : space.nextAfter (floor - 1) = some region) :
      VisitedFrom space floor region
  | onward {floor : Int} {first region : Region}
      (next : space.nextAfter (floor - 1) = some first)
      (further : VisitedFrom space first.coverEnd region) : VisitedFrom space floor region

/-- The regions that the walk over candidates visits. It begins at address zero. -/
def Visited (space : Space) (region : Region) : Prop :=
  VisitedFrom space 0 region

variable {space : Space} {floor : Int} {region : Region}

/-- A walk on which no region is left visits none. -/
theorem not_visitedFrom (none : space.nextAfter (floor - 1) = none) :
    ¬ VisitedFrom space floor region := by
  intro visited
  cases visited with
  | first next => rw [none] at next; cases next
  | onward next _ => rw [none] at next; cases next

/-- A walk visits the next region and what it visits behind the extent of that. -/
theorem visitedFrom_iff {first : Region} (next : space.nextAfter (floor - 1) = some first) :
    VisitedFrom space floor region ↔ region = first ∨ VisitedFrom space first.coverEnd region := by
  constructor
  · intro visited
    cases visited with
    | first same => rw [next] at same; cases same; exact .inl rfl
    | onward same further => rw [next] at same; cases same; exact .inr further
  · rintro (rfl | further)
    · exact .first next
    · exact .onward next further

/-- The walk meets no region that begins below. -/
theorem walkCandidates_append {before after : List Region}
    (below : ∀ other ∈ before, other.start < floor) :
    walkCandidates floor (before ++ after) = walkCandidates floor after := by
  induction before with
  | nil => rfl
  | cons other rest inductionHypothesis =>
      rw [List.cons_append, walkCandidates, if_pos (below other List.mem_cons_self)]
      exact inductionHypothesis fun later member => below later (List.mem_cons_of_mem _ member)

/-- No region in a list begins behind a certain address. -/
theorem exists_last_start (regions : List Region) :
    ∃ top, ∀ region ∈ regions, region.start ≤ top := by
  induction regions with
  | nil => exact ⟨0, fun region member => (List.not_mem_nil member).elim⟩
  | cons first rest inductionHypothesis =>
      obtain ⟨top, bounded⟩ := inductionHypothesis
      refine ⟨max first.start top, ?_⟩
      intro region member
      rcases List.mem_cons.1 member with rfl | later
      · exact Int.le_max_left _ _
      · exact Int.le_trans (bounded region later) (Int.le_max_right _ _)

namespace WellFormed

/-- When a walk is past all regions, it meets none. -/
theorem walkCandidates_ended (wellFormed : space.WellFormed)
    (ended : space.nextAfter (floor - 1) = none) :
    walkCandidates floor space.ascending = [] := by
  have below : ∀ other ∈ space.ascending, other.start < floor := by
    intro other member
    have upTo := wellFormed.nextAfter_eq_none_iff.1 ended other (wellFormed.mem_ascending.1 member)
    omega
  have passed : walkCandidates floor (space.ascending ++ []) = walkCandidates floor [] :=
    walkCandidates_append below
  rw [List.append_nil] at passed
  exact passed

/-- A walk meets the next region and goes on behind its extent. -/
theorem walkCandidates_onward (wellFormed : space.WellFormed)
    (next : space.nextAfter (floor - 1) = some region) :
    walkCandidates floor space.ascending =
      if region.isCandidate then region :: walkCandidates region.coverEnd space.ascending
      else walkCandidates region.coverEnd space.ascending := by
  obtain ⟨found, beyond, least⟩ := wellFormed.nextAfter_eq_some_iff.1 next
  obtain ⟨before, after, split⟩ := List.append_of_mem (wellFormed.mem_ascending.2 found)
  have covered := region.start_lt_coverEnd
  have ordered := wellFormed.pairwise_ascending
  rw [split, List.pairwise_append] at ordered
  have below : ∀ other ∈ before, other.start < floor := by
    intro other member
    have sooner := ordered.2.2 other member region List.mem_cons_self
    have recorded : space.regionAt other.start = some other := by
      apply wellFormed.mem_ascending.1
      rw [split]
      exact List.mem_append_left _ member
    refine Int.not_le.1 fun reached => ?_
    have later := least other recorded (by omega)
    omega
  have passed : ∀ other ∈ before ++ [region], other.start < region.coverEnd := by
    intro other member
    rcases List.mem_append.1 member with early | same
    · have sooner := ordered.2.2 other early region List.mem_cons_self
      omega
    · rw [List.mem_singleton.1 same]
      exact covered
  have behind : walkCandidates region.coverEnd space.ascending =
      walkCandidates region.coverEnd after := by
    rw [split, List.append_cons]
    exact walkCandidates_append passed
  rw [behind, split, walkCandidates_append below, walkCandidates,
    if_neg (show ¬ region.start < floor by omega)]

/-- Every walk comes to an end: what holds when no region is left, and holds at
an address if it holds behind the extent of the next region, holds everywhere. -/
theorem walk_induction (wellFormed : space.WellFormed) {motive : Int → Prop}
    (ended : ∀ {floor}, space.nextAfter (floor - 1) = none → motive floor)
    (onward : ∀ {floor region}, space.nextAfter (floor - 1) = some region →
      motive region.coverEnd → motive floor) (floor : Int) : motive floor := by
  obtain ⟨top, bounded⟩ := exists_last_start space.ascending
  -- A step leads from an address that is at most the last start to a greater one.
  induction left : (top + 1 - floor).toNat using Nat.strongRecOn generalizing floor with
  | ind left inductionHypothesis =>
      cases next : space.nextAfter (floor - 1) with
      | none => exact ended next
      | some region =>
          obtain ⟨found, beyond, -⟩ := wellFormed.nextAfter_eq_some_iff.1 next
          have covered := region.start_lt_coverEnd
          have upTo := bounded region (wellFormed.mem_ascending.2 found)
          exact onward next (inductionHypothesis _ (by omega) _ rfl)

/-- Nothing that a walk visits begins below. -/
theorem floor_le_of_visitedFrom (wellFormed : space.WellFormed)
    (visited : VisitedFrom space floor region) : floor ≤ region.start := by
  induction visited with
  | first next =>
      have beyond := (wellFormed.nextAfter_eq_some_iff.1 next).2.1
      omega
  | @onward floor first region next further inductionHypothesis =>
      have beyond := (wellFormed.nextAfter_eq_some_iff.1 next).2.1
      have covered := first.start_lt_coverEnd
      omega

/-- The candidates on a walk are the regions it visits that are worth guessing at. -/
theorem mem_walkCandidates_iff (wellFormed : space.WellFormed) (floor : Int) :
    region ∈ walkCandidates floor space.ascending ↔
      VisitedFrom space floor region ∧ region.isCandidate = true := by
  induction floor using wellFormed.walk_induction with
  | ended none =>
      rw [wellFormed.walkCandidates_ended none]
      exact iff_of_false List.not_mem_nil fun candidate => not_visitedFrom none candidate.1
  | @onward floor first next inductionHypothesis =>
      rw [wellFormed.walkCandidates_onward next, visitedFrom_iff next, or_and_right,
        ← inductionHypothesis]
      split
      · rename_i candidate
        rw [List.mem_cons]
        refine or_congr_left ⟨fun same => ⟨same, same ▸ candidate⟩, And.left⟩
      · rename_i noCandidate
        refine ⟨.inr, ?_⟩
        rintro (⟨rfl, candidate⟩ | further)
        · exact absurd candidate noCandidate
        · exact further

/-- Of two regions that a walk visits, one ends before the other begins. -/
theorem visitedFrom_apart (wellFormed : space.WellFormed) {other : Region}
    (visited : VisitedFrom space floor region) (otherVisited : VisitedFrom space floor other) :
    region = other ∨ region.coverEnd ≤ other.start ∨ other.coverEnd ≤ region.start := by
  induction visited with
  | @first floor region next =>
      cases otherVisited with
      | first same =>
          rw [next] at same
          cases same
          exact .inl rfl
      | onward same further =>
          rw [next] at same
          cases same
          exact .inr (.inl (wellFormed.floor_le_of_visitedFrom further))
  | @onward floor first region next further inductionHypothesis =>
      cases otherVisited with
      | first same =>
          rw [next] at same
          cases same
          exact .inr (.inr (wellFormed.floor_le_of_visitedFrom further))
      | onward same otherFurther =>
          rw [next] at same
          cases same
          exact inductionHypothesis otherFurther

/-- A walk visits a recorded region that does not begin below, or it steps over
its start with the extent of an earlier one. -/
theorem visitedFrom_or_steppedOver (wellFormed : space.WellFormed)
    (found : space.regionAt region.start = some region) (floor : Int)
    (reached : floor ≤ region.start) :
    VisitedFrom space floor region ∨
      ∃ earlier, VisitedFrom space floor earlier ∧ earlier.start < region.start ∧
        region.start < earlier.coverEnd := by
  induction floor using wellFormed.walk_induction with
  | @ended floor none =>
      have upTo := wellFormed.nextAfter_eq_none_iff.1 none region found
      omega
  | @onward floor first next inductionHypothesis =>
      obtain ⟨firstFound, -, least⟩ := wellFormed.nextAfter_eq_some_iff.1 next
      have notLater := least region found (by omega)
      rcases Int.lt_or_eq_of_le notLater with sooner | same
      · by_cases inside : region.start < first.coverEnd
        · exact .inr ⟨first, .first next, sooner, inside⟩
        · rcases inductionHypothesis (Int.not_lt.1 inside) with visited | ⟨earlier, visited, within⟩
          · exact .inl (.onward next visited)
          · exact .inr ⟨earlier, .onward next visited, within⟩
      · rw [same, found] at firstFound
        cases firstFound
        exact .inl (.first next)

/-- The candidates are the visited regions that are no arrays and to which something
leads. -/
theorem mem_candidates_iff (wellFormed : space.WellFormed) :
    region ∈ space.candidates ↔
      space.Visited region ∧ region.isArray = false ∧ region.backReferences.isEmpty = false := by
  rw [candidates, wellFormed.mem_walkCandidates_iff, Region.isCandidate, Bool.and_eq_true,
    Bool.not_eq_true', Bool.not_eq_true', Visited]

/-- A recorded region is visited unless it begins before address zero or inside the
extent of an earlier visited one. -/
theorem visited_iff (wellFormed : space.WellFormed)
    (found : space.regionAt region.start = some region) :
    space.Visited region ↔
      0 ≤ region.start ∧ ∀ earlier, space.Visited earlier → earlier.start < region.start →
        earlier.coverEnd ≤ region.start := by
  constructor
  · intro visited
    refine ⟨wellFormed.floor_le_of_visitedFrom visited, ?_⟩
    intro earlier earlierVisited before
    have covered := region.start_lt_coverEnd
    rcases wellFormed.visitedFrom_apart visited earlierVisited with rfl | behind | ahead
    · exact absurd before (Int.lt_irrefl _)
    · omega
    · exact ahead
  · rintro ⟨nonneg, uncovered⟩
    rcases wellFormed.visitedFrom_or_steppedOver found 0 nonneg with
      visited | ⟨earlier, earlierVisited, before, inside⟩
    · exact visited
    · exact absurd inside (Int.not_lt.2 (uncovered earlier earlierVisited before))

/-- No candidate begins inside a visited array. -/
theorem candidate_outside (wellFormed : space.WellFormed) {array : ArrayRegion}
    (visited : space.Visited (.array array)) {candidate : Region}
    (member : candidate ∈ space.candidates) :
    ¬ (array.start ≤ candidate.start ∧ candidate.start < array.stop) := by
  rintro ⟨reached, within⟩
  obtain ⟨candidateVisited, noArray, -⟩ := wellFormed.mem_candidates_iff.1 member
  have whole := Region.stop_le_coverEnd array
  have start : (Region.array array).start = array.start := rfl
  rcases wellFormed.visitedFrom_apart visited candidateVisited with rfl | behind | ahead
  · cases noArray
  · omega
  · have covered := candidate.start_lt_coverEnd
    omega

end WellFormed

/-- In every reachable space the candidates are the visited regions that are no
arrays and to which something leads. An array is visited unless it begins before
address zero or inside the extent of an earlier visited region, and no candidate
begins inside an array that is visited. -/
theorem Reachable.candidates_outside_visited_arrays (reachable : Reachable anyOperation space) :
    (∀ region, region ∈ space.candidates ↔
      space.Visited region ∧ region.isArray = false ∧ region.backReferences.isEmpty = false) ∧
    ∀ array, space.regionAt array.start = some (.array array) →
      (space.Visited (.array array) ↔
        0 ≤ array.start ∧ ∀ earlier, space.Visited earlier → earlier.start < array.start →
          earlier.coverEnd ≤ array.start) ∧
      (space.Visited (.array array) → ∀ candidate ∈ space.candidates,
        ¬ (array.start ≤ candidate.start ∧ candidate.start < array.stop)) := by
  have wellFormed := reachable.wellFormed
  refine ⟨fun region => wellFormed.mem_candidates_iff, ?_⟩
  intro array found
  have recorded : space.regionAt (Region.array array).start = some (.array array) := found
  refine ⟨wellFormed.visited_iff recorded, ?_⟩
  intro visited candidate member
  exact wellFormed.candidate_outside visited member

/-- A region of which nothing is known but that a pointer at address zero leads to it. -/
def pointed (start : Int) : Region :=
  .known { start, backReferences := AddressSet.empty.insert 0 }

/-- A header of so many bytes at 0x10, an array of four elements at 0x18, and a
region in its middle to which a pointer leads. -/
def headed (length : Int) : Space :=
  ((({ image := #[] } : Space).after
      (.observe (.known { start := 0x10, length, kind := .ascii }))).after
    (.observe (.array (fieldArray 0x18 (.fixed 4) 4)))).after
      (.observe (pointed 0x24))

/-- Such spaces are reachable. -/
theorem reachable_headed (length : Int) : Reachable anyOperation (headed length) :=
  .step (.step (.step (.initial #[] .ascii {}) trivial) trivial) trivial

/-- Behind a header that ends where the array begins, the array is visited, and
the region in its middle is no candidate. -/
theorem no_candidate_inside_headed_array :
    Reachable anyOperation (headed 8) ∧
      (headed 8).regionAt 0x18 = some (.array (fieldArray 0x18 (.fixed 4) 4)) ∧
      (headed 8).Visited (.array (fieldArray 0x18 (.fixed 4) 4)) ∧
      ∀ candidate ∈ (headed 8).candidates,
        ¬ (0x18 ≤ candidate.start ∧ candidate.start < 0x28) := by
  have found : (headed 8).regionAt 0x18 = some (.array (fieldArray 0x18 (.fixed 4) 4)) := by
    cbv
  have header : (headed 8).nextAfter (0 - 1) =
      some (.known { start := 0x10, length := 8, kind := .ascii }) := by
    cbv
  have behind : (headed 8).nextAfter (0x18 - 1) =
      some (.array (fieldArray 0x18 (.fixed 4) 4)) := by
    cbv
  have visited : (headed 8).Visited (.array (fieldArray 0x18 (.fixed 4) 4)) :=
    .onward header (.first behind)
  obtain ⟨-, arrays⟩ := (reachable_headed 8).candidates_outside_visited_arrays
  exact ⟨reachable_headed 8, found, visited, (arrays _ found).2 visited⟩

/-- A header that reaches into the array steps over its start, and the region in
its middle is a candidate. -/
theorem candidate_inside_stepped_over_array :
    Reachable anyOperation (headed 0x10) ∧
      ∃ array candidate, (headed 0x10).regionAt array.start = some (.array array) ∧
        candidate ∈ (headed 0x10).candidates ∧ array.start ≤ candidate.start ∧
          candidate.start < array.stop := by
  have found : (headed 0x10).regionAt 0x18 = some (.array (fieldArray 0x18 (.fixed 4) 4)) := by
    cbv
  have candidates : (headed 0x10).candidates = [pointed 0x24] := by
    cbv
  refine ⟨reachable_headed 0x10, fieldArray 0x18 (.fixed 4) 4, pointed 0x24, found, ?_,
    by decide, by decide⟩
  rw [candidates]
  exact List.mem_singleton_self _

end Space

end ImageAtlas
