import ImageAtlas.Proofs.Space.Walk

/-!
# The walk as a greedy cover

`WalkedFrom` is a walk over candidates that has come to its end, with the regions it met:
the next one behind an address, the next one behind the extent of that, and so on until
none is left. In a well-formed space there is one such walk from every address. It takes
no more steps than there are regions, the extents of the regions it meets lie one behind
the other, and the candidates are those of them that are worth guessing at.

A region is passed over only if it begins within the extent of one that was met. So every
region from address zero on is met whose start no other one covers.
-/

namespace ImageAtlas.Space

/-- A walk from an address on to its end, and the regions it met. -/
inductive WalkedFrom (space : Space) : Int → List Region → Prop where
  | ended {floor : Int} (none : space.nextAfter (floor - 1) = none) : WalkedFrom space floor []
  | onward {floor : Int} {region : Region} {behind : List Region}
      (next : space.nextAfter (floor - 1) = some region)
      (further : WalkedFrom space region.coverEnd behind) :
      WalkedFrom space floor (region :: behind)

variable {space : Space} {floor : Int} {region : Region} {met : List Region}

/-- There is no choice on a walk. -/
theorem WalkedFrom.unique {other : List Region} (walked : WalkedFrom space floor met)
    (otherWalked : WalkedFrom space floor other) : other = met := by
  induction walked generalizing other with
  | ended none =>
      cases otherWalked with
      | ended _ => rfl
      | onward next _ => rw [none] at next; cases next
  | onward next further inductionHypothesis =>
      cases otherWalked with
      | ended none => rw [next] at none; cases none
      | onward same otherFurther =>
          rw [next] at same
          cases same
          rw [inductionHypothesis otherFurther]

/-- A walk meets the regions that it visits. -/
theorem WalkedFrom.mem_iff (walked : WalkedFrom space floor met) :
    region ∈ met ↔ VisitedFrom space floor region := by
  induction walked with
  | ended none => exact iff_of_false List.not_mem_nil (not_visitedFrom none)
  | onward next further inductionHypothesis =>
      rw [visitedFrom_iff next, List.mem_cons, inductionHypothesis]

namespace WellFormed

/-- Every walk comes to its end. -/
theorem exists_walkedFrom (wellFormed : space.WellFormed) (floor : Int) :
    ∃ met, WalkedFrom space floor met := by
  induction floor using wellFormed.walk_induction with
  | ended none => exact ⟨[], .ended none⟩
  | onward next inductionHypothesis =>
      obtain ⟨behind, further⟩ := inductionHypothesis
      exact ⟨_, .onward next further⟩

/-- The candidates on a walk are the regions it meets that are worth guessing at. -/
theorem walkCandidates_eq_filter (wellFormed : space.WellFormed)
    (walked : WalkedFrom space floor met) :
    walkCandidates floor space.ascending = met.filter Region.isCandidate := by
  induction walked with
  | ended none => rw [wellFormed.walkCandidates_ended none, List.filter_nil]
  | onward next further inductionHypothesis =>
      rw [wellFormed.walkCandidates_onward next, inductionHypothesis, List.filter_cons]

/-- A walk meets recorded regions. -/
theorem regionAt_of_visitedFrom (wellFormed : space.WellFormed)
    (visited : VisitedFrom space floor region) :
    space.regionAt region.start = some region := by
  induction visited with
  | first next => exact (wellFormed.nextAfter_eq_some_iff.1 next).1
  | onward _ _ inductionHypothesis => exact inductionHypothesis

/-- A walk meets a region only behind the extents of those it met before. -/
theorem pairwise_walkedFrom (wellFormed : space.WellFormed)
    (walked : WalkedFrom space floor met) :
    met.Pairwise fun earlier later => earlier.coverEnd ≤ later.start := by
  induction walked with
  | ended none => exact List.Pairwise.nil
  | onward next further inductionHypothesis =>
      refine List.pairwise_cons.2 ⟨?_, inductionHypothesis⟩
      intro later member
      exact wellFormed.floor_le_of_visitedFrom (further.mem_iff.1 member)

/-- A walk takes no more steps than there are regions. -/
theorem length_walkedFrom_le (wellFormed : space.WellFormed)
    (walked : WalkedFrom space floor met) : met.length ≤ space.ascending.length := by
  have distinct : met.Nodup := by
    refine (wellFormed.pairwise_walkedFrom walked).imp ?_
    rintro earlier _ behind rfl
    exact absurd earlier.start_lt_coverEnd (Int.not_lt.2 behind)
  have recorded : met ⊆ space.ascending := fun region member =>
    wellFormed.mem_ascending.2 (wellFormed.regionAt_of_visitedFrom (walked.mem_iff.1 member))
  exact (distinct.subperm recorded).length_le

/-- A recorded region from address zero on is visited if no other one covers its start. -/
theorem visited_of_uncovered (wellFormed : space.WellFormed)
    (found : space.regionAt region.start = some region) (nonneg : 0 ≤ region.start)
    (uncovered : ∀ other, space.regionAt other.start = some other → other ≠ region →
      ¬ (other.start ≤ region.start ∧ region.start < other.coverEnd)) :
    space.Visited region := by
  refine (wellFormed.visited_iff found).2 ⟨nonneg, ?_⟩
  intro earlier visited before
  have different : earlier ≠ region := by
    rintro rfl
    exact Int.lt_irrefl _ before
  have apart := uncovered earlier (wellFormed.regionAt_of_visitedFrom visited) different
  exact Int.not_lt.1 fun covered => apart ⟨Int.le_of_lt before, covered⟩

end WellFormed

/-- In every reachable space the walk over candidates comes to an end, in no more steps
than there are regions, and the candidates are the regions it met that are worth guessing
at. They are recorded regions from address zero on that are no arrays and to which
something leads, in strictly ascending order, each behind the extents of those before it.
None is missed whose start no other region covers, however long the regions are said to
be. -/
theorem Reachable.candidates_cover_greedily (reachable : Reachable anyOperation space) :
    (∃ met, (WalkedFrom space 0 met ∧ ∀ other, WalkedFrom space 0 other → other = met) ∧
      met.length ≤ space.ascending.length ∧ space.candidates = met.filter Region.isCandidate) ∧
    (∀ candidate ∈ space.candidates,
      space.regionAt candidate.start = some candidate ∧ candidate.isArray = false ∧
        candidate.backReferences.isEmpty = false ∧ 0 ≤ candidate.start) ∧
    space.candidates.Pairwise (fun earlier later =>
      earlier.start < later.start ∧ earlier.start + max earlier.length 1 ≤ later.start) ∧
    ∀ region, space.regionAt region.start = some region → region.isArray = false →
      region.backReferences.isEmpty = false → 0 ≤ region.start →
      (∀ other, space.regionAt other.start = some other → other ≠ region →
        ¬ (other.start ≤ region.start ∧ region.start < other.start + max other.length 1)) →
      region ∈ space.candidates := by
  have wellFormed := reachable.wellFormed
  obtain ⟨met, walked⟩ := wellFormed.exists_walkedFrom 0
  have candidates : space.candidates = met.filter Region.isCandidate :=
    wellFormed.walkCandidates_eq_filter walked
  refine ⟨⟨met, ⟨walked, fun other => walked.unique⟩, wellFormed.length_walkedFrom_le walked,
    candidates⟩, ?_, ?_, ?_⟩
  · intro candidate member
    obtain ⟨visited, noArray, pointedTo⟩ := wellFormed.mem_candidates_iff.1 member
    exact ⟨wellFormed.regionAt_of_visitedFrom visited, noArray, pointedTo,
      wellFormed.floor_le_of_visitedFrom visited⟩
  · rw [candidates]
    refine ((wellFormed.pairwise_walkedFrom walked).filter _).imp ?_
    intro earlier later behind
    exact ⟨Int.lt_of_lt_of_le earlier.start_lt_coverEnd behind, behind⟩
  · intro region found noArray pointedTo nonneg uncovered
    have visited := wellFormed.visited_of_uncovered found nonneg uncovered
    exact wellFormed.mem_candidates_iff.2 ⟨visited, noArray, pointedTo⟩

/-- The space once regions have been observed one after the other. -/
def observeAll (space : Space) (regions : List Region) : Space :=
  regions.foldl observe space

/-- Any regions may be observed. -/
theorem Reachable.observeAll (reachable : Reachable anyOperation space) (regions : List Region) :
    Reachable anyOperation (space.observeAll regions) := by
  induction regions generalizing space with
  | nil => exact reachable
  | cons region rest inductionHypothesis =>
      have observed : Reachable anyOperation (space.after (.observe region)) :=
        .step reachable trivial
      exact inductionHypothesis observed

/-- A region that is said to be so long. A pointer at address zero leads to it. -/
def pointedLong (start length : Int) : Region :=
  .known { start, length, backReferences := AddressSet.empty.insert 0 }

/-- A header of four bytes to which nothing leads. -/
def bareHeader : Region :=
  .known { start := 4, length := 4, kind := .ascii }

/-- One region begins before address zero, one has no bytes, the length of one is negative.
One begins inside the header, and one behind an array without elements. -/
def oddlyLong : Space :=
  observeAll { image := #[] } [pointed (-4), pointedLong 0 0, pointedLong 1 (-5), bareHeader,
    pointed 6, .array (fieldArray 8 (.fixed 0) 0), pointed 9]

/-- The region before address zero and the one inside the header are left out. -/
theorem candidates_oddlyLong :
    Reachable anyOperation oddlyLong ∧
      oddlyLong.candidates = [pointedLong 0 0, pointedLong 1 (-5), pointed 9] := by
  have reachable : Reachable anyOperation oddlyLong :=
    Reachable.observeAll (.initial #[] .ascii {}) _
  have walked : WalkedFrom oddlyLong 0 [pointedLong 0 0, pointedLong 1 (-5), bareHeader,
      .array (fieldArray 8 (.fixed 0) 0), pointed 9] :=
    .onward (by cbv) (.onward (by cbv) (.onward (by cbv) (.onward (by cbv) (.onward (by cbv)
      (.ended (by cbv))))))
  obtain ⟨⟨met, ⟨-, only⟩, -, candidates⟩, -⟩ := reachable.candidates_cover_greedily
  refine ⟨reachable, ?_⟩
  rw [candidates, ← only _ walked]
  rfl

end ImageAtlas.Space
