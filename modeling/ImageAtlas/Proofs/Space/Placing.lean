import ImageAtlas.Proofs.Space.DerivedCounts
import ImageAtlas.Proofs.Space.Neighbours
import ImageAtlas.Proofs.Space.Search

/-!
# Placing an array again

A schema text that is read describes an array at every address. Recording that
array changes what its text is placed by: the regions, the anchors and, as the
count is passed on, the counts of other arrays. `Placed` says how far. The array
is recorded where it begins, no other start comes or goes, a name leads where it
led or to the array, and counts are as they were or that of the array. So the
array has the same neighbour, and a name that gave its count gives it still,
wherever that name leads by now: the text describes the same array again.
-/

namespace ImageAtlas.Space

variable {space after : Space} {text name : String} {address : Int} {schema : Schema}
  {array : ArrayRegion}

/-- The length rule of a schema that was read resolves to a count everywhere. -/
theorem WellFormed.exists_resolveLength (wellFormed : space.WellFormed)
    (accepted : Schema.read text = .ok schema) (address : Int) :
    ∃ count : Nat, (space.resolveLength schema.length schema.layout address).value =
      .ok (count : Int) := by
  have origin := Schema.textRead text
  rw [accepted] at origin
  cases origin with
  | spelled valid spelled layout length stated =>
      generalize schema.length = rule at length ⊢
      cases length with
      | implied empty =>
          obtain ⟨count, -, counted⟩ := (Schema.plain_of_read accepted).exists_countBefore
            space.codec space.image address (space.boundAfter address)
          refine ⟨count, ?_⟩
          simp only [resolveLength, counted, Noted.value_pure]
      | fixed nonempty decimal short => exact ⟨_, rfl⟩
      | derived nonempty anchor noNumeral =>
          exact ⟨_, wellFormed.resolveLength_derived _ schema.layout address⟩

/-- A schema text that is read describes an array everywhere. -/
theorem WellFormed.exists_parseAt (wellFormed : space.WellFormed)
    (accepted : Schema.read text = .ok schema) (address : Int)
    (backReferences : Option AddressSet) :
    ∃ array, (space.parseAt text address backReferences).value = .ok array := by
  obtain ⟨count, resolved⟩ := wellFormed.exists_resolveLength accepted address
  exact ⟨_, parseAt_of_resolved accepted resolved backReferences⟩

/-- A region with the back-references that are known at its start is recorded as it is
given. -/
theorem WellFormed.inheriting_of_references (wellFormed : space.WellFormed) {region : Region}
    (references : region.backReferences = space.backReferencesAt region.start) :
    space.inheriting region = region := by
  rw [wellFormed.backReferencesAt_eq] at references
  rw [inheriting]
  split
  · rfl
  · rename_i existing found
    rw [found] at references
    have same : region.backReferences = existing.backReferences := references
    simp only [same, Bool.not_and_self, Bool.false_eq_true, if_false]

/-- An array that was described without back-references of its own has all that are
known where it begins, and so takes over no others. -/
theorem WellFormed.inheriting_of_parseAt (wellFormed : space.WellFormed)
    (described : (space.parseAt text address none).value = .ok array) :
    space.inheriting (.array array) = .array array := by
  obtain ⟨schema, accepted, resolved, shape⟩ := exists_of_parseAt described
  have start : array.start = address := start_of_parseAt described
  refine wellFormed.inheriting_of_references ?_
  have references : array.backReferences = space.backReferencesAt address := by
    rw [shape]
    rfl
  rw [Region.backReferences, Region.start, references, start]

/-- What becomes of a space when an array is recorded in it, whether or not its count
is passed on. -/
structure Placed (space : Space) (array : ArrayRegion) (after : Space) : Prop where
  retained : Retains space after
  wellFormed : after.WellFormed
  root : after.regionAt array.start = some (.array array)
  starts : ∀ {address}, address ≠ array.start →
    ((after.regionAt address).isSome ↔ (space.regionAt address).isSome)
  resolve : ∀ other, after.resolve other = space.resolve other ∨
    after.resolve other = some array.start
  countAt : ∀ address, after.countAt address = space.countAt address ∨
    after.countAt address = array.count

/-- Observing an array that takes over no back-references places it. -/
theorem WellFormed.placed_observe (wellFormed : space.WellFormed)
    (asGiven : space.inheriting (.array array) = .array array) :
    Placed space array (space.observe (.array array)) where
  retained := retains_observe space _
  wellFormed := wellFormed.observe _
  root := by
    rw [regionAt_observe, asGiven]
    exact if_pos rfl
  starts := by
    intro address elsewhere
    rw [regionAt_observe, Region.start, if_neg (Ne.symm elsewhere)]
  resolve other := .inl (resolve_observe space _ other)
  countAt := by
    intro address
    by_cases here : array.start = address
    · right
      rw [countAt, regionAt_observe, asGiven, Region.start, if_pos here]
    · left
      rw [countAt, countAt, regionAt_observe, Region.start, if_neg here]

/-- Writing an anchor for an array that takes over no back-references places it, as
far as its count is passed on. -/
theorem Anchored.placed (anchored : Anchored space name (.array array) after)
    (wellFormed : space.WellFormed) (retained : Retains space after)
    (afterWellFormed : after.WellFormed)
    (asGiven : space.inheriting (.array array) = .array array) : Placed space array after where
  retained := retained
  wellFormed := afterWellFormed
  root := anchored.root.trans (congrArg some asGiven)
  starts := by
    intro address elsewhere
    rw [anchored.isSome_regionAt wellFormed]
    exact or_iff_right elsewhere
  resolve := by
    intro other
    rw [anchored.resolve]
    split
    · exact .inr rfl
    · exact .inl rfl
  countAt := by
    intro address
    by_cases here : address = array.start
    · right
      subst here
      exact (countAt_of_regionAt anchored.root).trans (carriedCount_inheriting space _)
    · rcases anchored.elsewhere wellFormed here with
        ⟨dependant, anchor, recorded, derived, affected, brought⟩ | ⟨unaffected, same⟩
      · right
        rw [countAt_of_regionAt brought]
        rfl
      · left
        rw [countAt, countAt, same]

namespace Placed

/-- A name that gave the count of the array still gives it. -/
theorem countUnder_eq (placed : Placed space array after)
    (given : space.countUnder name = array.count) : after.countUnder name = array.count := by
  rcases placed.resolve name with same | arrived
  · cases leads : space.resolve name with
    | none => simpa [countUnder, same, leads] using given
    | some address =>
        rw [countUnder_of_resolve leads] at given
        rw [countUnder_of_resolve (same.trans leads)]
        rcases placed.countAt address with kept | reached
        · exact kept.trans given
        · exact reached
  · rw [countUnder_of_resolve arrived, countAt_of_regionAt placed.root]
    rfl

/-- The array has to end where it had to. -/
theorem boundAfter_eq (placed : Placed space array after) (wellFormed : space.WellFormed) :
    after.boundAfter array.start = space.boundAfter array.start := by
  have next : after.starts.next? array.start = space.starts.next? array.start := by
    refine wellFormed.starts_ascending.next?_congr placed.wellFormed.starts_ascending ?_
    intro beyond behind
    rw [placed.wellFormed.mem_starts, wellFormed.mem_starts]
    exact placed.starts (by omega)
  rw [wellFormed.boundAfter_eq, placed.wellFormed.boundAfter_eq, next, placed.retained.image]

/-- The length rule of the array resolves to its count again. -/
theorem resolveLength_eq (placed : Placed space array after) (wellFormed : space.WellFormed)
    (resolved : (space.resolveLength array.lengthRule array.layout array.start).value =
      .ok (array.count : Int)) :
    (after.resolveLength array.lengthRule array.layout array.start).value =
      .ok (array.count : Int) := by
  generalize array.lengthRule = rule at resolved ⊢
  cases rule with
  | fixed count => exact resolved
  | impliedByNextRun =>
      rw [← resolved]
      simp only [resolveLength, placed.boundAfter_eq wellFormed, placed.retained.codec,
        placed.retained.image]
  | derivedFromAnchor anchor =>
      rw [wellFormed.resolveLength_derived] at resolved
      have given : space.countUnder anchor = array.count := Int.ofNat.inj (Except.ok.inj resolved)
      rw [placed.wellFormed.resolveLength_derived, placed.countUnder_eq given]
  | unsupported => cases resolved

/-- The text that described the array describes it again. -/
theorem parseAt_eq (placed : Placed space array after) (wellFormed : space.WellFormed)
    (described : (space.parseAt text address none).value = .ok array) :
    (after.parseAt text address none).value = .ok array := by
  have start : array.start = address := start_of_parseAt described
  have references : after.backReferencesAt address = array.backReferences := by
    rw [placed.wellFormed.backReferencesAt_eq, ← start, placed.root]
    rfl
  obtain ⟨schema, accepted, resolved, shape⟩ := exists_of_parseAt described
  have layout : array.layout = schema.layout := by rw [shape]
  have rule : array.lengthRule = schema.length := by rw [shape]
  rw [← layout, ← rule, ← start] at resolved
  have again := placed.resolveLength_eq wellFormed resolved
  rw [layout, rule, start] at again
  rw [parseAt_of_resolved accepted again, references, shape]
  rfl

/-- An array that was placed may be given a name. -/
theorem bind (placed : Placed space array after) (name : String) :
    Placed space array (after.bind name array.start) where
  retained := placed.retained.trans (retains_bind after name array.start)
  wellFormed := placed.wellFormed.bind name (Option.isSome_of_eq_some placed.root)
  root := placed.root
  starts := placed.starts
  resolve := by
    intro other
    rw [resolve_bind]
    split
    · exact .inr rfl
    · exact placed.resolve other
  countAt := placed.countAt

end Placed

/-- Where arrays that derive their lengths state what they are, an array that was
described can be written under any name and is placed then. -/
theorem WellFormed.placed_writeAnchor (wellFormed : space.WellFormed) (name : String)
    (recordedFaithful : space.DerivesFaithfully)
    (described : (space.parseAt text address none).value = .ok array) :
    (space.writeAnchor name (.array array)).outcome = .ok (.array array) ∧
      Placed space array (space.writeAnchor name (.array array)).space := by
  have faithful : (Region.array array).DerivesFaithfully := by
    rintro _ anchor ⟨⟩ _
    exact (parseAt_eq_ok described).1
  obtain ⟨outcome, anchored, -⟩ :=
    wellFormed.writeAnchor_anchored name recordedFaithful faithful
  have asGiven := wellFormed.inheriting_of_parseAt described
  have retained := retains_writeAnchor space name (.array array)
  have written := wellFormed.writeAnchor name (.array array)
  rw [asGiven] at outcome
  exact ⟨outcome, anchored.placed wellFormed retained written asGiven⟩

/-- In a reachable space whose arrays state what they are, a schema text that is read
describes an array at every address, and it describes the same array there once that
has been recorded, under any name or without one. Writing the anchor succeeds, and the
array is recorded as it was described. -/
theorem Reachable.parseAt_stable_when_recorded (reachable : Reachable anyOperation space)
    (recordedFaithful : ∀ address array, space.regionAt address = some (.array array) →
      array.Faithful)
    (accepted : Schema.read text = .ok schema) (address : Int) (name : String) :
    ∃ array, (space.parseAt text address none).value = .ok array ∧
      ((space.writeAnchor name (.array array)).outcome = .ok (.array array) ∧
        ((space.writeAnchor name (.array array)).space.parseAt text address none).value =
          .ok array) ∧
      ((space.observe (.array array)).parseAt text address none).value = .ok array := by
  have wellFormed := reachable.wellFormed
  have stated : space.DerivesFaithfully := by
    rintro address _ found array anchor rfl _
    exact recordedFaithful address array found
  obtain ⟨array, described⟩ := wellFormed.exists_parseAt accepted address none
  have observed := wellFormed.placed_observe (wellFormed.inheriting_of_parseAt described)
  obtain ⟨outcome, written⟩ := wellFormed.placed_writeAnchor name stated described
  refine ⟨array, described, ⟨outcome, ?_⟩, ?_⟩
  · exact written.parseAt_eq wellFormed described
  · exact observed.parseAt_eq wellFormed described

/-- What is recorded where an array follows the one under "a". -/
theorem regionAt_following_eq (address : Int) :
    following.regionAt address =
      if 0x200 = address then some (.array (fieldArray 0x200 (.derivedFromAnchor "a") 2))
      else if 0x100 = address then some (.array (fieldArray 0x100 (.fixed 2) 2))
      else none := by
  have regions : following.regions =
      ((RegionTable.put {} (.array (fieldArray 0x200 (.derivedFromAnchor "a") 0))).put
        (.array (fieldArray 0x100 (.fixed 2) 2))).put
          (.array (fieldArray 0x200 (.derivedFromAnchor "a") 2)) := by
    cbv
  simp only [Space.regionAt, regions, RegionTable.get?_put, RegionTable.get?_empty,
    Region.start, fieldArray]
  split
  · rfl
  · rfl

/-- An array at 0x300 that follows "a" has two elements there, also once it is under "a"
itself and so follows no array but itself. -/
theorem parseAt_following_itself :
    ∃ schema, Reachable anyOperation following ∧
      (∀ address array, following.regionAt address = some (.array array) → array.Faithful) ∧
      Schema.read "[n\"\"4]a" = .ok schema ∧
      ((following.writeAnchor "a"
          (.array (fieldArray 0x300 (.derivedFromAnchor "a") 2))).space.parseAt
        "[n\"\"4]a" 0x300 none).value = .ok (fieldArray 0x300 (.derivedFromAnchor "a") 2) := by
  have reachable : Reachable anyOperation following :=
    .step (.step (.initial #[] .ascii {}) trivial) trivial
  have recordedFaithful : ∀ address array, following.regionAt address = some (.array array) →
      array.Faithful := by
    intro address array found
    rw [regionAt_following_eq] at found
    split at found
    · cases found
      exact (faithful_fieldArray _ _).1
    · split at found
      · cases found
        exact (faithful_fieldArray _ _).2.2
      · cases found
  obtain ⟨schema, accepted, -⟩ := (faithful_fieldArray 0x300 2).1
  obtain ⟨array, described, ⟨-, again⟩, -⟩ :=
    reachable.parseAt_stable_when_recorded recordedFaithful accepted 0x300 "a"
  have first : (following.parseAt "[n\"\"4]a" 0x300 none).value =
      .ok (fieldArray 0x300 (.derivedFromAnchor "a") 2) := by
    cbv
  rw [show (fieldArray 0x300 (.derivedFromAnchor "a") 2).schemaText = "[n\"\"4]a" from rfl]
    at described again accepted
  cases described.symm.trans first
  exact ⟨schema, reachable, recordedFaithful, accepted, again⟩

end ImageAtlas.Space
