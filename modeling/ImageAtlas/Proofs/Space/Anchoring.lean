import Mathlib
import ImageAtlas.Proofs.Space.Carrying

/-!
# What writing an anchor does

`Anchored` says exactly what writing an anchor leaves: the name leads to the
region, arrays that derive their length from an affected name have the count of
that region, and everything else is as it was. `writeAnchor_anchored` is the one
fact about writing an anchor from which the others follow. It asks only that
arrays which derive their lengths state what they are. In a reachable space
where all arrays do, `writeAnchor_passes_on_one_count` gives the whole effect.
-/

namespace ImageAtlas

namespace Space

open Pursuit

/-- What is left of a space when a region has been anchored under a name. -/
structure Anchored (space : Space) (name : String) (region : Region) (after : Space) : Prop where
  anchors : after.anchors = bindAnchor name region.start space.anchors
  root : after.regionAt region.start = some (space.inheriting region)
  followed : ∀ {array anchor}, space.regionAt array.start = some (.array array) →
    array.start ≠ region.start → array.lengthRule = .derivedFromAnchor anchor →
    Affected space name region anchor →
      after.regionAt array.start = some (.array (array.withCount region.carriedCount))
  others : ∀ {address}, address ≠ region.start →
    (∀ {array anchor}, space.regionAt address = some (.array array) →
      array.lengthRule = .derivedFromAnchor anchor → ¬ Affected space name region anchor) →
      after.regionAt address = space.regionAt address

variable {space after : Space} {name : String} {region : Region}

/-- When no tasks are left, the count has been passed on. -/
theorem anchored_of_carrying {current : Space} {untouched : List String}
    (carrying : Carrying space name region ⟨current, untouched, []⟩) :
    Anchored space name region current where
  anchors := carrying.anchors.trans (space.anchors_anchoring name region)
  root := by
    have recorded : (space.anchoring name region).regionAt region.start =
        some (space.inheriting region) := by
      rw [regionAt_anchoring, if_pos rfl]
    obtain ⟨new, present, brought⟩ := carrying.exists_present recorded
    have start := carrying.wellFormed.start_eq present
    generalize space.inheriting region = old at brought ⊢
    cases brought with
    | same => exact present
    | renewed elsewhere => exact absurd start elsewhere
  followed := by
    intro array anchor recorded elsewhere derived affected
    have before : (space.anchoring name region).regionAt array.start = some (.array array) := by
      rw [regionAt_anchoring, if_neg elsewhere.symm]
      exact recorded
    obtain ⟨new, present, brought⟩ := carrying.exists_present before
    have taken := carrying.takenUp_of_affected affected
    have reached : new.carriedCount = region.carriedCount := by
      rw [← countAt_of_regionAt present]
      rcases carrying.dependants taken before derived with done | ⟨_, due, _⟩
      · exact done
      · cases due
    rcases brought.of_array with rfl | rfl
    · have count : array.count = region.carriedCount := reached
      rw [← count]
      exact present
    · exact present
  others := by
    intro address elsewhere unaffected
    have before : (space.anchoring name region).regionAt address = space.regionAt address := by
      rw [regionAt_anchoring, if_neg elsewhere.symm]
    cases recorded : space.regionAt address with
    | none =>
        have known := carrying.kept address
        rw [before, recorded] at known
        simpa using known
    | some old =>
        rw [recorded] at before
        obtain ⟨new, present, brought⟩ := carrying.exists_present before
        cases brought with
        | same => exact present
        | renewed _ derived affected _ =>
            exact absurd affected (unaffected recorded derived)

/-- Writing an anchor succeeds and passes the count on, and its moves come to an
end without tasks. -/
theorem WellFormed.writeAnchor_anchored (wellFormed : space.WellFormed) (name : String)
    (recordedFaithful : space.DerivesFaithfully) (faithful : region.DerivesFaithfully) :
    (space.writeAnchor name region).outcome = .ok (space.inheriting region) ∧
      Anchored space name region (space.writeAnchor name region).space ∧
      ∃ names last, Steps (.ofAnchor space name region) names last ∧ last.tasks = [] ∧
        last.space = (space.writeAnchor name region).space := by
  obtain ⟨names, last, outcome, moves, reached, ended, result⟩ :=
    space.writeAnchor_reaches name region
  have stated : (space.anchoring name region).DerivesFaithfully :=
    recordedFaithful.anchoring faithful
  have carrying := moves.preserve (Carrying space name region) (Carrying.preserved stated)
    (Carrying.ofAnchor wellFormed)
  cases ended with
  | done =>
      rw [result]
      subst reached
      exact ⟨rfl, anchored_of_carrying carrying, names, _, moves, rfl, rfl⟩
  | fault dependent placed _ =>
      rw [carrying.parseAt_dependent stated List.mem_cons_self dependent] at placed
      cases placed

/-- Away from the region, an array that derives its length from an affected name
has the count of the region, and everything else is as it was. -/
theorem Anchored.elsewhere (anchored : Anchored space name region after)
    (wellFormed : space.WellFormed) {address : Int} (elsewhere : address ≠ region.start) :
    (∃ array anchor, space.regionAt address = some (.array array) ∧
      array.lengthRule = .derivedFromAnchor anchor ∧ Affected space name region anchor ∧
      after.regionAt address = some (.array (array.withCount region.carriedCount))) ∨
    ((∀ array anchor, space.regionAt address = some (.array array) →
      array.lengthRule = .derivedFromAnchor anchor → ¬ Affected space name region anchor) ∧
      after.regionAt address = space.regionAt address) := by
  by_cases follows : ∃ array anchor, space.regionAt address = some (.array array) ∧
      array.lengthRule = .derivedFromAnchor anchor ∧ Affected space name region anchor
  · obtain ⟨array, anchor, recorded, derived, affected⟩ := follows
    have start : array.start = address := wellFormed.start_eq recorded
    subst start
    have brought := anchored.followed recorded elsewhere derived affected
    exact .inl ⟨array, anchor, recorded, derived, affected, brought⟩
  · have unaffected : ∀ array anchor, space.regionAt address = some (.array array) →
        array.lengthRule = .derivedFromAnchor anchor → ¬ Affected space name region anchor :=
      fun array anchor recorded derived affected =>
        follows ⟨array, anchor, recorded, derived, affected⟩
    exact .inr ⟨unaffected, anchored.others elsewhere fun recorded => unaffected _ _ recorded⟩

/-- Writing an anchor adds the start of the region and takes no start away. -/
theorem Anchored.isSome_regionAt (anchored : Anchored space name region after)
    (wellFormed : space.WellFormed) (address : Int) :
    (after.regionAt address).isSome ↔
      address = region.start ∨ (space.regionAt address).isSome := by
  by_cases root : address = region.start
  · subst root
    simp [anchored.root]
  · rcases anchored.elsewhere wellFormed root with ⟨_, _, recorded, _, _, brought⟩ | ⟨_, same⟩
    · simp [recorded, brought]
    · simp [same, root]

/-- Where names lead when an anchor has been written and its count passed on. -/
theorem Anchored.resolve (anchored : Anchored space name region after) (other : String) :
    after.resolve other = if other = name then some region.start else space.resolve other := by
  rw [Space.resolve, anchored.anchors]
  exact find?_bindAnchor name other region.start space.anchors

/-- An array of fields of four bytes. Its schema text states the length rule. -/
def fieldArray (start : Int) (lengthRule : LengthRule) (count : Nat) : ArrayRegion where
  start
  schemaText := "[n\"\"4]" ++ lengthRule.suffix
  layout := [⟨"n", .delimitedText, 4⟩]
  lengthRule
  count
  layout_ne_nil := List.cons_ne_nil _ _

/-- The array at 0x200 is named "b" and follows "a", the one at 0x300 follows "b". -/
def chain : Space :=
  (({ image := #[] } : Space).after
    (.writeAnchor "b" (.array (fieldArray 0x200 (.derivedFromAnchor "a") 0)))).after
      (.observe (.array (fieldArray 0x300 (.derivedFromAnchor "b") 0)))

/-- The schema texts of such arrays are read as what they state. -/
theorem faithful_fieldArray (start : Int) (count : Nat) :
    (fieldArray start (.derivedFromAnchor "a") count).Faithful ∧
      (fieldArray start (.derivedFromAnchor "b") count).Faithful ∧
      (fieldArray start (.fixed 2) count).Faithful :=
  ⟨⟨⟨_, _, _, List.cons_ne_nil _ _⟩, by cbv, rfl, rfl⟩,
    ⟨⟨_, _, _, List.cons_ne_nil _ _⟩, by cbv, rfl, rfl⟩,
    ⟨⟨_, _, _, List.cons_ne_nil _ _⟩, by cbv, rfl, rfl⟩⟩

/-- What is recorded in the chain. -/
theorem regionAt_chain (address : Int) :
    chain.regionAt address =
      if 0x300 = address then some (.array (fieldArray 0x300 (.derivedFromAnchor "b") 0))
      else if 0x200 = address then some (.array (fieldArray 0x200 (.derivedFromAnchor "a") 0))
      else none := by
  have regions : chain.regions =
      (RegionTable.put {} (.array (fieldArray 0x200 (.derivedFromAnchor "a") 0))).put
        (.array (fieldArray 0x300 (.derivedFromAnchor "b") 0)) := by
    cbv
  rw [Space.regionAt, regions, RegionTable.get?_put, RegionTable.get?_put,
    RegionTable.get?_empty]
  rfl

/-- The whole effect of writing an anchor in a reachable space whose arrays state
what they are. Its moves come to an end, and none of them takes up a name for
the second time. Arrays that derive their length from an affected name have the
count of the region and are otherwise as they were; all other regions but the
one at its start are as they were. That start alone is added, and the written
name alone leads elsewhere. -/
theorem writeAnchor_passes_on_one_count (name : String) (region : Region)
    (reachable : Reachable anyOperation space)
    (recordedFaithful : ∀ address array, space.regionAt address = some (.array array) →
      array.Faithful)
    (faithful : ∀ array, region = .array array → array.Faithful)
    (written : (space.writeAnchor name region).space = after) :
    (∃ names last, Steps (.ofAnchor space name region) names last ∧ last.tasks = [] ∧
      last.space = after) ∧
    (∀ names last, Steps (.ofAnchor space name region) names last → (name :: names).Nodup) ∧
    (space.writeAnchor name region).outcome = .ok (space.inheriting region) ∧
    after.regionAt region.start = some (space.inheriting region) ∧
    (∀ array anchor, space.regionAt array.start = some (.array array) →
      array.start ≠ region.start → array.lengthRule = .derivedFromAnchor anchor →
      Affected space name region anchor →
        after.regionAt array.start = some (.array (array.withCount region.carriedCount))) ∧
    (∀ address, address ≠ region.start →
      (∀ array anchor, space.regionAt address = some (.array array) →
        array.lengthRule = .derivedFromAnchor anchor → ¬ Affected space name region anchor) →
        after.regionAt address = space.regionAt address) ∧
    (∀ address, (after.regionAt address).isSome ↔
      address = region.start ∨ (space.regionAt address).isSome) ∧
    after.anchors = bindAnchor name region.start space.anchors ∧
    (∀ other, after.resolve other =
      if other = name then some region.start else space.resolve other) := by
  subst written
  have wellFormed := reachable.wellFormed
  have stated : space.DerivesFaithfully := by
    intro address recorded found array anchor shape _
    subst shape
    exact recordedFaithful address array found
  have regionStated : region.DerivesFaithfully := fun array _ shape _ => faithful array shape
  obtain ⟨outcome, anchored, completes⟩ :=
    wellFormed.writeAnchor_anchored name stated regionStated
  refine ⟨completes, ?_, outcome, anchored.root, ?_, ?_, ?_, anchored.anchors, anchored.resolve⟩
  · intro names last moves
    exact moves.nodup_ofAnchor wellFormed
  · intro array anchor recorded elsewhere derived affected
    exact anchored.followed recorded elsewhere derived affected
  · intro address elsewhere unaffected
    exact anchored.others elsewhere fun recorded derived => unaffected _ _ recorded derived
  · intro address
    exact anchored.isSome_regionAt wellFormed address

/-- In the chain, an array of two elements under "a" gives both arrays two. -/
theorem writeAnchor_passes_two_on_along_chain :
    Reachable anyOperation chain ∧
      (∀ address array, chain.regionAt address = some (.array array) → array.Faithful) ∧
      (chain.writeAnchor "a" (.array (fieldArray 0x100 (.fixed 2) 2))).space.regionAt 0x300 =
        some (.array (fieldArray 0x300 (.derivedFromAnchor "b") 2)) := by
  have reachable : Reachable anyOperation chain :=
    .step (.step (.initial #[] .ascii {}) trivial) trivial
  have recordedFaithful : ∀ address array, chain.regionAt address = some (.array array) →
      array.Faithful := by
    intro address array found
    rw [regionAt_chain] at found
    split at found
    · cases found
      exact (faithful_fieldArray _ _).2.1
    · split at found
      · cases found
        exact (faithful_fieldArray _ _).1
      · cases found
  have affected : Affected chain "a" (.array (fieldArray 0x100 (.fixed 2) 2)) "b" := by
    have recorded : chain.regionAt (fieldArray 0x200 (.derivedFromAnchor "a") 0).start =
        some (.array (fieldArray 0x200 (.derivedFromAnchor "a") 0)) := by
      rw [regionAt_chain]
      rfl
    refine .onward recorded (by decide) rfl .written (by decide) ?_
    cbv
  have faithful : ∀ array, Region.array (fieldArray 0x100 (.fixed 2) 2) = .array array →
      array.Faithful := by
    intro array shape
    cases shape
    exact (faithful_fieldArray 0x100 2).2.2
  obtain ⟨-, -, -, -, followed, -⟩ :=
    writeAnchor_passes_on_one_count "a" _ reachable recordedFaithful faithful rfl
  have recorded : chain.regionAt 0x300 =
      some (.array (fieldArray 0x300 (.derivedFromAnchor "b") 0)) := by
    rw [regionAt_chain]
    rfl
  have brought := followed (fieldArray 0x300 (.derivedFromAnchor "b") 0) "b" recorded
    (by decide) rfl affected
  exact ⟨reachable, recordedFaithful, brought⟩

end Space

end ImageAtlas
