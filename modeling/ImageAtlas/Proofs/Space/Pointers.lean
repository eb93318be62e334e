import ImageAtlas.Proofs.AddressSet
import ImageAtlas.Proofs.Space.DerivedCounts
import ImageAtlas.Proofs.Space.Neighbours

/-!
# Adding pointers

What pointers do to one address: it may be the source of one, and others may lead
to it. `pointed` says what is recorded there then. Doing this twice is doing it
once with both (`pointed_pointed`), so that the order in which pointers are added
does not matter, nor how often each is. `WellFormed.regionAt_addPointers` is the
effect of any number of pointers by induction on them.

The order in which new regions are gone through is not the same, though: a table
remembers in which order their starts came.
-/

namespace ImageAtlas

open Space in
/-- What is recorded at an address where `recorded` was, when it is the source of a
pointer or not, and pointers from some addresses lead to it. -/
def pointed (address : Int) (recorded : Option Region) (isSource : Bool)
    (incoming : AddressSet) : Option Region :=
  match recorded with
  | some (.array array) =>
      some (.array (array.withBackReferences (array.backReferences ∪ incoming)))
  | some (.known known) =>
      let backReferences := known.backReferences ∪ incoming
      if isSource then
        some (.known { start := address, length := pointerSize, kind := .pointer, backReferences })
      else some (.known { known with backReferences })
  | none =>
      if isSource then
        some (.known
          { start := address, length := pointerSize, kind := .pointer, backReferences := incoming })
      else if incoming.isEmpty then none
      else some (.known { start := address, backReferences := incoming })

section Pointed

variable {address : Int} {recorded : Option Region} {isSource : Bool} {incoming : AddressSet}

/-- An address that no pointer is about is left alone. -/
@[simp] theorem pointed_nothing (address : Int) (recorded : Option Region) :
    pointed address recorded false ∅ = recorded := by
  match recorded with
  | some (.array array) => simp [pointed, ArrayRegion.withBackReferences]
  | some (.known known) => simp [pointed]
  | none => rfl

/-- Pointers that come later add to those that came before. -/
theorem pointed_pointed (later : Bool) (further : AddressSet) :
    pointed address (pointed address recorded isSource incoming) later further =
      pointed address recorded (isSource || later) (incoming ∪ further) := by
  match recorded with
  | some (.array array) =>
      simp [pointed, ArrayRegion.withBackReferences, AddressSet.union_assoc]
  | some (.known known) =>
      cases isSource <;> cases later <;> simp [pointed, AddressSet.union_assoc]
  | none =>
      cases isSource with
      | true => cases later <;> simp [pointed]
      | false =>
          -- Where nothing was recorded, something is once a pointer leads there.
          by_cases empty : incoming.isEmpty = true
          · obtain rfl := AddressSet.eq_empty_of_isEmpty empty
            rw [AddressSet.empty_union]
            rfl
          · cases later <;> simp [pointed, empty, AddressSet.isEmpty_union]

/-- No back-reference is dropped where pointers are added. -/
theorem mem_backReferences_pointed {source : Int} {region : Region}
    (member : source ∈ region.backReferences) :
    ∃ later, pointed address (some region) isSource incoming = some later ∧
      source ∈ later.backReferences := by
  cases region with
  | array array => exact ⟨_, rfl, AddressSet.mem_union.2 (.inl member)⟩
  | known known =>
      have kept : source ∈ known.backReferences ∪ incoming := AddressSet.mem_union.2 (.inl member)
      cases isSource
      · exact ⟨_, rfl, kept⟩
      · exact ⟨_, rfl, kept⟩

/-- Where pointers leave an array there was one, with other back-references perhaps. -/
theorem exists_array_of_pointed {array : ArrayRegion}
    (found : pointed address recorded isSource incoming = some (.array array)) :
    ∃ backReferences given, recorded = some (.array given) ∧
      array = given.withBackReferences backReferences := by
  match recorded with
  | some (.array given) =>
      cases found
      exact ⟨_, given, rfl, rfl⟩
  | some (.known known) => cases isSource <;> cases found
  | none =>
      simp only [pointed] at found
      split at found
      · cases found
      · split at found <;> cases found

end Pointed

namespace Space

variable {space after : Space} {sources : List Int} {address : Int}

/-- A region without back-references takes over those of what was recorded. -/
theorem inheriting_bare (space : Space) {known : KnownRegion}
    (bare : known.backReferences = ∅) :
    space.inheriting (.known known) = .known
      { known with
        backReferences := ((space.regionAt known.start).map Region.backReferences).getD ∅ } := by
  have unchanged : known = { known with backReferences := ∅ } := by rw [← bare]
  have isBare : (Region.known known).backReferences.isEmpty = true :=
    congrArg AddressSet.isEmpty bare
  simp only [inheriting, isBare, Bool.and_true, Bool.not_eq_true', Region.start]
  cases space.regionAt known.start with
  | none => exact congrArg Region.known unchanged
  | some existing =>
      dsimp only
      split
      · rfl
      · rename_i empty
        have none := AddressSet.eq_empty_of_isEmpty (Bool.not_eq_false _ ▸ empty)
        rw [Option.map_some, none]
        exact congrArg Region.known unchanged

/-- What is recorded when the source of a pointer has been marked. -/
theorem regionAt_markPointer (space : Space) (source address : Int) :
    (space.markPointer source).regionAt address =
      pointed address (space.regionAt address) (decide (source = address)) ∅ := by
  rw [markPointer]
  by_cases here : source = address
  · subst here
    split
    · rename_i array found
      simp [found, pointed, ArrayRegion.withBackReferences]
    · rename_i noArray
      rw [regionAt_observe, inheriting_bare space rfl]
      simp only [Region.start, if_true, decide_true]
      cases found : space.regionAt source with
      | none => rfl
      | some region =>
          cases region with
          | array array => exact absurd found (noArray array)
          | known known => simp [pointed, Region.backReferences]
  · simp only [here, decide_false, pointed_nothing]
    split
    · rfl
    · rw [regionAt_observe]
      exact if_neg here

/-- What is recorded when a pointer has been found to lead somewhere. -/
theorem WellFormed.regionAt_addBackReference (wellFormed : space.WellFormed)
    (source destination address : Int) :
    (space.addBackReference source destination).regionAt address =
      pointed address (space.regionAt address) false
        (if destination = address then AddressSet.empty.insert source else ∅) := by
  rw [addBackReference]
  by_cases here : destination = address
  · subst here
    rw [if_pos rfl]
    split
    · rename_i absent
      have single : (AddressSet.empty.insert source).isEmpty = false := by
        refine Bool.eq_false_iff.2 fun empty => ?_
        exact AddressSet.isEmpty_iff.1 empty source (AddressSet.mem_insert.2 (.inl rfl))
      rw [absent, regionAt_observe]
      simp only [pointed, inheriting, Region.start, absent, single, if_true, Bool.false_eq_true,
        if_false]
    · rename_i existing found
      rw [found, regionAt_store, Region.start_withBackReferences, wellFormed.start_eq found,
        if_pos rfl, AddressSet.insert_eq_union]
      cases existing <;> rfl
  · rw [if_neg here, pointed_nothing]
    split
    · rw [regionAt_observe]
      exact if_neg here
    · rename_i existing found
      rw [regionAt_store, Region.start_withBackReferences, wellFormed.start_eq found, if_neg here]

/-- What is recorded when a pointer has been registered at both its ends. -/
theorem WellFormed.regionAt_registerPointer (wellFormed : space.WellFormed)
    (source destination address : Int) :
    (space.registerPointer source destination).regionAt address =
      pointed address (space.regionAt address) (decide (source = address))
        (if destination = address then AddressSet.empty.insert source else ∅) := by
  rw [Space.registerPointer, (wellFormed.markPointer source).regionAt_addBackReference,
    regionAt_markPointer, pointed_pointed, Bool.or_false, AddressSet.empty_union]

/-- Whether an address is one of some sources and a pointer is there. -/
def isSource (space : Space) (sources : List Int) (address : Int) : Bool :=
  decide (address ∈ sources) && (space.readPointer address).isSome

/-- Those of some sources from which a pointer leads to an address. -/
def leadingTo (space : Space) (sources : List Int) (address : Int) : AddressSet :=
  .ofList (sources.filter fun source => space.readPointer source = some address)

/-- Adds the pointers at some sources, one after the other. -/
def addPointers (space : Space) (sources : List Int) : Space :=
  sources.foldl (fun reached source => (reached.addPointer source).1) space

/-- Pointers are read from what every operation retains. -/
theorem Retains.readPointer_eq (retained : Retains space after) :
    after.readPointer = space.readPointer := by
  funext address
  simp only [readPointer, retained.image, retained.pointers]

/-- Adding a pointer loses nothing. -/
theorem retains_addPointer (space : Space) (source : Int) :
    Retains space (space.addPointer source).1 :=
  retains_after space (.addPointer source)

/-- Adding pointers loses nothing. -/
theorem retains_addPointers (space : Space) (sources : List Int) :
    Retains space (space.addPointers sources) := by
  induction sources generalizing space with
  | nil => exact .refl space
  | cons first rest inductionHypothesis =>
      exact (retains_addPointer space first).trans (inductionHypothesis _)

/-- Pointers at some sources and then at others are added one after the other. -/
theorem addPointers_append (space : Space) (sources others : List Int) :
    space.addPointers (sources ++ others) = (space.addPointers sources).addPointers others :=
  List.foldl_append

/-- What is recorded when one pointer has been added. -/
theorem WellFormed.regionAt_addPointer (wellFormed : space.WellFormed) (source address : Int) :
    (space.addPointer source).1.regionAt address =
      pointed address (space.regionAt address) (space.isSource [source] address)
        (space.leadingTo [source] address) := by
  rw [addPointer]
  cases read : space.readPointer source with
  | none =>
      have unmarked : space.isSource [source] address = false := by
        by_cases here : address = source <;> simp [isSource, here, read]
      have unreferenced : space.leadingTo [source] address = ∅ := by
        simp [leadingTo, read, AddressSet.ofList]
      rw [unmarked, unreferenced, pointed_nothing]
  | some destination =>
      have marked : space.isSource [source] address = decide (source = address) := by
        by_cases here : address = source
        · simp [isSource, here, read]
        · simp [isSource, here, Ne.symm here]
      have referenced : space.leadingTo [source] address =
          if destination = address then AddressSet.empty.insert source else ∅ := by
        split <;> simp_all [leadingTo, AddressSet.ofList]
      rw [marked, referenced]
      exact wellFormed.regionAt_registerPointer source destination address

/-- What is recorded when the pointers at some sources have been added. -/
theorem WellFormed.regionAt_addPointers (wellFormed : space.WellFormed) (sources : List Int)
    (address : Int) :
    (space.addPointers sources).regionAt address =
      pointed address (space.regionAt address) (space.isSource sources address)
        (space.leadingTo sources address) := by
  induction sources generalizing space with
  | nil =>
      have none : space.leadingTo [] address = ∅ := rfl
      rw [none]
      simp [isSource, addPointers]
  | cons first rest inductionHypothesis =>
      have added := wellFormed.after (.addPointer first)
      have read := (retains_addPointer space first).readPointer_eq
      have isSource_cons : space.isSource (first :: rest) address =
          (space.isSource [first] address || space.isSource rest address) := by
        simp [isSource, Bool.and_or_distrib_right]
      have leadingTo_cons : space.leadingTo (first :: rest) address =
          space.leadingTo [first] address ∪ space.leadingTo rest address := by
        ext source
        simp [leadingTo, or_and_right]
      rw [isSource_cons, leadingTo_cons, ← pointed_pointed, ← wellFormed.regionAt_addPointer]
      have further := inductionHypothesis added
      simp only [isSource, leadingTo, Space.after, read] at further
      exact further

/-- Adding pointers leads no name elsewhere. -/
theorem WellFormed.anchors_addPointers (wellFormed : space.WellFormed) (sources : List Int) :
    (space.addPointers sources).anchors = space.anchors := by
  induction sources generalizing space with
  | nil => rfl
  | cons first rest inductionHypothesis =>
      have kept : (space.addPointer first).1.anchors = space.anchors := by
        rw [addPointer]
        split
        · rfl
        · exact (keepsArrays_registerPointer wellFormed _ _).anchors
      exact (inductionHypothesis (wellFormed.after (.addPointer first))).trans kept

/-- Adding pointers keeps a space well formed. -/
theorem WellFormed.addPointers (wellFormed : space.WellFormed) (sources : List Int) :
    (space.addPointers sources).WellFormed := by
  induction sources generalizing space with
  | nil => exact wellFormed
  | cons first rest inductionHypothesis =>
      exact inductionHypothesis (wellFormed.after (.addPointer first))

/-- A well-formed space that has the back-references of another one, and perhaps more. -/
structure KeepsReferences (space after : Space) : Prop where
  wellFormed : after.WellFormed
  kept : ∀ {address reference}, reference ∈ space.backReferencesAt address →
    reference ∈ after.backReferencesAt address

/-- Where a pointer is registered no back-reference is dropped. -/
theorem KeepsReferences.registerPointer (keeps : KeepsReferences space after)
    (source destination : Int) :
    KeepsReferences space (after.registerPointer source destination) where
  wellFormed := keeps.wellFormed.registerPointer source destination
  kept := by
    intro address reference before
    have member := keeps.kept before
    rw [keeps.wellFormed.backReferencesAt_eq] at member
    rw [(keeps.wellFormed.registerPointer source destination).backReferencesAt_eq,
      keeps.wellFormed.regionAt_registerPointer]
    cases found : after.regionAt address with
    | none =>
        rw [found] at member
        exact absurd member AddressSet.not_mem_empty
    | some region =>
        rw [found] at member
        obtain ⟨later, present, still⟩ := mem_backReferences_pointed member
        rw [present]
        exact still

/-- What a space has become when the pointers at some sources have been added. -/
structure PointersAdded (space : Space) (sources : List Int) (after : Space) : Prop where
  /-- An array stays and is referred to by the pointers that lead to it as well. -/
  array : ∀ {address array}, space.regionAt address = some (.array array) →
    after.regionAt address = some (.array
      (array.withBackReferences (array.backReferences ∪ space.leadingTo sources address)))
  /-- Another source of a pointer holds a pointer, with the back-references that were
  there and those that are new. -/
  source : ∀ {address}, (∀ array, space.regionAt address ≠ some (.array array)) →
    space.isSource sources address = true →
      after.regionAt address = some (.known
        { start := address, length := 4, kind := .pointer
          backReferences :=
            space.backReferencesAt address ∪ space.leadingTo sources address })
  /-- Any other region stays and is referred to by the pointers that lead to it as well. -/
  destination : ∀ {address region}, space.regionAt address = some region →
    space.isSource sources address = false →
      after.regionAt address = some
        (region.withBackReferences (region.backReferences ∪ space.leadingTo sources address))
  /-- Where nothing was recorded, something is when a pointer leads there. -/
  discovered : ∀ {address}, space.regionAt address = none →
    space.isSource sources address = false →
    (space.leadingTo sources address).isEmpty = false →
      after.regionAt address = some (.known
        { start := address, length := 1, kind := .noInfo
          backReferences := space.leadingTo sources address })
  /-- Nothing else changes. -/
  others : ∀ {address}, space.isSource sources address = false →
    (space.leadingTo sources address).isEmpty = true →
      after.regionAt address = space.regionAt address
  anchors : after.anchors = space.anchors

/-- Pointers are added as told. -/
theorem WellFormed.pointersAdded (wellFormed : space.WellFormed) (sources : List Int) :
    PointersAdded space sources (space.addPointers sources) where
  array := by
    intro address array found
    rw [wellFormed.regionAt_addPointers, found]
    rfl
  source := by
    intro address noArray marked
    rw [wellFormed.regionAt_addPointers, wellFormed.backReferencesAt_eq, marked]
    cases found : space.regionAt address with
    | none => simp [pointed, pointerSize]
    | some region =>
        cases region with
        | array array => exact absurd found (noArray array)
        | known known => rfl
  destination := by
    intro address region found unmarked
    rw [wellFormed.regionAt_addPointers, found, unmarked]
    cases region <;> rfl
  discovered := by
    intro address absent unmarked referenced
    rw [wellFormed.regionAt_addPointers, absent, unmarked]
    simp [pointed, referenced]
  others := by
    intro address unmarked unreferenced
    rw [wellFormed.regionAt_addPointers, unmarked,
      AddressSet.eq_empty_of_isEmpty unreferenced, pointed_nothing]
  anchors := wellFormed.anchors_addPointers sources

/-- In every reachable space, what is recorded when the pointers at some sources have
been added is told by the set of these sources, whatever their order and however often
each of them is given. No back-reference is dropped when a pointer is added or all are
discovered. -/
theorem Reachable.addPointers_by_set_of_sources (reachable : Reachable anyOperation space)
    (sources : List Int) :
    PointersAdded space sources (space.addPointers sources) ∧
    (∀ others : List Int, (∀ source, source ∈ others ↔ source ∈ sources) → ∀ address,
      (space.addPointers others).regionAt address =
        (space.addPointers sources).regionAt address) ∧
    ∀ address reference, reference ∈ space.backReferencesAt address →
      (∀ source, reference ∈ (space.after (.addPointer source)).backReferencesAt address) ∧
      reference ∈ (space.after .discoverPointers).backReferencesAt address := by
  have wellFormed := reachable.wellFormed
  refine ⟨wellFormed.pointersAdded sources, ?_, ?_⟩
  · intro others same address
    have marked : space.isSource others address = space.isSource sources address := by
      simp only [isSource, same]
    have referenced : space.leadingTo others address = space.leadingTo sources address := by
      ext source
      simp [leadingTo, same]
    rw [wellFormed.regionAt_addPointers, wellFormed.regionAt_addPointers, marked, referenced]
  · have keeps : KeepsReferences space space := ⟨wellFormed, fun member => member⟩
    intro address reference member
    constructor
    · intro source
      have added := addPointer_preserves
        (fun origin destination held => held.registerPointer origin destination) keeps source
      exact added.kept member
    · have discovered := discoverPointers_preserves
        (fun source destination held => held.registerPointer source destination) keeps
      exact discovered.kept member

/-- Three pointers: from 0 and from 4 to 4, and from 8 to 0. At 4 a text of eight bytes
is known, to which something at 99 leads. -/
def crossing : Space :=
  ({ image := #[4, 0, 0, 8, 4, 0, 0, 8, 0, 0, 0, 8] } : Space).after
    (.observe (.known
      { start := 4, length := 8, kind := .ascii, backReferences := AddressSet.empty.insert 99 }))

/-- The text, which is the source of a pointer and the destination of two, becomes a
pointer with three back-references. -/
theorem addPointers_crossing :
    Reachable anyOperation crossing ∧
      (crossing.addPointers [8, 4, 0, 4]).regionAt 4 = some (.known
        { start := 4, length := 4, kind := .pointer, backReferences := .ofList [0, 4, 99] }) ∧
      (crossing.addPointers [0, 4, 8]).regionAt 4 =
        (crossing.addPointers [8, 4, 0, 4]).regionAt 4 := by
  have reachable : Reachable anyOperation crossing := .step (.initial _ .ascii {}) trivial
  obtain ⟨added, ordered, -⟩ := reachable.addPointers_by_set_of_sources [8, 4, 0, 4]
  have found : crossing.regionAt 4 = some (.known
      { start := 4, length := 8, kind := .ascii
        backReferences := AddressSet.empty.insert 99 }) := by
    cbv
  have noArray : ∀ array, crossing.regionAt 4 ≠ some (.array array) := by
    simp [found]
  have isSource : crossing.isSource [8, 4, 0, 4] 4 = true := by
    cbv
  have marked := added.source noArray isSource
  refine ⟨reachable, ?_, ?_⟩
  · rw [marked]
    cbv
  · refine ordered [0, 4, 8] ?_ 4
    simp
    omega

end Space

end ImageAtlas
