import ImageAtlas.Proofs.Space.Anchoring

/-!
# Derived counts over whole runs

An array that derives its length from a name has, in every state of a disciplined
run, the count that its name gives there. The discipline is what the operations
cannot see for themselves: an array handed in with a derived length comes from
the space as it is, and a region is not put where another name leads.

The count could become stale in two ways only. Storing a region changes the count
under a name that leads to it; the discipline excludes that, except for the
written name. Writing an anchor passes on one count as far as it changes
something, and where it changed nothing the counts were right before.
-/

namespace ImageAtlas

/-- An array without its back-references; a known region has none. -/
def Region.bareArray? : Region → Option ArrayRegion
  | .array region => some (region.withBackReferences ∅)
  | .known _ => none

/-- The bare array has the count that its region passes on. -/
theorem Region.count_of_bareArray? {region : Region} {bare : ArrayRegion}
    (shape : region.bareArray? = some bare) : bare.count = region.carriedCount := by
  cases region with
  | known known => cases shape
  | array array =>
      cases shape
      rfl

namespace Space

variable {space after : Space} {name : String} {region : Region}

/-- The array recorded at an address, without its back-references. -/
def bareArrayAt (space : Space) (address : Int) : Option ArrayRegion :=
  (space.regionAt address).bind Region.bareArray?

/-- The bare arrays after a region was stored. -/
theorem bareArrayAt_store (space : Space) (region : Region) (address : Int) :
    (space.store region).bareArrayAt address =
      if region.start = address then region.bareArray? else space.bareArrayAt address := by
  rw [bareArrayAt, regionAt_store]
  split <;> rfl

/-- Taking over back-references does not change the bare array. -/
theorem bareArray?_inheriting (space : Space) (region : Region) :
    (space.inheriting region).bareArray? = region.bareArray? := by
  obtain ⟨backReferences, recorded⟩ := space.exists_inheriting_eq region
  rw [recorded]
  cases region <;> rfl

/-- The bare arrays after a region was observed. -/
theorem bareArrayAt_observe (space : Space) (region : Region) (address : Int) :
    (space.observe region).bareArrayAt address =
      if region.start = address then region.bareArray? else space.bareArrayAt address := by
  rw [bareArrayAt, regionAt_observe]
  split
  · exact bareArray?_inheriting space region
  · rfl

/-- A recorded array has a bare form. -/
theorem bareArrayAt_of_array {address : Int} {array : ArrayRegion}
    (found : space.regionAt address = some (.array array)) :
    space.bareArrayAt address = some (array.withBackReferences ∅) := by
  rw [bareArrayAt, found]
  rfl

/-- The count at an address is that of the bare array. -/
theorem countAt_eq_bareArrayAt (space : Space) (address : Int) :
    space.countAt address = ((space.bareArrayAt address).map ArrayRegion.count).getD 0 := by
  rw [countAt, bareArrayAt]
  cases space.regionAt address with
  | none => rfl
  | some region => cases region <;> rfl

/-- Every derived count is the count that its name gives. -/
structure DerivedCounts (space : Space) : Prop where
  wellFormed : space.WellFormed
  faithful : ∀ {address array anchor}, space.bareArrayAt address = some array →
    array.lengthRule = .derivedFromAnchor anchor → array.Faithful
  count_eq : ∀ {address array anchor}, space.bareArrayAt address = some array →
    array.lengthRule = .derivedFromAnchor anchor → array.count = space.countUnder anchor

/-- An array that may be handed in: its length does not derive from a name, or it
is what a schema text describes in this space, possibly at another address. -/
def Admissible (space : Space) (region : Region) : Prop :=
  ∀ array, region = .array array →
    (∀ anchor, array.lengthRule ≠ .derivedFromAnchor anchor) ∨
      ∃ text address backReferences placed,
        (space.parseAt text address backReferences).value = .ok placed ∧
          array = placed.relocate array.start

/-- The operations of a disciplined run. A region is observed where no name leads
and anchored where no other name leads. -/
inductive Disciplined (space : Space) : Operation → Prop where
  | observe {region : Region} (unbound : ∀ other, space.resolve other ≠ some region.start)
      (admissible : space.Admissible region) : Disciplined space (.observe region)
  | writeAnchor {name : String} {region : Region}
      (own : ∀ other, space.resolve other = some region.start → other = name)
      (admissible : space.Admissible region) : Disciplined space (.writeAnchor name region)
  | addPointer (source : Int) : Disciplined space (.addPointer source)
  | discoverPointers : Disciplined space .discoverPointers

/-- An array that is handed in with a derived length states what it is and has
the count that its name gives. -/
theorem Admissible.derived (admissible : space.Admissible region)
    (wellFormed : space.WellFormed) {bare : ArrayRegion} {anchor : String}
    (shape : region.bareArray? = some bare)
    (derived : bare.lengthRule = .derivedFromAnchor anchor) :
    bare.Faithful ∧ bare.count = space.countUnder anchor := by
  cases region with
  | known known => cases shape
  | array array =>
      cases shape
      rcases admissible array rfl with independent | ⟨_, address, _, placed, described, moved⟩
      · exact absurd derived (independent anchor)
      · obtain ⟨faithful, resolved⟩ := parseAt_eq_ok described
        have rule : placed.lengthRule = .derivedFromAnchor anchor := by
          rw [moved] at derived
          exact derived
        rw [rule, wellFormed.resolveLength_derived] at resolved
        have count : (space.countUnder anchor : Int) = placed.count := Except.ok.inj resolved
        rw [moved]
        exact ⟨faithful, (Int.ofNat.inj count).symm⟩

/-- The names lead where they led, and the arrays are the same but for their
back-references. -/
structure KeepsArrays (space after : Space) : Prop where
  anchors : after.anchors = space.anchors
  arrays : ∀ address, after.bareArrayAt address = space.bareArrayAt address

/-- Keeping arrays twice is keeping them. -/
theorem KeepsArrays.trans {last : Space} (first : KeepsArrays space after)
    (second : KeepsArrays after last) : KeepsArrays space last where
  anchors := second.anchors.trans first.anchors
  arrays address := (second.arrays address).trans (first.arrays address)

/-- Storing a region whose bare array is the one recorded keeps the arrays. -/
theorem keepsArrays_store (same : region.bareArray? = space.bareArrayAt region.start) :
    KeepsArrays space (space.store region) where
  anchors := rfl
  arrays := by
    intro address
    rw [bareArrayAt_store]
    split
    · rename_i here
      rw [← here]
      exact same
    · rfl

/-- Observing a region that is no array, where no array is, keeps the arrays. -/
theorem keepsArrays_observe_known (known : KnownRegion)
    (absent : space.bareArrayAt known.start = none) :
    KeepsArrays space (space.observe (.known known)) := by
  refine ⟨anchors_observe space _, ?_⟩
  intro address
  rw [bareArrayAt_observe]
  split
  · rename_i here
    rw [← here]
    exact absent.symm
  · rfl

/-- Marking a pointer keeps the arrays. -/
theorem keepsArrays_markPointer (space : Space) (source : Int) :
    KeepsArrays space (space.markPointer source) := by
  rw [markPointer]
  split
  · exact ⟨rfl, fun _ => rfl⟩
  · rename_i noArray
    refine keepsArrays_observe_known _ ?_
    change space.bareArrayAt source = none
    rw [bareArrayAt]
    cases found : space.regionAt source with
    | none => rfl
    | some recorded =>
        cases recorded with
        | known known => rfl
        | array array => exact absurd found (noArray array)

/-- Adding a back-reference keeps the arrays. -/
theorem keepsArrays_addBackReference (wellFormed : space.WellFormed)
    (source destination : Int) :
    KeepsArrays space (space.addBackReference source destination) := by
  rw [addBackReference]
  split
  · rename_i absent
    refine keepsArrays_observe_known _ ?_
    change space.bareArrayAt destination = none
    rw [bareArrayAt, absent]
    rfl
  · rename_i existing found
    refine keepsArrays_store ?_
    rw [Region.start_withBackReferences, wellFormed.start_eq found, bareArrayAt, found]
    cases existing <;> rfl

/-- Registering a pointer keeps the arrays. -/
theorem keepsArrays_registerPointer (wellFormed : space.WellFormed)
    (source destination : Int) :
    KeepsArrays space (space.registerPointer source destination) := by
  have marked := keepsArrays_markPointer space source
  exact marked.trans
    (keepsArrays_addBackReference (wellFormed.markPointer source) source destination)

namespace DerivedCounts

/-- What keeps the arrays keeps derived counts right. -/
theorem keepsArrays (counts : space.DerivedCounts) (kept : KeepsArrays space after)
    (wellFormed : after.WellFormed) : after.DerivedCounts where
  wellFormed := wellFormed
  faithful := by
    intro address array anchor found derived
    rw [kept.arrays] at found
    exact counts.faithful found derived
  count_eq := by
    intro address array anchor found derived
    rw [kept.arrays] at found
    have leads : after.resolve anchor = space.resolve anchor := by
      rw [Space.resolve, Space.resolve, kept.anchors]
    rw [counts.count_eq found derived, countUnder, countUnder, leads]
    split
    · rw [countAt_eq_bareArrayAt, countAt_eq_bareArrayAt, kept.arrays]
    · rfl

/-- Registering a pointer keeps derived counts right. -/
theorem registerPointer (counts : space.DerivedCounts) (source destination : Int) :
    (space.registerPointer source destination).DerivedCounts :=
  counts.keepsArrays (keepsArrays_registerPointer counts.wellFormed source destination)
    (counts.wellFormed.registerPointer source destination)

/-- Observing a region where no name leads keeps derived counts right. -/
theorem observe (counts : space.DerivedCounts)
    (unbound : ∀ other, space.resolve other ≠ some region.start)
    (admissible : space.Admissible region) : (space.observe region).DerivedCounts := by
  -- No count under a name changes, because no name leads to the region.
  have countUnder_eq (anchor : String) :
      (space.observe region).countUnder anchor = space.countUnder anchor := by
    have leads := resolve_observe space region anchor
    rw [countUnder, countUnder, leads]
    split
    · rename_i address led
      have elsewhere : region.start ≠ address := by
        rintro rfl
        exact unbound anchor led
      rw [countAt_eq_bareArrayAt, countAt_eq_bareArrayAt, bareArrayAt_observe,
        if_neg elsewhere]
    · rfl
  refine ⟨counts.wellFormed.observe region, ?_, ?_⟩
  · intro address array anchor found derived
    rw [bareArrayAt_observe] at found
    split at found
    · exact (admissible.derived counts.wellFormed found derived).1
    · exact counts.faithful found derived
  · intro address array anchor found derived
    rw [countUnder_eq]
    rw [bareArrayAt_observe] at found
    split at found
    · exact (admissible.derived counts.wellFormed found derived).2
    · exact counts.count_eq found derived

end DerivedCounts

namespace Anchored

/-- An affected name gives the count that was passed on. -/
theorem countUnder_affected (anchored : Anchored space name region after) {other : String}
    (affected : Affected space name region other) :
    after.countUnder other = region.carriedCount := by
  cases affected with
  | written =>
      have leads : after.resolve name = some region.start :=
        (anchored.resolve name).trans (if_pos rfl)
      rw [countUnder_of_resolve leads, countAt_of_regionAt anchored.root,
        carriedCount_inheriting]
  | @onward array anchor other recorded elsewhere derived affected changed named =>
      have leads : after.resolve other = some array.start := by
        rw [anchored.resolve, ← resolve_bind]
        exact named
      have brought := anchored.followed recorded elsewhere derived affected
      rw [countUnder_of_resolve leads, countAt_of_regionAt brought]
      rfl

/-- A name that is not affected gives the count that it gave, if the region was
not put where it leads. -/
theorem countUnder_unaffected (anchored : Anchored space name region after)
    (wellFormed : space.WellFormed)
    (own : ∀ other, space.resolve other = some region.start → other = name) {other : String}
    (unaffected : ¬ Affected space name region other) :
    after.countUnder other = space.countUnder other := by
  have different : other ≠ name := by
    rintro rfl
    exact unaffected .written
  have leads : after.resolve other = space.resolve other :=
    (anchored.resolve other).trans (if_neg different)
  rw [countUnder, countUnder, leads]
  split
  · rename_i address led
    have elsewhere : address ≠ region.start := by
      rintro rfl
      exact different (own other led)
    rcases anchored.elsewhere wellFormed elsewhere with
      ⟨array, anchor, recorded, derived, affected, brought⟩ | ⟨_, same⟩
    · -- Had the count changed, the name would have been affected.
      have kept : array.count = region.carriedCount := by
        refine Decidable.byContradiction fun changed => unaffected ?_
        have start : array.start = address := wellFormed.start_eq recorded
        subst start
        refine .onward recorded elsewhere derived affected changed ?_
        rw [resolve_bind, if_neg different]
        exact led
      rw [countAt_of_regionAt brought, countAt_of_regionAt recorded]
      exact kept.symm
    · rw [countAt, countAt, same]
  · rfl

/-- Where a bare array comes from that is recorded when an anchor has been
written: it is that of the region, it was brought to its count, or it was kept. -/
inductive Origin (space : Space) (name : String) (region : Region) (address : Int) :
    ArrayRegion → Prop where
  | root {bare : ArrayRegion} (shape : region.bareArray? = some bare) :
      Origin space name region address bare
  | brought {bare : ArrayRegion} {anchor : String}
      (recorded : space.bareArrayAt address = some bare)
      (derived : bare.lengthRule = .derivedFromAnchor anchor)
      (affected : Affected space name region anchor) :
      Origin space name region address (bare.withCount region.carriedCount)
  | kept {bare : ArrayRegion} (recorded : space.bareArrayAt address = some bare)
      (unaffected : ∀ {anchor}, bare.lengthRule = .derivedFromAnchor anchor →
        ¬ Affected space name region anchor) :
      Origin space name region address bare

/-- Every bare array has such an origin. -/
theorem bareArrayAt_origin (anchored : Anchored space name region after)
    (wellFormed : space.WellFormed) {address : Int} {bare : ArrayRegion}
    (found : after.bareArrayAt address = some bare) :
    Origin space name region address bare := by
  by_cases root : address = region.start
  · subst root
    rw [bareArrayAt, anchored.root, Option.bind_some, bareArray?_inheriting] at found
    exact .root found
  · rcases anchored.elsewhere wellFormed root with
      ⟨array, anchor, recorded, derived, affected, brought⟩ | ⟨unaffected, same⟩
    · rw [bareArrayAt_of_array brought] at found
      cases found
      have before := bareArrayAt_of_array recorded
      exact .brought before derived affected
    · rw [bareArrayAt, same] at found
      refine .kept found ?_
      intro anchor derived
      cases recorded : space.regionAt address with
      | none => simp [recorded] at found
      | some old =>
          rw [recorded] at found
          cases old with
          | known known => cases found
          | array array =>
              cases found
              exact unaffected array anchor recorded derived

end Anchored

namespace DerivedCounts

/-- Anchoring a region where no other name leads keeps derived counts right. -/
theorem writeAnchor (counts : space.DerivedCounts)
    (own : ∀ other, space.resolve other = some region.start → other = name)
    (admissible : space.Admissible region) :
    (space.writeAnchor name region).space.DerivedCounts := by
  have recordedFaithful : space.DerivesFaithfully := by
    rintro address _ found array anchor rfl derived
    have stated : (array.withBackReferences ∅).Faithful :=
      counts.faithful (bareArrayAt_of_array found) derived
    exact stated
  have faithful : region.DerivesFaithfully := by
    rintro array anchor rfl derived
    have stated : (array.withBackReferences ∅).Faithful :=
      (admissible.derived counts.wellFormed rfl derived).1
    exact stated
  obtain ⟨-, anchored, -⟩ :=
    counts.wellFormed.writeAnchor_anchored name recordedFaithful faithful
  refine ⟨counts.wellFormed.writeAnchor name region, ?_, ?_⟩
  · intro address array anchor found derived
    cases anchored.bareArrayAt_origin counts.wellFormed found with
    | root shape => exact (admissible.derived counts.wellFormed shape derived).1
    | brought recorded derivedBefore _ =>
        exact (counts.faithful recorded derivedBefore).withCount _
    | kept recorded _ => exact counts.faithful recorded derived
  · intro address array anchor found derived
    cases anchored.bareArrayAt_origin counts.wellFormed found with
    | root shape =>
        -- The region itself came with the right count; that count is the one passed on.
        have given := (admissible.derived counts.wellFormed shape derived).2
        by_cases affected : Affected space name region anchor
        · rw [anchored.countUnder_affected affected]
          exact Region.count_of_bareArray? shape
        · rw [anchored.countUnder_unaffected counts.wellFormed own affected]
          exact given
    | brought recorded derivedBefore affected =>
        cases derivedBefore.symm.trans derived
        rw [anchored.countUnder_affected affected]
        rfl
    | kept recorded unaffected =>
        rw [anchored.countUnder_unaffected counts.wellFormed own (unaffected derived)]
        exact counts.count_eq recorded derived

/-- Derived counts are right where nothing is recorded. -/
theorem empty (image : Image) (codec : TextCodec) (pointers : PointerRules) :
    DerivedCounts { image, codec, pointers } where
  wellFormed := .empty image codec pointers
  faithful := by
    intro address array anchor found
    simp [bareArrayAt, regionAt] at found
  count_eq := by
    intro address array anchor found
    simp [bareArrayAt, regionAt] at found

/-- The operations of a disciplined run keep derived counts right. -/
theorem preserved (counts : space.DerivedCounts) {operation : Operation}
    (disciplined : Disciplined space operation) : (space.after operation).DerivedCounts := by
  cases disciplined with
  | observe unbound admissible => exact counts.observe unbound admissible
  | writeAnchor own admissible => exact counts.writeAnchor own admissible
  | addPointer source =>
      exact addPointer_preserves
        (fun source destination held => held.registerPointer source destination) counts source
  | discoverPointers =>
      exact discoverPointers_preserves
        (fun source destination held => held.registerPointer source destination) counts

/-- Derived counts are right in every state of a disciplined run. -/
theorem of_reachable (reachable : Reachable Disciplined space) : space.DerivedCounts :=
  reachable.invariant empty fun disciplined counts => counts.preserved disciplined

end DerivedCounts

/-- An array that follows "a" is recorded, and then one of two elements under "a". -/
def following : Space :=
  (({ image := #[] } : Space).after
    (.observe (.array (fieldArray 0x200 (.derivedFromAnchor "a") 0)))).after
      (.writeAnchor "a" (.array (fieldArray 0x100 (.fixed 2) 2)))

/-- What is recorded for that array. -/
theorem regionAt_following :
    following.regionAt 0x200 =
      some (.array (fieldArray 0x200 (.derivedFromAnchor "a") 2)) := by
  cbv

/-- In every state of a disciplined run, an array that derives its length from a
name has the number of elements that its length resolves to there: the count of
the array to which the name leads, or zero if it leads to none. -/
theorem Reachable.count_eq_resolved (reachable : Reachable Disciplined space)
    {address : Int} {array : ArrayRegion} {anchor : String}
    (found : space.regionAt address = some (.array array))
    (derived : array.lengthRule = .derivedFromAnchor anchor) :
    (space.resolveLength array.lengthRule array.layout array.start).value =
        .ok (array.count : Int) ∧
      array.count = space.countUnder anchor := by
  have counts := DerivedCounts.of_reachable reachable
  have right : (array.withBackReferences ∅).count = space.countUnder anchor :=
    counts.count_eq (bareArrayAt_of_array found) derived
  refine ⟨?_, right⟩
  rw [derived, counts.wellFormed.resolveLength_derived, ← right]
  rfl

/-- In that run, the array has the two elements that its length resolves to. -/
theorem Reachable.count_eq_resolved_following :
    Reachable Disciplined following ∧
      following.regionAt 0x200 =
        some (.array (fieldArray 0x200 (.derivedFromAnchor "a") 2)) ∧
      (following.resolveLength (.derivedFromAnchor "a")
        [⟨"n", .delimitedText, 4⟩] 0x200).value = .ok 2 ∧
      following.countUnder "a" = 2 := by
  have observed : Disciplined { image := #[] }
      (.observe (.array (fieldArray 0x200 (.derivedFromAnchor "a") 0))) := by
    refine .observe (fun other leads => by cases leads) ?_
    intro array shape
    cases shape
    exact .inr ⟨"[n\"\"4]a", 0x200, some ∅, fieldArray 0x200 (.derivedFromAnchor "a") 0,
      by cbv, rfl⟩
  have anchored : Disciplined
      (({ image := #[] } : Space).after
        (.observe (.array (fieldArray 0x200 (.derivedFromAnchor "a") 0))))
      (.writeAnchor "a" (.array (fieldArray 0x100 (.fixed 2) 2))) := by
    refine .writeAnchor (fun other leads => by cases leads) ?_
    intro array shape
    cases shape
    exact .inl fun anchor derived => by cases derived
  have reachable : Reachable Disciplined following :=
    .step (.step (.initial #[] .ascii {}) observed) anchored
  obtain ⟨resolved, count⟩ := reachable.count_eq_resolved regionAt_following rfl
  exact ⟨reachable, regionAt_following, resolved, count.symm⟩

end Space

end ImageAtlas
