import ImageAtlas.Proofs.Space.DerivedCounts
import ImageAtlas.Proofs.Space.Search

/-!
# Several names for one array

Any number of names may lead to one array. When an array of fixed length is
written under one of them, the arrays that derive their length from that very name
take over its count. Those that derive it from another name for the same array
are left as they were, although the count under their name is a new one: the
written name alone is taken up first.

The runs here are those in which every array that is handed in comes from a schema
text or from a search, or is a copy of such an array. Then every recorded array
that derives its length states what it is, so that writing an anchor succeeds.
-/

namespace ImageAtlas

/-- Arrays that a schema text describes or that a search finds, in any space, and
copies of such arrays. -/
inductive ArrayRegion.Produced : ArrayRegion → Prop where
  | placed {space : Space} {text : String} {address : Int} {backReferences : Option AddressSet}
      {array : ArrayRegion}
      (described : (space.parseAt text address backReferences).value = .ok array) :
      Produced array
  | found {space : Space} {text : String} {report : SearchReport} {array : ArrayRegion}
      (searched : (space.search text).value = .ok report) (hit : report.hit = some array) :
      Produced array
  | extended {array longer : ArrayRegion} {more : Int} (produced : Produced array)
      (lengthened : array.extend more = .ok longer) : Produced longer
  | relocated {array : ArrayRegion} (produced : Produced array) (start : Int) :
      Produced (array.relocate start)
  | referenced {array : ArrayRegion} (produced : Produced array)
      (backReferences : AddressSet) : Produced (array.withBackReferences backReferences)

/-- An array with further elements differs in the count alone. -/
theorem ArrayRegion.eq_withCount_of_extend {array longer : ArrayRegion} {more : Int}
    (lengthened : array.extend more = .ok longer) : longer = array.withCount longer.count := by
  rw [extend] at lengthened
  split at lengthened
  · cases lengthened
  · cases lengthened
    rfl

namespace Space

variable {space after : Space} {name : String} {region : Region}

/-- What a search finds has a fixed length, in any space. -/
theorem lengthRule_of_search {text : String} {report : SearchReport} {hit : ArrayRegion}
    (searched : (space.search text).value = .ok report) (found : report.hit = some hit) :
    hit.lengthRule = .fixed hit.count := by
  rw [search] at searched
  split at searched
  · cases searched
    cases found
  · cases searched
  · split at searched
    · cases searched
    · split at searched
      · cases searched
        cases found
      · cases searched
        cases found
        rfl

/-- An array that comes from a text or a search states what it is if it derives its
length. -/
theorem derivesFaithfully_of_produced {array : ArrayRegion} (produced : array.Produced) :
    (Region.array array).DerivesFaithfully := by
  intro _ anchor shape derived
  cases shape
  induction produced with
  | placed described => exact (parseAt_eq_ok described).1
  | found searched hit =>
      rw [lengthRule_of_search searched hit] at derived
      cases derived
  | @extended array longer more _ lengthened inductionHypothesis =>
      rw [ArrayRegion.eq_withCount_of_extend lengthened] at derived ⊢
      have stated : array.Faithful := inductionHypothesis derived
      exact stated.withCount longer.count
  | relocated _ _ inductionHypothesis => exact inductionHypothesis derived
  | referenced _ _ inductionHypothesis => exact inductionHypothesis derived

/-- The operations of a run in which all arrays that are handed in come from texts
and searches. -/
inductive OfProduced (space : Space) : Operation → Prop where
  | observe {region : Region} (produced : ∀ array, region = .array array → array.Produced) :
      OfProduced space (.observe region)
  | writeAnchor {name : String} {region : Region}
      (produced : ∀ array, region = .array array → array.Produced) :
      OfProduced space (.writeAnchor name region)
  | addPointer (source : Int) : OfProduced space (.addPointer source)
  | discoverPointers : OfProduced space .discoverPointers

/-- A region that is handed in states what it is if it derives its length. -/
theorem derivesFaithfully_of_handed
    (produced : ∀ array, region = .array array → array.Produced) : region.DerivesFaithfully := by
  cases region with
  | known known =>
      intro array anchor shape
      cases shape
  | array array => exact derivesFaithfully_of_produced (produced array rfl)

/-- A well-formed space in which arrays that derive their length state what they
are. -/
structure Legible (space : Space) : Prop where
  wellFormed : space.WellFormed
  faithful : space.DerivesFaithfully

namespace Legible

/-- Where nothing is recorded, nothing is misstated. -/
theorem empty (image : Image) (codec : TextCodec) (pointers : PointerRules) :
    Legible { image, codec, pointers } where
  wellFormed := .empty image codec pointers
  faithful := by
    intro address recorded found
    cases found

/-- Observing a region that states what it is. -/
theorem observe (legible : space.Legible) (faithful : region.DerivesFaithfully) :
    (space.observe region).Legible where
  wellFormed := legible.wellFormed.observe region
  faithful := legible.faithful.observe faithful

/-- Registering a pointer changes no more of an array than its back-references. -/
theorem registerPointer (legible : space.Legible) (source destination : Int) :
    (space.registerPointer source destination).Legible where
  wellFormed := legible.wellFormed.registerPointer source destination
  faithful := by
    have kept := keepsArrays_registerPointer legible.wellFormed source destination
    rintro address _ found array anchor rfl derived
    have bare := bareArrayAt_of_array found
    rw [kept.arrays, bareArrayAt] at bare
    obtain ⟨recorded, before, shape⟩ := Option.bind_eq_some_iff.1 bare
    cases recorded with
    | known known => cases shape
    | array old =>
        have same := Option.some.inj shape
        have rule := congrArg ArrayRegion.lengthRule same
        have stated : old.Faithful := legible.faithful before rfl (rule.trans derived)
        have bareStated : (old.withBackReferences ∅).Faithful := stated
        rw [same] at bareStated
        exact bareStated

/-- Anchoring a region that states what it is. -/
theorem writeAnchor (legible : space.Legible) (name : String)
    (faithful : region.DerivesFaithfully) : (space.writeAnchor name region).space.Legible where
  wellFormed := legible.wellFormed.writeAnchor name region
  faithful := by
    obtain ⟨-, anchored, -⟩ :=
      legible.wellFormed.writeAnchor_anchored name legible.faithful faithful
    intro address recorded found
    by_cases root : address = region.start
    · rw [root, anchored.root] at found
      cases found
      exact derivesFaithfully_inheriting faithful
    · rcases anchored.elsewhere legible.wellFormed root with
        ⟨array, anchor, before, derived, -, brought⟩ | ⟨-, same⟩
      · rw [brought] at found
        cases found
        intro _ _ shape _
        cases shape
        have stated : array.Faithful := legible.faithful before rfl derived
        exact stated.withCount region.carriedCount
      · rw [same] at found
        exact legible.faithful found

/-- The operations of such a run keep what arrays state. -/
theorem preserved (legible : space.Legible) {operation : Operation}
    (allowed : OfProduced space operation) : (space.after operation).Legible := by
  cases allowed with
  | observe produced => exact legible.observe (derivesFaithfully_of_handed produced)
  | writeAnchor produced => exact legible.writeAnchor _ (derivesFaithfully_of_handed produced)
  | addPointer source =>
      exact addPointer_preserves
        (fun source destination held => held.registerPointer source destination) legible source
  | discoverPointers =>
      exact discoverPointers_preserves
        (fun source destination held => held.registerPointer source destination) legible

/-- In a run with arrays from texts and searches, every recorded array that derives
its length states what it is. -/
theorem of_reachable (reachable : Reachable OfProduced space) : space.Legible :=
  reachable.invariant empty fun allowed legible => legible.preserved allowed

end Legible

/-- An array of fixed length can be written under a name. -/
theorem Legible.writeAnchor_fixed (legible : space.Legible) (name : String)
    {array : ArrayRegion} {length : Int} (fixed : array.lengthRule = .fixed length) :
    (space.writeAnchor name (.array array)).outcome = .ok (space.inheriting (.array array)) ∧
      Anchored space name (.array array) (space.writeAnchor name (.array array)).space := by
  have faithful : (Region.array array).DerivesFaithfully := by
    intro _ anchor shape derived
    cases shape
    cases derived.symm.trans fixed
  obtain ⟨outcome, anchored, -⟩ :=
    legible.wellFormed.writeAnchor_anchored name legible.faithful faithful
  exact ⟨outcome, anchored⟩

/-- Of the names for the region, the written one alone is affected. -/
theorem Affected.eq_written {other : String} (affected : Affected space name region other)
    (leads : (space.bind name region.start).resolve other = some region.start) :
    other = name := by
  cases affected with
  | written => rfl
  | onward _ elsewhere _ _ _ named =>
      rw [leads] at named
      exact absurd (Option.some.inj named).symm elsewhere

/-- In every state of a run with arrays from texts and searches, an array of fixed
length can be written under a name. Of the arrays that then derive their length
from a name for it, those that derive it from the written name have its count, and
those that derive it from another name are left as they were. -/
theorem Reachable.writeAnchor_follows_written_name (reachable : Reachable OfProduced space)
    (name : String) {array : ArrayRegion} {length : Int}
    (fixed : array.lengthRule = .fixed length)
    (written : (space.writeAnchor name (.array array)).space = after) :
    (space.writeAnchor name (.array array)).outcome = .ok (space.inheriting (.array array)) ∧
    ∀ address dependent anchor, after.regionAt address = some (.array dependent) →
      dependent.lengthRule = .derivedFromAnchor anchor →
      after.resolve anchor = some array.start →
        (anchor = name → dependent.count = array.count) ∧
        (anchor ≠ name → space.resolve anchor = some array.start ∧
          space.regionAt address = some (.array dependent)) := by
  subst written
  have legible := Legible.of_reachable reachable
  obtain ⟨outcome, anchored⟩ := legible.writeAnchor_fixed name fixed
  refine ⟨outcome, ?_⟩
  intro address dependent anchor found derived leads
  -- The array itself has a fixed length, so what derives its length lies elsewhere.
  have elsewhere : address ≠ (Region.array array).start := by
    rintro rfl
    have bare := bareArray?_inheriting space (.array array)
    rw [anchored.root] at found
    rw [Option.some.inj found] at bare
    have rule := congrArg ArrayRegion.lengthRule (Option.some.inj bare)
    cases derived.symm.trans (rule.trans fixed)
  have bound : (space.bind name array.start).resolve anchor = some array.start := by
    rw [anchored.resolve] at leads
    rw [resolve_bind]
    exact leads
  rcases anchored.elsewhere legible.wellFormed elsewhere with
    ⟨before, other, recorded, derivedBefore, affected, brought⟩ | ⟨unaffected, same⟩
  · rw [brought] at found
    cases found
    cases derivedBefore.symm.trans derived
    -- Names are taken up for arrays that were changed; the array itself is not among them.
    have only := affected.eq_written bound
    exact ⟨fun _ => rfl, fun different => absurd only different⟩
  · rw [same] at found
    refine ⟨?_, ?_⟩
    · rintro rfl
      exact absurd .written (unaffected dependent anchor found derived)
    · intro different
      rw [resolve_bind, if_neg different] at bound
      exact ⟨bound, found⟩

/-- An array of two elements with the name "a". -/
def named : Space :=
  ({ image := #[] } : Space).after (.writeAnchor "a" (.array (fieldArray 0x100 (.fixed 2) 2)))

/-- That array with the name "b" as well, and one that follows "b". -/
def aliased : Space :=
  (named.after (.writeAnchor "b" (.array (fieldArray 0x100 (.fixed 2) 2)))).after
    (.observe (.array (fieldArray 0x200 (.derivedFromAnchor "b") 2)))

/-- The follower and the name it follows. -/
theorem regionAt_aliased :
    aliased.regionAt 0x200 = some (.array (fieldArray 0x200 (.derivedFromAnchor "b") 2)) ∧
      aliased.resolve "b" = some 0x100 := by
  constructor <;> cbv

/-- That space is reached with arrays from schema texts. -/
theorem reachable_aliased : Reachable OfProduced aliased := by
  have described : (({ image := #[] } : Space).parseAt "[n\"\"4]2" 0x100 none).value =
      .ok (fieldArray 0x100 (.fixed 2) 2) := by
    cbv
  have produced : ∀ array, Region.array (fieldArray 0x100 (.fixed 2) 2) = .array array →
      array.Produced := by
    intro array shape
    cases shape
    exact .placed described
  have once : Reachable OfProduced named := .step (.initial #[] .ascii {}) (.writeAnchor produced)
  have twice : Reachable OfProduced
      (named.after (.writeAnchor "b" (.array (fieldArray 0x100 (.fixed 2) 2)))) :=
    .step once (.writeAnchor produced)
  obtain ⟨-, anchored⟩ := (Legible.of_reachable once).writeAnchor_fixed "b"
    (show (fieldArray 0x100 (.fixed 2) 2).lengthRule = .fixed 2 from rfl)
  have count := anchored.countUnder_affected .written
  refine .step twice (.observe fun array shape => ?_)
  cases shape
  have followed := twice.wellFormed.parseAt_derived (faithful_fieldArray 0x200 2).2.1 rfl
  rw [after, count] at followed
  exact .placed followed

/-- When the array is given three elements under "b", the follower has three. -/
theorem writeAnchor_reaches_follower :
    Reachable OfProduced aliased ∧
      ∃ after dependent,
        (aliased.writeAnchor "b" (.array (fieldArray 0x100 (.fixed 3) 3))).space = after ∧
        after.regionAt 0x200 = some (.array dependent) ∧
        dependent.lengthRule = .derivedFromAnchor "b" ∧ after.resolve "b" = some 0x100 ∧
        dependent.count = 3 := by
  obtain ⟨found, leads⟩ := regionAt_aliased
  have fixed : (fieldArray 0x100 (.fixed 3) 3).lengthRule = .fixed 3 := rfl
  obtain ⟨-, anchored⟩ := (Legible.of_reachable reachable_aliased).writeAnchor_fixed "b" fixed
  have elsewhere : (fieldArray 0x200 (.derivedFromAnchor "b") 2).start ≠ 0x100 := by decide
  have brought := anchored.followed found elsewhere rfl .written
  have bound := (anchored.resolve "b").trans (if_pos rfl)
  obtain ⟨-, followed⟩ :=
    reachable_aliased.writeAnchor_follows_written_name "b" fixed rfl
  have three := (followed 0x200 _ "b" brought rfl bound).1 rfl
  exact ⟨reachable_aliased, _, _, rfl, brought, rfl, bound, three⟩

/-- When it is given three elements under "a", the follower of "b" keeps two, although
"b" leads to an array of three elements. -/
theorem writeAnchor_misses_follower_of_other_name :
    Reachable OfProduced aliased ∧ (fieldArray 0x100 (.fixed 3) 3).Produced ∧
      ∃ after dependent,
        (aliased.writeAnchor "a" (.array (fieldArray 0x100 (.fixed 3) 3))).space = after ∧
        after.regionAt 0x200 = some (.array dependent) ∧
        dependent.lengthRule = .derivedFromAnchor "b" ∧ after.resolve "b" = some 0x100 ∧
        dependent.count = 2 ∧ after.countUnder "b" = 3 := by
  have described : (aliased.parseAt "[n\"\"4]3" 0x100 none).value =
      .ok (fieldArray 0x100 (.fixed 3) 3) := by
    cbv
  obtain ⟨found, leads⟩ := regionAt_aliased
  have fixed : (fieldArray 0x100 (.fixed 3) 3).lengthRule = .fixed 3 := rfl
  obtain ⟨-, anchored⟩ := (Legible.of_reachable reachable_aliased).writeAnchor_fixed "a" fixed
  have bound : (aliased.writeAnchor "a" (.array (fieldArray 0x100 (.fixed 3) 3))).space.resolve
      "b" = some 0x100 :=
    (anchored.resolve "b").trans ((if_neg (by decide)).trans leads)
  have unaffected : ∀ {array anchor}, aliased.regionAt 0x200 = some (.array array) →
      array.lengthRule = .derivedFromAnchor anchor →
      ¬ Affected aliased "a" (.array (fieldArray 0x100 (.fixed 3) 3)) anchor := by
    intro array anchor recorded derived affected
    cases found.symm.trans recorded
    cases derived
    rw [anchored.resolve, ← resolve_bind] at bound
    exact absurd (affected.eq_written bound) (by decide)
  have kept := (anchored.others (by decide) unaffected).trans found
  have count := (countUnder_of_resolve bound).trans (countAt_of_regionAt anchored.root)
  rw [carriedCount_inheriting] at count
  exact ⟨reachable_aliased, .placed described, _, _, rfl, kept, rfl, bound, rfl, count⟩

end Space

end ImageAtlas
