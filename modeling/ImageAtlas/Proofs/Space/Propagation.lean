import ImageAtlas.Proofs.Space.DerivedLength
import ImageAtlas.Proofs.Space.Reachability

/-!
# What passing on a count reaches

Writing an anchor passes one single count on. `Affected` is the least set of
names that this reaches: the written name, and every name of an array that
derives its length from such a name and had another count. `Brought` relates a
region to what became of it, which is the region itself or the array with that
count.
-/

namespace ImageAtlas

/-- If a region is an array that derives its length, it states what it is. -/
def Region.DerivesFaithfully (region : Region) : Prop :=
  ∀ ⦃array anchor⦄, region = .array array → array.lengthRule = .derivedFromAnchor anchor →
    array.Faithful

namespace Space

/-- The names that are taken up when a region is anchored under a name. -/
inductive Affected (space : Space) (name : String) (region : Region) : String → Prop where
  | written : Affected space name region name
  | onward {array : ArrayRegion} {anchor other : String}
      (recorded : space.regionAt array.start = some (.array array))
      (elsewhere : array.start ≠ region.start)
      (derived : array.lengthRule = .derivedFromAnchor anchor)
      (affected : Affected space name region anchor)
      (changed : array.count ≠ region.carriedCount)
      (named : (space.bind name region.start).resolve other = some array.start) :
      Affected space name region other

/-- A region is as it was, or it is an array that was brought to the count which
is passed on. -/
inductive Brought (space : Space) (name : String) (region : Region) :
    Region → Region → Prop where
  | same {old : Region} : Brought space name region old old
  | renewed {array : ArrayRegion} {anchor : String}
      (elsewhere : array.start ≠ region.start)
      (derived : array.lengthRule = .derivedFromAnchor anchor)
      (affected : Affected space name region anchor)
      (changed : array.count ≠ region.carriedCount) :
      Brought space name region (.array array) (.array (array.withCount region.carriedCount))

variable {space : Space} {name : String} {region : Region}

/-- Being brought to the count leaves a region where it was. -/
theorem Brought.start_eq {old new : Region} (brought : Brought space name region old new) :
    new.start = old.start := by
  cases brought <;> rfl

/-- A region that was brought from an array is that array up to its count. -/
theorem Brought.of_array {array : ArrayRegion} {new : Region}
    (brought : Brought space name region (.array array) new) :
    new = .array array ∨ new = .array (array.withCount region.carriedCount) := by
  cases brought with
  | same => exact .inl rfl
  | renewed => exact .inr rfl

/-- An array that was brought comes from one that differs in the count alone. -/
theorem Brought.to_array {old : Region} {array : ArrayRegion}
    (brought : Brought space name region old (.array array)) :
    ∃ before, old = .array before ∧ array = before.withCount array.count := by
  cases brought with
  | same => exact ⟨array, rfl, rfl⟩
  | renewed => exact ⟨_, rfl, rfl⟩

/-- An array with another count than the one passed on was not brought to it. -/
theorem Brought.eq_of_changed {old : Region} {array : ArrayRegion}
    (brought : Brought space name region old (.array array))
    (changed : array.count ≠ region.carriedCount) : old = .array array := by
  cases brought with
  | same => rfl
  | renewed => exact absurd rfl changed

/-- Once the count is the one passed on, it remains so. -/
theorem Brought.carriedCount_eq {old new : Region}
    (brought : Brought space name region old new)
    (reached : old.carriedCount = region.carriedCount) :
    new.carriedCount = region.carriedCount := by
  cases brought with
  | same => exact reached
  | renewed => rfl

/-- The space with an array brought to the count of a region. -/
def bringing (space : Space) (region : Region) (array : ArrayRegion) : Space :=
  space.store (.array (array.withCount region.carriedCount))

/-- What is recorded when an array has been brought to a count. -/
theorem regionAt_bringing (space : Space) (region : Region) (array : ArrayRegion)
    (address : Int) :
    (space.bringing region array).regionAt address =
      if array.start = address then some (.array (array.withCount region.carriedCount))
      else space.regionAt address :=
  regionAt_store space _ address

/-- The counts when an array has been brought to one. -/
theorem countAt_bringing (space : Space) (region : Region) (array : ArrayRegion)
    (address : Int) :
    (space.bringing region array).countAt address =
      if array.start = address then region.carriedCount else space.countAt address :=
  countAt_store space _ address

/-- A region that takes over back-references keeps its count. -/
theorem carriedCount_inheriting (space : Space) (region : Region) :
    (space.inheriting region).carriedCount = region.carriedCount := by
  obtain ⟨backReferences, recorded⟩ := space.exists_inheriting_eq region
  rw [recorded]
  cases region <;> rfl

/-- Every recorded array that derives its length states what it is. -/
def DerivesFaithfully (space : Space) : Prop :=
  ∀ ⦃address recorded⦄, space.regionAt address = some recorded → recorded.DerivesFaithfully

/-- Taking over back-references keeps the statement of a region. -/
theorem derivesFaithfully_inheriting (faithful : region.DerivesFaithfully) :
    (space.inheriting region).DerivesFaithfully := by
  obtain ⟨backReferences, recorded⟩ := space.exists_inheriting_eq region
  rw [recorded]
  cases region with
  | known region =>
      intro array anchor shape
      cases shape
  | array given =>
      intro array anchor shape derived
      cases shape
      have stated : given.Faithful := faithful rfl derived
      exact stated

/-- Arrays that derive their lengths still state what they are when a region has
been observed that does. -/
theorem DerivesFaithfully.observe (recordedFaithful : space.DerivesFaithfully)
    (faithful : region.DerivesFaithfully) : (space.observe region).DerivesFaithfully := by
  intro address recorded found
  rw [regionAt_observe] at found
  split at found
  · cases found
    exact derivesFaithfully_inheriting faithful
  · exact recordedFaithful found

/-- Binding a name changes no array. -/
theorem DerivesFaithfully.anchoring (recordedFaithful : space.DerivesFaithfully)
    (faithful : region.DerivesFaithfully) :
    (space.anchoring name region).DerivesFaithfully := by
  intro address recorded found
  rw [Space.anchoring, regionAt_bind] at found
  exact recordedFaithful.observe faithful found

/-- A recorded array that is to be brought to the count which is passed on. -/
structure Outdated (space : Space) (name : String) (region : Region) (array : ArrayRegion)
    (anchor : String) : Prop where
  recorded : space.regionAt array.start = some (.array array)
  elsewhere : array.start ≠ region.start
  derived : array.lengthRule = .derivedFromAnchor anchor
  affected : Affected space name region anchor
  changed : array.count ≠ region.carriedCount

namespace Outdated

variable {array : ArrayRegion} {anchor : String}

/-- An outdated array is still there when the anchor has been written. -/
theorem found (outdated : Outdated space name region array anchor) :
    (space.anchoring name region).regionAt array.start = some (.array array) := by
  rw [regionAt_anchoring, if_neg outdated.elsewhere.symm]
  exact outdated.recorded

/-- An outdated array may be brought to the count. -/
theorem brought (outdated : Outdated space name region array anchor) :
    Brought space name region (.array array) (.array (array.withCount region.carriedCount)) :=
  .renewed outdated.elsewhere outdated.derived outdated.affected outdated.changed

/-- The names of an outdated array are affected. -/
theorem onward (outdated : Outdated space name region array anchor) {other : String}
    (named : (space.bind name region.start).resolve other = some array.start) :
    Affected space name region other :=
  .onward outdated.recorded outdated.elsewhere outdated.derived outdated.affected
    outdated.changed named

end Outdated

end Space

end ImageAtlas
