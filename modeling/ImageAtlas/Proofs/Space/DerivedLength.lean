import ImageAtlas.Proofs.Space.WellFormed

/-!
# Derived lengths

The count that a space gives under a name, and the arrays whose schema text
states what they are. Placing such an array anew, when it derives its length
from a name, changes nothing but its count, which becomes the count under that
name.
-/

namespace ImageAtlas

/-- The count that a region passes on to the arrays that follow it. -/
def Region.carriedCount (region : Region) : Nat :=
  region.count?.getD 0

namespace ArrayRegion

/-- The same array with another number of elements. -/
def withCount (region : ArrayRegion) (count : Nat) : ArrayRegion :=
  { region with count }

/-- The schema text of an array states its layout and its length rule. -/
def Faithful (region : ArrayRegion) : Prop :=
  ∃ schema, Schema.read region.schemaText = .ok schema ∧ schema.layout = region.layout ∧
    schema.length = region.lengthRule

/-- A layout is placed as it was given, and its count is not negative. -/
theorem eq_of_ofParts {start count : Int} {schemaText : String} {layout : Layout}
    {lengthRule : LengthRule} {backReferences : AddressSet} {region : ArrayRegion}
    (placed : ofParts start schemaText layout lengthRule count backReferences = .ok region) :
    (region.count : Int) = count ∧
      ∃ nonempty : layout ≠ [], region =
        ⟨start, schemaText, layout, lengthRule, region.count, backReferences, nonempty⟩ := by
  rw [ofParts] at placed
  split at placed
  · cases placed
  · rename_i nonneg
    split at placed
    · cases placed
    · rename_i nonempty
      cases placed
      exact ⟨Int.toNat_of_nonneg (Int.not_lt.1 nonneg), nonempty, rfl⟩

/-- What an array states does not depend on its count. -/
theorem Faithful.withCount {region : ArrayRegion} (faithful : region.Faithful) (count : Nat) :
    (region.withCount count).Faithful :=
  faithful

end ArrayRegion

/-- The array that depends on a name derives its length from it. -/
theorem Space.dependent?_eq_some_iff {anchor : String} {region : Region}
    {array : ArrayRegion} :
    dependent? anchor region = some array ↔
      region = .array array ∧ array.lengthRule = .derivedFromAnchor anchor := by
  cases region with
  | known region => simp [dependent?]
  | array region =>
      simp only [dependent?, Option.ite_none_right_eq_some, Option.some.injEq,
        Region.array.injEq]
      constructor
      · rintro ⟨derived, rfl⟩
        exact ⟨rfl, derived⟩
      · rintro ⟨rfl, derived⟩
        exact ⟨derived, rfl⟩

namespace Space

variable {space : Space}

/-- The count of the array recorded at an address, zero where there is none. -/
def countAt (space : Space) (address : Int) : Nat :=
  match space.regionAt address with
  | some (.array region) => region.count
  | _ => 0

/-- The count of the array that a name leads to, zero where it leads to none. -/
def countUnder (space : Space) (anchor : String) : Nat :=
  match space.resolve anchor with
  | some address => space.countAt address
  | none => 0

/-- The count at an address where a region is recorded. -/
theorem countAt_of_regionAt {address : Int} {region : Region}
    (found : space.regionAt address = some region) :
    space.countAt address = region.carriedCount := by
  cases region <;> simp [countAt, found, Region.carriedCount, Region.count?]

/-- The count under a name that leads somewhere. -/
theorem countUnder_of_resolve {anchor : String} {address : Int}
    (leads : space.resolve anchor = some address) :
    space.countUnder anchor = space.countAt address := by
  simp [countUnder, leads]

/-- The counts after a region was stored. -/
theorem countAt_store (space : Space) (region : Region) (address : Int) :
    (space.store region).countAt address =
      if region.start = address then region.carriedCount else space.countAt address := by
  by_cases here : region.start = address
  · rw [if_pos here]
    exact countAt_of_regionAt (by rw [regionAt_store, if_pos here])
  · simp only [countAt, regionAt_store, if_neg here]

/-- A count that is stored at one address may also be the one under a name
before; it is then the count under that name. -/
theorem countUnder_store (space : Space) {region : Region} {anchor : String} {count : Nat}
    (carried : region.carriedCount = count) (before : space.countUnder anchor = count) :
    (space.store region).countUnder anchor = count := by
  cases leads : space.resolve anchor with
  | none => simpa [countUnder, leads] using before
  | some address =>
      rw [countUnder_of_resolve leads] at before
      have leadsOn : (space.store region).resolve anchor = some address := leads
      rw [countUnder_of_resolve leadsOn, countAt_store]
      split
      · exact carried
      · exact before

/-- The number of elements that an anchor gives is the count under it. -/
theorem WellFormed.anchoredCount_eq (wellFormed : space.WellFormed) (anchor : String) :
    (space.anchoredCount anchor).value = space.countUnder anchor := by
  cases leads : space.resolve anchor with
  | none => simp [anchoredCount, countUnder, leads]
  | some address =>
      have found := wellFormed.regionStartingAt_eq address
      rw [countUnder_of_resolve leads, countAt]
      simp only [anchoredCount, leads, found]
      cases space.regionAt address with
      | none => rfl
      | some region => cases region <;> rfl

/-- A derived length is the count under the anchor. -/
theorem WellFormed.resolveLength_derived (wellFormed : space.WellFormed) (anchor : String)
    (layout : Layout) (address : Int) :
    (space.resolveLength (.derivedFromAnchor anchor) layout address).value =
      .ok (space.countUnder anchor : Int) := by
  simp [resolveLength, wellFormed.anchoredCount_eq]

/-- The array that a schema text describes has the start, the text and the
back-references it was given, the layout and the length rule of the schema, and
the count that this rule resolves to. -/
theorem exists_of_parseAt {text : String} {address : Int} {backReferences : Option AddressSet}
    {placed : ArrayRegion}
    (described : (space.parseAt text address backReferences).value = .ok placed) :
    ∃ schema, Schema.read text = .ok schema ∧
      (space.resolveLength schema.length schema.layout address).value =
        .ok (placed.count : Int) ∧
      placed = ⟨address, text, schema.layout, schema.length, placed.count,
        backReferences.getD (space.backReferencesAt address), schema.layout_ne_nil⟩ := by
  simp only [parseAt] at described
  split at described
  · cases described
  · rename_i schema read
    simp only [Noted.value_bind] at described
    split at described
    · cases described
    · rename_i count resolved
      obtain ⟨count_eq, nonempty, placed_eq⟩ := ArrayRegion.eq_of_ofParts described
      rw [← count_eq] at resolved
      exact ⟨schema, read, resolved, placed_eq⟩

/-- An array that a schema text describes states what it is, and has the count
that its length rule resolves to. -/
theorem parseAt_eq_ok {text : String} {address : Int} {backReferences : Option AddressSet}
    {placed : ArrayRegion}
    (described : (space.parseAt text address backReferences).value = .ok placed) :
    placed.Faithful ∧
      (space.resolveLength placed.lengthRule placed.layout address).value =
        .ok (placed.count : Int) := by
  obtain ⟨schema, read, resolved, shape⟩ := exists_of_parseAt described
  rw [shape]
  exact ⟨⟨schema, read, rfl, rfl⟩, resolved⟩

/-- An array that a schema text describes begins where it was placed. -/
theorem start_of_parseAt {text : String} {address : Int} {backReferences : Option AddressSet}
    {placed : ArrayRegion}
    (described : (space.parseAt text address backReferences).value = .ok placed) :
    placed.start = address := by
  obtain ⟨schema, read, resolved, shape⟩ := exists_of_parseAt described
  rw [shape]

/-- Where the length rule of a schema resolves to a count, its text describes the array
with that count. -/
theorem parseAt_of_resolved {text : String} {schema : Schema}
    (read : Schema.read text = .ok schema) {address : Int} {count : Nat}
    (resolved : (space.resolveLength schema.length schema.layout address).value =
      .ok (count : Int))
    (backReferences : Option AddressSet) :
    (space.parseAt text address backReferences).value =
      .ok ⟨address, text, schema.layout, schema.length, count,
        backReferences.getD (space.backReferencesAt address), schema.layout_ne_nil⟩ := by
  simp [parseAt, read, resolved, ArrayRegion.ofParts, schema.layout_ne_nil]

/-- An array that derives its length keeps everything but its count when it is
placed anew. -/
theorem WellFormed.parseAt_derived (wellFormed : space.WellFormed) {region : ArrayRegion}
    {anchor : String} (faithful : region.Faithful)
    (derived : region.lengthRule = .derivedFromAnchor anchor) :
    (space.parseAt region.schemaText region.start (some region.backReferences)).value =
      .ok (region.withCount (space.countUnder anchor)) := by
  obtain ⟨schema, read, layout, length⟩ := faithful
  have resolved := wellFormed.resolveLength_derived anchor schema.layout region.start
  rw [← derived, ← length] at resolved
  rw [parseAt_of_resolved read resolved]
  simp only [layout, length, Option.getD_some, ArrayRegion.withCount]

end Space

end ImageAtlas
