import ImageAtlas.Proofs.AddressRow
import ImageAtlas.Proofs.Region.Table
import ImageAtlas.Space.Anchoring
import ImageAtlas.Space.Recording

/-!
# Well-formed spaces

A space is well formed when its table of regions is sound, its row of starts is
ascending and holds the addresses where regions are recorded, no name is bound
twice and every bound address is the start of a region. Observing a region,
storing one in place of another and binding a name to a recorded start keep it
so. In a well-formed space the region that begins at an address, found by its
neighbours, is the one recorded there, and the names at an address are those
that lead to it.
-/

namespace ImageAtlas

/-- A name that is bound already keeps its place, another one comes last. -/
theorem map_fst_bindAnchor (name : String) (address : Int) (anchors : List (String × Int)) :
    (bindAnchor name address anchors).map Prod.fst =
      if name ∈ anchors.map Prod.fst then anchors.map Prod.fst
      else anchors.map Prod.fst ++ [name] := by
  induction anchors with
  | nil => simp [bindAnchor]
  | cons head tail inductionHypothesis =>
      by_cases here : head.1 = name
      · simp [bindAnchor, here]
      · simp only [bindAnchor, here, if_false, List.map_cons, inductionHypothesis,
          List.mem_cons, Ne.symm here, false_or]
        split <;> rfl

/-- A name that was bound leads to its new address, any other where it led. -/
theorem find?_bindAnchor (name other : String) (address : Int)
    (anchors : List (String × Int)) :
    ((bindAnchor name address anchors).find? fun anchor => anchor.1 == other).map Prod.snd =
      if other = name then some address
      else (anchors.find? fun anchor => anchor.1 == other).map Prod.snd := by
  induction anchors with
  | nil =>
      by_cases same : other = name
      · simp [bindAnchor, same]
      · simp [bindAnchor, same, Ne.symm same]
  | cons head tail inductionHypothesis =>
      by_cases here : head.1 = name
      · by_cases same : other = name
        · simp [bindAnchor, here, same]
        · simp [bindAnchor, here, same, Ne.symm same]
      · by_cases asked : head.1 = other
        · have different : other ≠ name := fun same => here (asked.trans same)
          simp [bindAnchor, asked, different]
        · simpa [bindAnchor, here, asked] using inductionHypothesis

namespace Space

variable {space : Space}

/-- What is recorded after a region was stored. -/
theorem regionAt_store (space : Space) (region : Region) (address : Int) :
    (space.store region).regionAt address =
      if region.start = address then some region else space.regionAt address :=
  RegionTable.get?_put space.regions region address

/-- Adding a start leaves the table of regions. -/
@[simp] theorem regions_addStart (space : Space) (start : Int) :
    (space.addStart start).regions = space.regions := by
  rw [addStart]
  split <;> rfl

/-- Adding a start records nothing. -/
@[simp] theorem regionAt_addStart (space : Space) (start address : Int) :
    (space.addStart start).regionAt address = space.regionAt address := by
  rw [regionAt, regions_addStart, ← regionAt]

/-- Adding a start binds nothing. -/
@[simp] theorem anchors_addStart (space : Space) (start : Int) :
    (space.addStart start).anchors = space.anchors := by
  rw [addStart]
  split <;> rfl

/-- A region takes over other back-references, or keeps its own. -/
theorem exists_inheriting_eq (space : Space) (region : Region) :
    ∃ backReferences, space.inheriting region = region.withBackReferences backReferences := by
  have own : region = region.withBackReferences region.backReferences := by
    cases region <;> rfl
  rw [inheriting]
  split
  · exact ⟨_, own⟩
  · split
    · exact ⟨_, rfl⟩
    · exact ⟨_, own⟩

/-- A region is recorded where it begins. -/
@[simp] theorem start_inheriting (space : Space) (region : Region) :
    (space.inheriting region).start = region.start := by
  obtain ⟨backReferences, recorded⟩ := space.exists_inheriting_eq region
  rw [recorded, Region.start_withBackReferences]

/-- What is recorded after a region was observed. -/
theorem regionAt_observe (space : Space) (region : Region) (address : Int) :
    (space.observe region).regionAt address =
      if region.start = address then some (space.inheriting region)
      else space.regionAt address := by
  rw [observe, regionAt_store, start_inheriting, regionAt_addStart]

/-- Observing a region binds nothing. -/
@[simp] theorem anchors_observe (space : Space) (region : Region) :
    (space.observe region).anchors = space.anchors :=
  anchors_addStart space region.start

/-- Names lead where they led when a region was observed. -/
@[simp] theorem resolve_observe (space : Space) (region : Region) (name : String) :
    (space.observe region).resolve name = space.resolve name := by
  rw [resolve, anchors_observe, ← resolve]

/-- Binding a name records nothing. -/
@[simp] theorem regionAt_bind (space : Space) (name : String) (bound address : Int) :
    (space.bind name bound).regionAt address = space.regionAt address :=
  rfl

/-- Storing a region binds nothing. -/
@[simp] theorem resolve_store (space : Space) (region : Region) (name : String) :
    (space.store region).resolve name = space.resolve name :=
  rfl

/-- Where names lead after one was bound. -/
theorem resolve_bind (space : Space) (name other : String) (address : Int) :
    (space.bind name address).resolve other =
      if other = name then some address else space.resolve other :=
  find?_bindAnchor name other address space.anchors

/-- The table of regions, the row of starts and the anchors are in step. -/
structure WellFormed (space : Space) : Prop where
  regions : space.regions.Sound
  starts_ascending : space.starts.Ascending
  mem_starts : ∀ {address}, address ∈ space.starts ↔ (space.regionAt address).isSome
  names_nodup : (space.anchors.map Prod.fst).Nodup
  recorded : ∀ {name address}, space.resolve name = some address →
    (space.regionAt address).isSome

/-- A region that is recorded somewhere begins there. -/
theorem WellFormed.start_eq (wellFormed : space.WellFormed) {address : Int} {region : Region}
    (found : space.regionAt address = some region) : region.start = address :=
  wellFormed.regions.start_eq found

/-- A space without regions and anchors is well formed. -/
theorem WellFormed.empty (image : Image) (codec : TextCodec) (pointers : PointerRules) :
    WellFormed { image, codec, pointers } where
  regions := .empty
  starts_ascending := .empty
  mem_starts := by simp [regionAt]
  names_nodup := List.nodup_nil
  recorded := by
    intro name address bound
    simp [resolve] at bound

/-- What is recorded somewhere after a region was stored was recorded before, or
it is that region. -/
theorem isSome_regionAt_store (space : Space) (region : Region) (address : Int) :
    ((space.store region).regionAt address).isSome ↔
      address = region.start ∨ (space.regionAt address).isSome := by
  rw [regionAt_store]
  split
  · rename_i here
    simp [here]
  · rename_i elsewhere
    simp [Ne.symm elsewhere]

/-- A name that leads somewhere still leads to a recorded start when a region was
stored. -/
theorem WellFormed.isSome_of_resolve_store (wellFormed : space.WellFormed) (region : Region)
    {name : String} {address : Int} (leads : space.resolve name = some address) :
    ((space.store region).regionAt address).isSome :=
  (isSome_regionAt_store space region address).2 (.inr (wellFormed.recorded leads))

/-- Storing a region in place of another keeps a space well formed. -/
theorem WellFormed.store (wellFormed : space.WellFormed) {region : Region}
    (known : (space.regionAt region.start).isSome) : (space.store region).WellFormed where
  regions := wellFormed.regions.put region
  starts_ascending := wellFormed.starts_ascending
  mem_starts := by
    intro address
    have held : address ∈ (space.store region).starts ↔ (space.regionAt address).isSome :=
      wellFormed.mem_starts
    rw [held, isSome_regionAt_store]
    constructor
    · exact .inr
    · rintro (rfl | before)
      · exact known
      · exact before
  names_nodup := wellFormed.names_nodup
  recorded := wellFormed.isSome_of_resolve_store region

/-- Observing a region keeps a space well formed. -/
theorem WellFormed.observe (wellFormed : space.WellFormed) (region : Region) :
    (space.observe region).WellFormed := by
  cases known : space.regionAt region.start with
  | some existing =>
      have same : space.addStart region.start = space := by rw [addStart, known]
      rw [Space.observe, same]
      refine wellFormed.store ?_
      rw [start_inheriting, known]
      rfl
  | none =>
      have added : space.addStart region.start =
          { space with starts := space.starts.insert region.start } := by
        rw [addStart, known]
      have absent : region.start ∉ space.starts := by
        rw [wellFormed.mem_starts, known]
        exact Bool.false_ne_true
      rw [Space.observe, added]
      refine
        { regions := wellFormed.regions.put _
          starts_ascending := wellFormed.starts_ascending.insert absent
          mem_starts := ?_
          names_nodup := wellFormed.names_nodup
          recorded := wellFormed.isSome_of_resolve_store _ }
      intro address
      rw [isSome_regionAt_store, start_inheriting]
      exact AddressRow.mem_insert.trans (or_congr_right wellFormed.mem_starts)

/-- Binding a name to a recorded start keeps a space well formed. -/
theorem WellFormed.bind (wellFormed : space.WellFormed) (name : String) {address : Int}
    (known : (space.regionAt address).isSome) : (space.bind name address).WellFormed where
  regions := wellFormed.regions
  starts_ascending := wellFormed.starts_ascending
  mem_starts := wellFormed.mem_starts
  names_nodup := by
    have names := map_fst_bindAnchor name address space.anchors
    change ((bindAnchor name address space.anchors).map Prod.fst).Nodup
    rw [names]
    split
    · exact wellFormed.names_nodup
    · rename_i fresh
      refine List.nodup_append.2 ⟨wellFormed.names_nodup, by simp, ?_⟩
      intro first firstMember last lastMember same
      rw [List.mem_singleton] at lastMember
      exact fresh (lastMember ▸ same ▸ firstMember)
  recorded := by
    intro other bound leads
    rw [resolve_bind] at leads
    split at leads
    · cases leads
      exact known
    · exact wellFormed.recorded leads

/-- The space in which an anchor is written, before its count is passed on. -/
def anchoring (space : Space) (name : String) (region : Region) : Space :=
  (space.observe region).bind name region.start

/-- The anchors when one has been written. -/
theorem anchors_anchoring (space : Space) (name : String) (region : Region) :
    (space.anchoring name region).anchors = bindAnchor name region.start space.anchors := by
  simp only [anchoring, bind, anchors_observe]

/-- What is recorded when an anchor has been written. -/
theorem regionAt_anchoring (space : Space) (name : String) (region : Region) (address : Int) :
    (space.anchoring name region).regionAt address =
      if region.start = address then some (space.inheriting region)
      else space.regionAt address := by
  rw [anchoring, regionAt_bind, regionAt_observe]

/-- Where names lead when an anchor has been written. -/
theorem resolve_anchoring (space : Space) (name other : String) (region : Region) :
    (space.anchoring name region).resolve other =
      if other = name then some region.start else space.resolve other := by
  rw [anchoring, resolve_bind, resolve_observe]

/-- Writing an anchor keeps a space well formed before its count is passed on. -/
theorem WellFormed.anchoring (wellFormed : space.WellFormed) (name : String)
    (region : Region) : (space.anchoring name region).WellFormed := by
  refine (wellFormed.observe region).bind name ?_
  rw [regionAt_observe, if_pos rfl]
  rfl

/-- Under distinct names, an entry is what its name leads to. -/
theorem find?_eq_some_of_mem {anchors : List (String × Int)}
    (nodup : (anchors.map Prod.fst).Nodup) {name : String} {address : Int}
    (member : (name, address) ∈ anchors) :
    anchors.find? (fun anchor => anchor.1 == name) = some (name, address) := by
  induction anchors with
  | nil => simp at member
  | cons head tail inductionHypothesis =>
      rw [List.map_cons, List.nodup_cons] at nodup
      rcases List.mem_cons.1 member with rfl | inTail
      · simp
      · have different : head.1 ≠ name := by
          rintro rfl
          exact nodup.1 (List.mem_map.2 ⟨(head.1, address), inTail, rfl⟩)
        simpa [different] using inductionHypothesis nodup.2 inTail

/-- The names at an address are those that lead to it. -/
theorem WellFormed.mem_anchorsAt (wellFormed : space.WellFormed) {name : String}
    {address : Int} : name ∈ space.anchorsAt address ↔ space.resolve name = some address := by
  simp only [anchorsAt, resolve, List.mem_map, List.mem_filter, Option.map_eq_some_iff]
  constructor
  · rintro ⟨⟨other, bound⟩, ⟨member, here⟩, rfl⟩
    have found := find?_eq_some_of_mem wellFormed.names_nodup member
    exact ⟨(other, bound), found, by simpa using here⟩
  · rintro ⟨⟨other, bound⟩, found, rfl⟩
    have same : other = name := by simpa using List.find?_some found
    exact ⟨(other, bound), ⟨List.mem_of_find?_eq_some found, by simp⟩, same⟩

/-- A name that leads somewhere is bound. -/
theorem mem_names_of_resolve {name : String} {address : Int}
    (leads : space.resolve name = some address) : name ∈ space.anchors.map Prod.fst := by
  simp only [resolve, Option.map_eq_some_iff] at leads
  obtain ⟨anchor, found, -⟩ := leads
  have same : anchor.1 = name := by simpa using List.find?_some found
  rw [← same]
  exact List.mem_map_of_mem (List.mem_of_find?_eq_some found)

/-- What is recorded at an address has its start in the row. -/
theorem WellFormed.start_mem (wellFormed : space.WellFormed) {address : Int} {region : Region}
    (found : space.regionAt address = some region) : address ∈ space.starts := by
  rw [wellFormed.mem_starts, found]
  rfl

/-- The regions in ascending order are those that are recorded. -/
theorem WellFormed.mem_ascending (wellFormed : space.WellFormed) {region : Region} :
    region ∈ space.ascending ↔ space.regionAt region.start = some region := by
  rw [ascending, List.mem_filterMap]
  constructor
  · rintro ⟨address, -, found⟩
    rw [wellFormed.start_eq found]
    exact found
  · intro found
    exact ⟨region.start, Array.mem_toList_iff.2 (wellFormed.start_mem found), found⟩

/-- The regions in ascending order begin at the addresses in the row, one at each. -/
theorem WellFormed.map_start_ascending (wellFormed : space.WellFormed) :
    space.ascending.map Region.start = space.starts.toList := by
  have kept : ∀ start ∈ space.starts.toList,
      (space.regionAt start).map Region.start = some start := by
    intro start member
    have known := wellFormed.mem_starts.1 (Array.mem_toList_iff.1 member)
    obtain ⟨region, found⟩ := Option.isSome_iff_exists.1 known
    rw [found, Option.map_some, wellFormed.start_eq found]
  rw [ascending, List.map_filterMap]
  generalize space.starts.toList = starts at kept ⊢
  induction starts with
  | nil => rfl
  | cons start rest inductionHypothesis =>
      have others := inductionHypothesis fun other member =>
        kept other (List.mem_cons_of_mem _ member)
      simp only [List.filterMap_cons, kept start List.mem_cons_self, others]

/-- The regions in ascending order begin one behind the other. -/
theorem WellFormed.pairwise_ascending (wellFormed : space.WellFormed) :
    space.ascending.Pairwise fun first second => first.start < second.start := by
  have ordered := wellFormed.starts_ascending
  rw [AddressRow.Ascending, ← wellFormed.map_start_ascending, List.pairwise_map] at ordered
  exact ordered

/-- The next region behind an address is the recorded one with the least start
beyond it. -/
theorem WellFormed.nextAfter_eq_some_iff (wellFormed : space.WellFormed) {address : Int}
    {region : Region} :
    space.nextAfter address = some region ↔
      space.regionAt region.start = some region ∧ address < region.start ∧
        ∀ other, space.regionAt other.start = some other → address < other.start →
          region.start ≤ other.start := by
  rw [nextAfter, Option.bind_eq_some_iff]
  constructor
  · rintro ⟨start, next, found⟩
    have begins := wellFormed.start_eq found
    subst begins
    obtain ⟨-, beyond, least⟩ := wellFormed.starts_ascending.next?_eq_some_iff.1 next
    refine ⟨found, beyond, ?_⟩
    intro other otherFound otherBeyond
    exact least other.start (wellFormed.start_mem otherFound) otherBeyond
  · rintro ⟨found, beyond, least⟩
    refine ⟨region.start, ?_, found⟩
    rw [wellFormed.starts_ascending.next?_eq_some_iff]
    refine ⟨wellFormed.start_mem found, beyond, ?_⟩
    intro start member startBeyond
    obtain ⟨other, otherFound⟩ := Option.isSome_iff_exists.1 (wellFormed.mem_starts.1 member)
    have begins := wellFormed.start_eq otherFound
    subst begins
    exact least other otherFound startBeyond

/-- There is no next region behind an address when none begins beyond it. -/
theorem WellFormed.nextAfter_eq_none_iff (wellFormed : space.WellFormed) {address : Int} :
    space.nextAfter address = none ↔
      ∀ other, space.regionAt other.start = some other → other.start ≤ address := by
  have every : space.nextAfter address = none ↔ space.starts.next? address = none := by
    rw [nextAfter, Option.bind_eq_none_iff]
    constructor
    · intro lost
      cases next : space.starts.next? address with
      | none => rfl
      | some start =>
          have member := (wellFormed.starts_ascending.next?_eq_some_iff.1 next).1
          have known := wellFormed.mem_starts.1 member
          rw [lost start next] at known
          cases known
    · intro none start next
      rw [none] at next
      cases next
  rw [every, wellFormed.starts_ascending.next?_eq_none_iff]
  constructor
  · intro upTo other found
    exact upTo other.start (wellFormed.start_mem found)
  · intro upTo start member
    obtain ⟨other, found⟩ := Option.isSome_iff_exists.1 (wellFormed.mem_starts.1 member)
    have begins := wellFormed.start_eq found
    subst begins
    exact upTo other found

/-- The region that begins at an address, found as the next one behind the
address before, is the one recorded there. -/
theorem WellFormed.regionStartingAt_eq (wellFormed : space.WellFormed) (address : Int) :
    space.regionStartingAt address = space.regionAt address := by
  cases here : space.regionAt address with
  | some region =>
      have start := wellFormed.start_eq here
      have next : space.nextAfter (address - 1) = some region := by
        rw [wellFormed.nextAfter_eq_some_iff, start]
        refine ⟨here, by omega, ?_⟩
        intro other _ beyond
        omega
      simp [regionStartingAt, next, start]
  | none =>
      cases next : space.nextAfter (address - 1) with
      | none => simp [regionStartingAt, next]
      | some region =>
          have found := (wellFormed.nextAfter_eq_some_iff.1 next).1
          have elsewhere : region.start ≠ address := by
            rintro rfl
            rw [here] at found
            cases found
          simp [regionStartingAt, next, elsewhere]

/-- The back-references at an address are those of what is recorded there. -/
theorem WellFormed.backReferencesAt_eq (wellFormed : space.WellFormed) (address : Int) :
    space.backReferencesAt address =
      ((space.regionAt address).map Region.backReferences).getD ∅ := by
  rw [backReferencesAt, wellFormed.regionStartingAt_eq]
  cases space.regionAt address <;> rfl

/-- An array has to end before the next start, or where the image ends. -/
theorem WellFormed.boundAfter_eq (wellFormed : space.WellFormed) (address : Int) :
    space.boundAfter address = (space.starts.next? address).getD space.image.size := by
  rw [boundAfter, nextAfter]
  cases next : space.starts.next? address with
  | none => rfl
  | some start =>
      have member := (wellFormed.starts_ascending.next?_eq_some_iff.1 next).1
      obtain ⟨region, found⟩ := Option.isSome_iff_exists.1 (wellFormed.mem_starts.1 member)
      simp only [Option.bind_some, found, Option.getD_some]
      exact wellFormed.start_eq found

end Space

end ImageAtlas
