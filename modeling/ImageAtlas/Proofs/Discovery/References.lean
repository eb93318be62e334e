import ImageAtlas.Proofs.Discovery.Course

/-!
# Back-references after a discovery

Where nothing was known before, the back-references at an address are the sources of
the pointers that were added and lead there: adding pointers in a space without regions
records exactly these, and nothing that is anchored behind that changes which
back-references are known anywhere, whether a header field takes them over or an array
is given those of its candidate. So after a discovery a back-reference can be read as a
pointer to its region, and every pointer that was added is a back-reference of the
region where it leads, whatever that region has become.
-/

namespace ImageAtlas

open Space

/-- The back-references that are known where pointers have been added are those that
were known before, and the sources from which the pointers lead there. -/
theorem Space.WellFormed.backReferencesAt_addPointers {space : Space}
    (wellFormed : space.WellFormed) (sources : List Int) (address : Int) :
    (space.addPointers sources).backReferencesAt address =
      space.backReferencesAt address ∪ space.leadingTo sources address := by
  rw [(wellFormed.addPointers sources).backReferencesAt_eq, wellFormed.backReferencesAt_eq,
    wellFormed.regionAt_addPointers]
  match space.regionAt address with
  | some (.array array) => rfl
  | some (.known known) => cases space.isSource sources address <;> rfl
  | none =>
      cases space.isSource sources address with
      | true => exact (AddressSet.empty_union _).symm
      | false =>
          simp only [ImageAtlas.pointed, Bool.false_eq_true, if_false, Option.map_none,
            Option.getD_none, AddressSet.empty_union]
          split
          · rename_i none
            exact (AddressSet.eq_empty_of_isEmpty none).symm
          · rfl

namespace Discovery

variable {profile : Profile} {code : String} {space ended : Space} {found : Found}
  {searches : List (NameArray × SearchReport)} {state : DiscoveryState}

/-- After a discovery the back-references that are known at an address are the sources of
the pointers that were added and lead there. -/
theorem Course.mem_backReferencesAt (course : Course profile code space searches found ended)
    (wellFormed : space.WellFormed) (empty : space.regions.isEmpty = true)
    {source address : Int} :
    source ∈ ended.backReferencesAt address ↔
      source ∈ pointerSources profile code space ∧
        space.readPointer source = some address := by
  have independent := Independent.of_isEmpty wellFormed empty
  have nothing : space.backReferencesAt address = ∅ := by
    rw [wellFormed.backReferencesAt_eq, regionAt_of_isEmpty empty]
    rfl
  rw [(course.written independent).backReferencesAt_eq (wellFormed.addPointers _),
    wellFormed.backReferencesAt_addPointers, nothing, AddressSet.empty_union, leadingTo,
    AddressSet.mem_ofList, List.mem_filter, decide_eq_true_iff]

/-- The aligned pointers are among those that a discovery adds if it is to discover
them. -/
theorem Course.mem_pointerSources_of_aligned
    (course : Course profile code space searches found ended)
    (empty : space.regions.isEmpty = true) (discovers : profile.pointers.discover = true)
    {source destination : Int} (read : space.readPointer source = some destination)
    (aligned : 4 ∣ source) (allowed : space.pointers.earliestAnchor ≤ destination) :
    source ∈ pointerSources profile code space := by
  have within : 0 ≤ source ∧ source + 4 ≤ space.image.size := by
    by_contra outside
    have beyond : source < 0 ∨ (space.image.size : Int) < source + pointerSize := by
      rw [show ((pointerSize : Nat) : Int) = 4 from rfl]
      omega
    rw [readPointer, if_pos beyond] at read
    cases read
  have base_lt := course.records.fits discovers (by omega)
  refine List.mem_append_left _ ?_
  rw [empty, discovers]
  exact (mem_map_fst_alignedPointers base_lt).2
    ⟨within.1, aligned, within.2, destination, read, allowed⟩

/-- The listed pointers whose highest byte is that of the base are among those that a
discovery adds. -/
theorem mem_pointerSources_of_listed {game : Game} (known : profile.game? code = some game)
    {source : Int} (listed : source ∈ game.extraPointers) {byte : UInt8}
    (highest : space.image.byteAt (source + 3) = .ok byte)
    (same : byte.toNat = profile.pointers.base / 0x1000000 % 0x100) :
    source ∈ pointerSources profile code space := by
  refine List.mem_append_right _ (List.mem_filter.2 ⟨?_, ?_⟩)
  · rw [listedSources, known]
    exact listed
  · rw [trusts, highest]
    exact beq_iff_eq.2 same

/-- When a discovery for a supported game has a result in a reachable space without
regions, every back-reference of a recorded region can be read as a pointer to the start
of that region. Every pointer that was added on the way is a back-reference of the region
that is recorded where it leads at the end: each aligned pointer to an allowed
destination, if they were to be discovered, and each pointer that is listed for the game
and has the highest byte of the base. -/
theorem run_backReferences_exact
    (reachable : Reachable anyOperation state.space)
    (empty : state.space.regions.isEmpty = true)
    (supported : code ∈ profile.supportedCodes)
    {ended : DiscoveryState} (ran : run profile code state = .ok found ended) :
    (∀ address region, ended.space.regionAt address = some region →
      ∀ source ∈ region.backReferences,
        ended.space.readPointer source = some region.start) ∧
    ∀ source destination, state.space.readPointer source = some destination →
      ((profile.pointers.discover = true ∧ 4 ∣ source ∧
          state.space.pointers.earliestAnchor ≤ destination) ∨
        ∃ game byte, profile.game? code = some game ∧ source ∈ game.extraPointers ∧
          state.space.image.byteAt (source + 3) = .ok byte ∧
          byte.toNat = profile.pointers.base / 0x1000000 % 0x100) →
      ∃ region, ended.space.regionAt destination = some region ∧
        source ∈ region.backReferences := by
  have wellFormed := reachable.wellFormed
  obtain ⟨searches, course⟩ := exists_course_of_run supported wellFormed empty ran
  have independent := Independent.of_isEmpty wellFormed empty
  have endsWellFormed := (course.independent independent).wellFormed
  constructor
  · intro address region recorded source member
    have known : source ∈ ended.space.backReferencesAt address := by
      rw [endsWellFormed.backReferencesAt_eq, recorded]
      exact member
    rw [(course.retains independent).readPointer_eq, endsWellFormed.start_eq recorded]
    exact ((course.mem_backReferencesAt wellFormed empty).1 known).2
  · intro source destination read added
    have among : source ∈ pointerSources profile code state.space := by
      rcases added with ⟨discovers, aligned, allowed⟩ | ⟨game, byte, known, listed, highest, same⟩
      · exact course.mem_pointerSources_of_aligned empty discovers read aligned allowed
      · exact mem_pointerSources_of_listed known listed highest same
    have known := (course.mem_backReferencesAt wellFormed empty).2 ⟨among, read⟩
    rw [endsWellFormed.backReferencesAt_eq] at known
    cases recorded : ended.space.regionAt destination with
    | none =>
        rw [recorded] at known
        exact absurd known AddressSet.not_mem_empty
    | some region =>
        rw [recorded] at known
        exact ⟨region, rfl, known⟩

/-- The title takes over both pointers that lead to it, one of them its own bytes, and
one leads to the names. -/
theorem run_titled_backReferences :
    ∃ found ended, run titled "AAAA" titledState = .ok found ended ∧
      (∃ region, ended.space.regionAt 4 = some region ∧ 0 ∈ region.backReferences) ∧
      (∃ region, ended.space.regionAt 4 = some region ∧ 4 ∈ region.backReferences) ∧
      ∃ region, ended.space.regionAt 8 = some region ∧ 12 ∈ region.backReferences := by
  obtain ⟨reachable, empty, supported⟩ := titled_ready
  obtain ⟨found, ended, ran⟩ :=
    exists_run supported reachable.wellFormed empty ⟨_, rfl⟩ titled_accepts
  obtain ⟨-, complete⟩ := run_backReferences_exact reachable empty supported ran
  refine ⟨found, ended, ran, complete 0 4 ?_ (.inl ⟨rfl, ?_, ?_⟩),
    complete 4 4 ?_ (.inl ⟨rfl, ?_, ?_⟩), complete 12 8 ?_ (.inl ⟨rfl, ?_, ?_⟩)⟩
  all_goals decide +kernel

end Discovery

end ImageAtlas
