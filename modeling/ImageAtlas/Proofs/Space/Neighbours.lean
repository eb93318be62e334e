import ImageAtlas.Proofs.Space.Anchoring

/-!
# Regions and their neighbours

What an operation leaves of a space: the image, the way in which it is read, and
a region wherever one was recorded. `Reachable.neighbours_follow_record` says
that in every reachable space the row of starts, the regions and the anchors are
in step, and that every question about neighbours is therefore answered from
what is recorded.
-/

namespace ImageAtlas

namespace Space

variable {space after : Space}

/-- The image, its codec and the rules for pointers are the same, and regions are
recorded wherever they were. -/
structure Retains (space after : Space) : Prop where
  image : after.image = space.image
  codec : after.codec = space.codec
  pointers : after.pointers = space.pointers
  recorded : ∀ {address}, (space.regionAt address).isSome → (after.regionAt address).isSome

/-- Nothing is lost where nothing is done. -/
theorem Retains.refl (space : Space) : Retains space space :=
  ⟨rfl, rfl, rfl, fun known => known⟩

/-- What is retained twice is retained. -/
theorem Retains.trans {last : Space} (first : Retains space after)
    (second : Retains after last) : Retains space last where
  image := second.image.trans first.image
  codec := second.codec.trans first.codec
  pointers := second.pointers.trans first.pointers
  recorded known := second.recorded (first.recorded known)

/-- Storing a region loses nothing. -/
theorem retains_store (space : Space) (region : Region) : Retains space (space.store region) where
  image := rfl
  codec := rfl
  pointers := rfl
  recorded known := (isSome_regionAt_store space region _).2 (.inr known)

/-- Adding a start loses nothing. -/
theorem retains_addStart (space : Space) (start : Int) : Retains space (space.addStart start) := by
  rw [addStart]
  split
  · exact .refl space
  · exact ⟨rfl, rfl, rfl, fun known => known⟩

/-- Observing a region loses nothing. -/
theorem retains_observe (space : Space) (region : Region) :
    Retains space (space.observe region) :=
  (retains_addStart space region.start).trans (retains_store _ _)

/-- Binding a name loses nothing. -/
theorem retains_bind (space : Space) (name : String) (address : Int) :
    Retains space (space.bind name address) :=
  ⟨rfl, rfl, rfl, fun known => known⟩

/-- Registering a pointer loses nothing. -/
theorem retains_registerPointer (space : Space) (source destination : Int) :
    Retains space (space.registerPointer source destination) := by
  have marked : Retains space (space.markPointer source) := by
    rw [markPointer]
    split
    · exact .refl space
    · exact retains_observe space _
  refine marked.trans ?_
  rw [registerPointer, addBackReference]
  split
  · exact retains_observe _ _
  · exact retains_store _ _

/-- Writing an anchor loses nothing, also when passing its count on fails. -/
theorem retains_writeAnchor (space : Space) (name : String) (region : Region) :
    Retains space (space.writeAnchor name region).space := by
  obtain ⟨names, last, ended, moves, reached, -⟩ := space.writeAnchor_reaches name region
  rw [← reached]
  refine moves.preserve (fun pursuit => Retains space pursuit.space) ?_
    ((retains_observe space region).trans (retains_bind _ name region.start))
  intro pursuit taken next move held
  cases move with
  | takeUp | discard | finish | pass | leave | keep => exact held
  | renew => exact held.trans (retains_store _ _)

/-- No operation loses anything. -/
theorem retains_after (space : Space) (operation : Operation) :
    Retains space (space.after operation) := by
  have registers : ∀ {current : Space} (source destination : Int), Retains space current →
      Retains space (current.registerPointer source destination) :=
    fun source destination held => held.trans (retains_registerPointer _ source destination)
  cases operation with
  | observe region => exact retains_observe space region
  | writeAnchor name region => exact retains_writeAnchor space name region
  | addPointer source => exact addPointer_preserves registers (.refl space) source
  | discoverPointers => exact discoverPointers_preserves registers (.refl space)

/-- A bound name leads to a recorded start. -/
theorem WellFormed.isSome_of_mem_anchors (wellFormed : space.WellFormed)
    {anchor : String × Int} (bound : anchor ∈ space.anchors) :
    (space.regionAt anchor.2).isSome := by
  have found := find?_eq_some_of_mem wellFormed.names_nodup bound
  have leads : space.resolve anchor.1 = some anchor.2 := by
    rw [resolve, found]
    rfl
  exact wellFormed.recorded leads

/-- In every reachable space the row of starts is strictly ascending and holds
exactly the addresses where a region is recorded, each region is recorded at its
own start, and every anchor is bound to such an address. The next region behind
an address is therefore the recorded one with the least start beyond it, if there
is any; the region that begins at an address, found by its neighbours, is the one
recorded there; and the regions in ascending order are the recorded ones, each
once. No operation takes a start away or changes the image. -/
theorem Reachable.neighbours_follow_record (reachable : Reachable anyOperation space) :
    (space.starts.toList.Pairwise (· < ·) ∧
      (∀ address, address ∈ space.starts ↔ (space.regionAt address).isSome) ∧
      (∀ address region, space.regionAt address = some region → region.start = address) ∧
      ∀ anchor ∈ space.anchors, (space.regionAt anchor.2).isSome) ∧
    ((∀ address region, space.nextAfter address = some region ↔
        space.regionAt region.start = some region ∧ address < region.start ∧
          ∀ other, space.regionAt other.start = some other → address < other.start →
            region.start ≤ other.start) ∧
      (∀ address, space.nextAfter address = none ↔
        ∀ region, space.regionAt region.start = some region → region.start ≤ address) ∧
      ∀ address, space.regionStartingAt address = space.regionAt address) ∧
    (space.ascending.map Region.start = space.starts.toList ∧
      ∀ region, region ∈ space.ascending ↔ space.regionAt region.start = some region) ∧
    ∀ operation, (space.after operation).image = space.image ∧
      ∀ address, (space.regionAt address).isSome →
        ((space.after operation).regionAt address).isSome := by
  have wellFormed := reachable.wellFormed
  refine ⟨⟨wellFormed.starts_ascending, ?_, ?_, ?_⟩, ⟨?_, ?_, wellFormed.regionStartingAt_eq⟩,
    ⟨wellFormed.map_start_ascending, ?_⟩, ?_⟩
  · intro address
    exact wellFormed.mem_starts
  · intro address region found
    exact wellFormed.start_eq found
  · intro anchor bound
    exact wellFormed.isSome_of_mem_anchors bound
  · intro address region
    exact wellFormed.nextAfter_eq_some_iff
  · intro address
    exact wellFormed.nextAfter_eq_none_iff
  · intro region
    exact wellFormed.mem_ascending
  · intro operation
    have retained := retains_after space operation
    exact ⟨retained.image, fun address known => retained.recorded known⟩

/-- In the chain, the array at 0x300 is next behind the start of the other one,
nothing is next behind its own start, and nothing begins between the two. -/
theorem chain_neighbours_follow_record :
    Reachable anyOperation chain ∧
      chain.nextAfter 0x200 =
        some (.array (fieldArray 0x300 (.derivedFromAnchor "b") 0)) ∧
      chain.nextAfter 0x300 = none ∧ chain.regionStartingAt 0x250 = none := by
  have reachable : Reachable anyOperation chain :=
    .step (.step (.initial #[] .ascii {}) trivial) trivial
  obtain ⟨-, ⟨next, last, starting⟩, -⟩ := reachable.neighbours_follow_record
  refine ⟨reachable, (next _ _).2 ⟨?_, by decide, ?_⟩, (last _).2 ?_, ?_⟩
  · rw [regionAt_chain]
    rfl
  · intro other found beyond
    rw [regionAt_chain] at found
    split at found
    · rename_i here
      exact Int.le_of_eq here
    · split at found
      · omega
      · cases found
  · intro region found
    rw [regionAt_chain] at found
    split at found
    · omega
    · split at found
      · omega
      · cases found
  · rw [starting, regionAt_chain]
    rfl

end Space

end ImageAtlas
