import ImageAtlas.Proofs.Space.DerivedLength
import ImageAtlas.Proofs.Space.Pursuit

/-!
# Reachable spaces

The operations that change a space, and the spaces that any number of them can
lead to from one without regions and anchors. Which operations are permitted in
a space is left open: `Reachable` takes that as a parameter, so that a result on
disciplined runs and one on arbitrary runs are about the same relation. Every
reachable space is well formed, whatever is permitted.

An operation that fails leaves what it had changed before, and that space is
reachable as well.
-/

namespace ImageAtlas

/-- A change that can be asked of a space. -/
inductive Operation where
  | observe (region : Region)
  | writeAnchor (name : String) (region : Region)
  | addPointer (source : Int)
  | discoverPointers

namespace Space

/-- The space that an operation leaves. -/
def after (space : Space) : Operation → Space
  | .observe region => space.observe region
  | .writeAnchor name region => (space.writeAnchor name region).space
  | .addPointer source => (space.addPointer source).1
  | .discoverPointers => space.discoverPointers.space

/-- The spaces that permitted operations lead to, in any order and number, from
an image of which nothing is known. -/
inductive Reachable (permitted : Space → Operation → Prop) : Space → Prop where
  | initial (image : Image) (codec : TextCodec) (pointers : PointerRules) :
      Reachable permitted { image, codec, pointers }
  | step {space operation} (prior : Reachable permitted space)
      (allowed : permitted space operation) : Reachable permitted (space.after operation)

/-- Any operation may be asked for. -/
def anyOperation (_ : Space) (_ : Operation) : Prop :=
  True

/-- What holds of a space without regions and anchors and is preserved by every
permitted operation holds of all reachable spaces. -/
theorem Reachable.invariant {permitted : Space → Operation → Prop} {property : Space → Prop}
    (initial : ∀ image codec pointers, property { image, codec, pointers })
    (preserved : ∀ {space operation}, permitted space operation → property space →
      property (space.after operation))
    {space : Space} (reachable : Reachable permitted space) : property space := by
  induction reachable with
  | initial image codec pointers => exact initial image codec pointers
  | step _ allowed inductionHypothesis => exact preserved allowed inductionHypothesis

variable {space : Space}

/-- Marking a pointer keeps a space well formed. -/
theorem WellFormed.markPointer (wellFormed : space.WellFormed) (source : Int) :
    (space.markPointer source).WellFormed := by
  rw [Space.markPointer]
  split
  · exact wellFormed
  · exact wellFormed.observe _

/-- Registering a pointer keeps a space well formed. -/
theorem WellFormed.registerPointer (wellFormed : space.WellFormed) (source destination : Int) :
    (space.registerPointer source destination).WellFormed := by
  have marked := wellFormed.markPointer source
  rw [Space.registerPointer, addBackReference]
  split
  · exact marked.observe _
  · rename_i existing found
    refine marked.store ?_
    rw [Region.start_withBackReferences, marked.start_eq found, found]
    rfl

/-- While a count is passed on, the space is well formed, and the regions still to
be gone through begin where one is recorded. Arrays are then stored in place of
others only, so that the row of starts need not change. -/
structure Grounded (pursuit : Pursuit) : Prop where
  wellFormed : pursuit.space.WellFormed
  recorded : ∀ {anchor regions version}, .goThrough anchor regions ∈ pursuit.tasks →
    version ∈ regions → (pursuit.space.regionAt version.start).isSome

/-- The regions in order are recorded. -/
theorem WellFormed.isSome_of_mem_inOrder (wellFormed : space.WellFormed) {version : Region}
    (listed : version ∈ space.regions.inOrder) : (space.regionAt version.start).isSome := by
  rw [show space.regionAt version.start = some version from
    wellFormed.regions.mem_inOrder.1 listed]
  rfl

/-- Every move keeps the ground. -/
theorem Grounded.preserved {pursuit next : Pursuit} {taken : Option String}
    (move : Pursuit.Step pursuit taken next) (grounded : Grounded pursuit) : Grounded next := by
  cases move with
  | takeUp fresh =>
      refine ⟨grounded.wellFormed, ?_⟩
      intro other others version member listed
      rcases List.mem_cons.1 member with same | later
      · cases same
        exact grounded.wellFormed.isSome_of_mem_inOrder listed
      · exact grounded.recorded (List.mem_cons_of_mem _ later) listed
  | discard | finish =>
      exact ⟨grounded.wellFormed, fun member => grounded.recorded (List.mem_cons_of_mem _ member)⟩
  | pass | leave | keep =>
      refine ⟨grounded.wellFormed, ?_⟩
      intro other others version member listed
      rcases List.mem_cons.1 member with same | later
      · cases same
        exact grounded.recorded List.mem_cons_self (List.mem_cons_of_mem _ listed)
      · exact grounded.recorded (List.mem_cons_of_mem _ later) listed
  | @renew current untouched anchor version regions rest array refreshed dependent placed
      changed =>
      have known : (current.regionAt (Region.array refreshed).start).isSome := by
        have shape := (dependent?_eq_some_iff.1 dependent).1
        have start : (Region.array refreshed).start = version.start := by
          rw [shape]
          exact start_of_parseAt placed
        rw [start]
        exact grounded.recorded List.mem_cons_self List.mem_cons_self
      refine ⟨grounded.wellFormed.store known, ?_⟩
      intro other others candidate member listed
      refine (isSome_regionAt_store current _ _).2 (.inr ?_)
      rcases List.mem_append.1 member with inFront | behind
      · obtain ⟨_, _, same⟩ := List.mem_map.1 inFront
        cases same
      · rcases List.mem_cons.1 behind with same | later
        · cases same
          exact grounded.recorded List.mem_cons_self (List.mem_cons_of_mem _ listed)
        · exact grounded.recorded (List.mem_cons_of_mem _ later) listed

/-- The work on a written anchor begins on the ground. -/
theorem Grounded.ofAnchor (wellFormed : space.WellFormed) (name : String) (region : Region) :
    Grounded (.ofAnchor space name region) := by
  have anchored := wellFormed.anchoring name region
  refine ⟨anchored, ?_⟩
  intro other regions version member listed
  cases List.mem_singleton.1 member
  exact anchored.isSome_of_mem_inOrder listed

/-- Writing an anchor keeps a space well formed. -/
theorem WellFormed.writeAnchor (wellFormed : space.WellFormed) (name : String)
    (region : Region) : (space.writeAnchor name region).space.WellFormed := by
  obtain ⟨names, last, ended, moves, reached, -⟩ := space.writeAnchor_reaches name region
  rw [← reached]
  exact (moves.preserve Grounded Grounded.preserved
    (Grounded.ofAnchor wellFormed name region)).wellFormed

section Pointers

variable {property : Space → Prop}
  (kept : ∀ {space : Space} (source destination : Int), property space →
    property (space.registerPointer source destination))

include kept

/-- Adding a pointer preserves what registering one does. -/
theorem addPointer_preserves (held : property space) (source : Int) :
    property (space.addPointer source).1 := by
  rw [addPointer]
  split
  · exact held
  · exact kept _ _ held

/-- Discovering pointers preserves what registering one does. -/
theorem discoverPointers_preserves (held : property space) :
    property space.discoverPointers.space := by
  rw [discoverPointers]
  split
  · exact held
  · split
    · exact held
    · exact List.foldlRecOn _ _ held
        fun reached reachedHeld pointer _ => kept pointer.1 pointer.2 reachedHeld

end Pointers

/-- Every operation keeps a space well formed. -/
theorem WellFormed.after (wellFormed : space.WellFormed) (operation : Operation) :
    (space.after operation).WellFormed := by
  cases operation with
  | observe region => exact wellFormed.observe region
  | writeAnchor name region => exact wellFormed.writeAnchor name region
  | addPointer source =>
      exact addPointer_preserves
        (fun source destination held => held.registerPointer source destination) wellFormed source
  | discoverPointers =>
      exact discoverPointers_preserves
        (fun source destination held => held.registerPointer source destination) wellFormed

/-- Every reachable space is well formed. -/
theorem Reachable.wellFormed {permitted : Space → Operation → Prop}
    (reachable : Reachable permitted space) : space.WellFormed :=
  reachable.invariant .empty fun _ wellFormed => wellFormed.after _

end Space

end ImageAtlas
