/-!
# Sets of addresses

A finite set of addresses, kept as its strictly descending list: addresses
mostly come in ascending order, so that a new one stands in front. The list is
determined by the members, so equal sets are equal values.
-/

namespace ImageAtlas

/-- Puts an address at its place in a descending list that may hold it. -/
def insertDescending (address : Int) : List Int → List Int
  | [] => [address]
  | head :: tail =>
      if head < address then address :: head :: tail
      else if address = head then head :: tail
      else head :: insertDescending address tail

/-- Inserting adds one member and keeps the others. -/
theorem mem_insertDescending {address member : Int} {addresses : List Int} :
    member ∈ insertDescending address addresses ↔ member = address ∨ member ∈ addresses := by
  induction addresses with
  | nil => simp [insertDescending]
  | cons head tail inductionHypothesis =>
      simp only [insertDescending]
      split
      · simp
      · split
        · subst_vars; simp
        · simp [inductionHypothesis, or_left_comm]

/-- Inserting keeps a list strictly descending. -/
theorem insertDescending_descending {address : Int} {addresses : List Int}
    (descending : addresses.Pairwise (· > ·)) :
    (insertDescending address addresses).Pairwise (· > ·) := by
  induction addresses with
  | nil => simp [insertDescending]
  | cons head tail inductionHypothesis =>
      have tailDescending := List.pairwise_cons.1 descending
      simp only [insertDescending]
      split
      · rename_i before
        refine List.pairwise_cons.2 ⟨?_, descending⟩
        intro member memberOf
        rcases List.mem_cons.1 memberOf with rfl | inTail
        · exact before
        · exact Int.lt_trans (tailDescending.1 member inTail) before
      · split
        · exact descending
        · refine List.pairwise_cons.2 ⟨?_, inductionHypothesis tailDescending.2⟩
          intro member memberOf
          rcases mem_insertDescending.1 memberOf with rfl | inTail
          · omega
          · exact tailDescending.1 member inTail

/-- A finite set of addresses. -/
structure AddressSet where
  members : List Int
  descending : members.Pairwise (· > ·) := by simp
deriving DecidableEq, Repr

namespace AddressSet

instance : Membership Int AddressSet where
  mem set address := address ∈ set.members

instance (address : Int) (set : AddressSet) : Decidable (address ∈ set) :=
  inferInstanceAs (Decidable (address ∈ set.members))

/-- The set without members. -/
def empty : AddressSet where
  members := []

instance : EmptyCollection AddressSet := ⟨empty⟩

/-- A set with one more member. -/
def insert (set : AddressSet) (address : Int) : AddressSet where
  members := insertDescending address set.members
  descending := insertDescending_descending set.descending

/-- The set of the addresses in a list. -/
def ofList (addresses : List Int) : AddressSet :=
  addresses.foldl insert empty

/-- The members in ascending order. -/
def toList (set : AddressSet) : List Int :=
  set.members.reverse

/-- Whether a set has no members. -/
def isEmpty (set : AddressSet) : Bool :=
  set.members.isEmpty

/-- The number of members. -/
def size (set : AddressSet) : Nat :=
  set.members.length

/-- The list of a set is strictly ascending. -/
theorem ascending_toList (set : AddressSet) : set.toList.Pairwise (· < ·) :=
  List.pairwise_reverse.2 set.descending

/-- Membership is membership in the ascending list. -/
theorem mem_iff {set : AddressSet} {address : Int} : address ∈ set ↔ address ∈ set.toList :=
  List.mem_reverse.symm

/-- The members after an insertion. -/
@[simp] theorem mem_insert {set : AddressSet} {address member : Int} :
    member ∈ set.insert address ↔ member = address ∨ member ∈ set :=
  mem_insertDescending

end AddressSet

end ImageAtlas
