import ImageAtlas.AddressSet

/-!
# Sets of addresses by their members

A set of addresses is its strictly descending list, so two sets with the same
members are one set. Unions are formed by inserting; the laws of a semilattice
follow from what their members are.
-/

namespace ImageAtlas

namespace AddressSet

variable {set other : AddressSet} {address : Int}

/-- Sets with the same members are equal. -/
@[ext] theorem ext (same : ∀ address, address ∈ set ↔ address ∈ other) : set = other := by
  obtain ⟨members, descending⟩ := set
  obtain ⟨otherMembers, otherDescending⟩ := other
  have permuted : members.Perm otherMembers := by
    rw [List.perm_ext_iff_of_nodup (descending.imp fun later => (Int.ne_of_lt later).symm)
      (otherDescending.imp fun later => (Int.ne_of_lt later).symm)]
    exact same
  have equal : members = otherMembers := by
    refine permuted.eq_of_pairwise ?_ descending otherDescending
    intro first second _ _ greater less
    omega
  subst equal
  rfl

/-- The empty set is written as such. -/
@[simp] theorem empty_eq : empty = ∅ :=
  rfl

/-- The empty set has no members. -/
@[simp] theorem not_mem_empty : ¬ address ∈ (∅ : AddressSet) :=
  List.not_mem_nil

/-- The empty set is found empty. -/
@[simp] theorem isEmpty_empty : (∅ : AddressSet).isEmpty = true :=
  rfl

/-- A set is empty when it has no members. -/
theorem isEmpty_iff : set.isEmpty = true ↔ ∀ address, ¬ address ∈ set := by
  rw [isEmpty, List.isEmpty_iff]
  exact List.eq_nil_iff_forall_not_mem

/-- The members of one set or another. -/
def union (set other : AddressSet) : AddressSet :=
  other.members.foldl insert set

instance : Union AddressSet := ⟨union⟩

/-- Inserting the addresses of a list adds these and no others. -/
theorem mem_foldl_insert {addresses : List Int} :
    address ∈ addresses.foldl insert set ↔ address ∈ set ∨ address ∈ addresses := by
  induction addresses generalizing set with
  | nil => simp
  | cons first rest inductionHypothesis =>
      rw [List.foldl_cons, inductionHypothesis, mem_insert, List.mem_cons, or_assoc,
        or_left_comm]

/-- The members of a union. -/
@[simp] theorem mem_union : address ∈ set ∪ other ↔ address ∈ set ∨ address ∈ other :=
  mem_foldl_insert

/-- The set of a list has the members of the list. -/
@[simp] theorem mem_ofList {addresses : List Int} :
    address ∈ ofList addresses ↔ address ∈ addresses := by
  rw [ofList, mem_foldl_insert]
  exact or_iff_right not_mem_empty

/-- Unions do not depend on how they are bracketed. -/
theorem union_assoc (set other third : AddressSet) :
    set ∪ other ∪ third = set ∪ (other ∪ third) := by
  ext address
  simp [or_assoc]

/-- The empty set adds nothing. -/
@[simp] theorem union_empty (set : AddressSet) : set ∪ ∅ = set := by
  ext address
  simp

/-- Nothing is added to what it is added to. -/
@[simp] theorem empty_union (set : AddressSet) : ∅ ∪ set = set := by
  ext address
  simp

/-- Inserting an address adds the set of this address. -/
theorem insert_eq_union (set : AddressSet) (address : Int) :
    set.insert address = set ∪ empty.insert address := by
  ext member
  simp [or_comm]

/-- A union is empty when both sets are. -/
theorem isEmpty_union : (set ∪ other).isEmpty = (set.isEmpty && other.isEmpty) := by
  rw [Bool.eq_iff_iff, Bool.and_eq_true, isEmpty_iff, isEmpty_iff, isEmpty_iff]
  simp only [mem_union, not_or]
  exact forall_and

/-- A set without members is the empty one. -/
theorem eq_empty_of_isEmpty (none : set.isEmpty = true) : set = ∅ := by
  ext address
  exact iff_of_false (isEmpty_iff.1 none address) not_mem_empty

end AddressSet

end ImageAtlas
