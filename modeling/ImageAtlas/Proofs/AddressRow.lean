import ImageAtlas.AddressRow

/-!
# Ascending rows

In an ascending row the place found by halving parts the addresses: those up to
the given one stand before it, the others from it on. `Ascending.insert` puts a
new address where the row stays ascending, and `next?_eq_some_iff` says that the
next address is the least one beyond.
-/

namespace ImageAtlas

namespace AddressRow

/-- Every address of a row is less than those behind it. -/
def Ascending (row : AddressRow) : Prop :=
  row.toList.Pairwise (· < ·)

variable {row : AddressRow} {address : Int}

/-- A row without addresses is ascending. -/
theorem Ascending.empty : Ascending #[] :=
  List.Pairwise.nil

/-- A row is ascending when its addresses grow with their places. -/
theorem ascending_iff :
    row.Ascending ↔ ∀ {first second} (_ : first < second) (within : second < row.size),
      row[first] < row[second] := by
  rw [Ascending, List.pairwise_iff_getElem]
  simp only [Array.length_toList, Array.getElem_toList]
  constructor
  · intro ordered first second before within
    exact ordered first second (Nat.lt_trans before within) within before
  · intro ordered first second _ within before
    exact ordered before within

/-- What is known of the places outside those between which is searched: the
addresses before `low` do not exceed the given one, those from `high` on do. -/
structure Parted (row : AddressRow) (address : Int) (low high : Nat) : Prop where
  upTo : ∀ {index} (within : index < row.size), index < low → row[index] ≤ address
  beyond : ∀ {index} (within : index < row.size), high ≤ index → address < row[index]

/-- Halving parts an ascending row at the place that is found. -/
theorem Ascending.parted_placeBetween (ascending : row.Ascending) {low high : Nat}
    (inside : high ≤ row.size) (ordered : low ≤ high) (parted : row.Parted address low high) :
    row.Parted address (placeBetween row address low high inside)
      (placeBetween row address low high inside) := by
  fun_induction placeBetween row address low high inside with
  | case1 low high inside apart middle below within before inductionHypothesis =>
      refine inductionHypothesis (by omega) ⟨parted.upTo, ?_⟩
      intro index indexWithin atLeast
      rcases Nat.lt_or_eq_of_le atLeast with behind | rfl
      · exact Int.lt_trans before (ascending_iff.1 ascending behind indexWithin)
      · exact before
  | case2 low high inside apart middle below within notBefore inductionHypothesis =>
      refine inductionHypothesis (by omega) ⟨?_, parted.beyond⟩
      intro index indexWithin atMost
      have upTo : row[middle] ≤ address := Int.not_lt.1 notBefore
      rcases Nat.lt_or_eq_of_le (Nat.lt_succ_iff.1 atMost) with ahead | rfl
      · exact Int.le_trans (Int.le_of_lt (ascending_iff.1 ascending ahead within)) upTo
      · exact upTo
  | case3 low high inside together =>
      have same : low = high := by omega
      subst same
      exact parted

/-- The place of an address parts an ascending row. -/
theorem Ascending.parted_place (ascending : row.Ascending) (address : Int) :
    row.Parted address (row.place address) (row.place address) := by
  refine ascending.parted_placeBetween (Nat.le_refl row.size) (Nat.zero_le row.size) ⟨?_, ?_⟩
  · intro index _ negative
    omega
  · intro index within behind
    omega

/-- An insertion adds one address and keeps the others. -/
theorem mem_insert {member : Int} :
    member ∈ row.insert address ↔ member = address ∨ member ∈ row :=
  Array.mem_insertIdx

/-- A new address is put where an ascending row stays ascending. -/
theorem Ascending.insert (ascending : row.Ascending) (absent : address ∉ row) :
    (row.insert address).Ascending := by
  have parted := ascending.parted_place address
  have before : ∀ {index} (within : index < row.size), index < row.place address →
      row[index] < address := by
    intro index within ahead
    have different : row[index] ≠ address := fun same =>
      absent (same ▸ Array.getElem_mem within)
    exact Int.lt_iff_le_and_ne.2 ⟨parted.upTo within ahead, different⟩
  rw [ascending_iff]
  intro first second earlier within
  have size : (row.insert address).size = row.size + 1 := Array.size_insertIdx _
  rw [size] at within
  simp only [AddressRow.insert, Array.getElem_insertIdx]
  split
  · rename_i firstAhead
    split
    · exact ascending_iff.1 ascending earlier _
    · split
      · exact before _ firstAhead
      · exact Int.lt_trans (before _ firstAhead) (parted.beyond _ (by omega))
  · rename_i firstBehind
    -- The second address stands behind the new one, where it was one place earlier.
    rw [dif_neg (show ¬ second < row.place address by omega),
      dif_neg (show second ≠ row.place address by omega)]
    split
    · exact parted.beyond _ (by omega)
    · exact ascending_iff.1 ascending (by omega) _

/-- The next address is the least one beyond. -/
theorem Ascending.next?_eq_some_iff (ascending : row.Ascending) {next : Int} :
    row.next? address = some next ↔
      next ∈ row ∧ address < next ∧ ∀ other ∈ row, address < other → next ≤ other := by
  have parted := ascending.parted_place address
  rw [next?, Array.getElem?_eq_some_iff]
  constructor
  · rintro ⟨within, rfl⟩
    refine ⟨Array.getElem_mem within, parted.beyond within (Nat.le_refl _), ?_⟩
    intro other member otherBeyond
    obtain ⟨index, indexWithin, rfl⟩ := Array.getElem_of_mem member
    rcases Nat.lt_trichotomy index (row.place address) with ahead | rfl | behind
    · have upTo := parted.upTo indexWithin ahead
      omega
    · exact Int.le_refl _
    · exact Int.le_of_lt (ascending_iff.1 ascending behind indexWithin)
  · rintro ⟨member, beyond, least⟩
    obtain ⟨index, indexWithin, rfl⟩ := Array.getElem_of_mem member
    have notAhead : ¬ index < row.place address := fun ahead =>
      Int.not_le.2 beyond (parted.upTo indexWithin ahead)
    have within : row.place address < row.size := by omega
    refine ⟨within, ?_⟩
    rcases Nat.lt_or_eq_of_le (Nat.not_lt.1 notAhead) with behind | same
    · have ahead := ascending_iff.1 ascending behind indexWithin
      have placeBeyond := parted.beyond within (Nat.le_refl _)
      have later := least _ (Array.getElem_mem within) placeBeyond
      omega
    · simp [same]

/-- There is no next address when none lies beyond. -/
theorem Ascending.next?_eq_none_iff (ascending : row.Ascending) :
    row.next? address = none ↔ ∀ other ∈ row, other ≤ address := by
  have parted := ascending.parted_place address
  rw [next?, Array.getElem?_eq_none_iff]
  constructor
  · intro past other member
    obtain ⟨index, within, rfl⟩ := Array.getElem_of_mem member
    exact parted.upTo within (Nat.lt_of_lt_of_le within past)
  · intro upTo
    refine Nat.not_lt.1 fun within => ?_
    have beyond := parted.beyond within (Nat.le_refl _)
    exact Int.not_le.2 beyond (upTo _ (Array.getElem_mem within))

/-- Two ascending rows with the same addresses beyond a given one have the same next
address. -/
theorem Ascending.next?_congr {other : AddressRow} (ascending : row.Ascending)
    (otherAscending : other.Ascending)
    (same : ∀ beyond, address < beyond → (beyond ∈ other ↔ beyond ∈ row)) :
    other.next? address = row.next? address := by
  refine Option.ext fun next => ?_
  rw [otherAscending.next?_eq_some_iff, ascending.next?_eq_some_iff]
  constructor
  · rintro ⟨member, beyond, least⟩
    refine ⟨(same next beyond).1 member, beyond, ?_⟩
    exact fun later held laterBeyond => least later ((same later laterBeyond).2 held) laterBeyond
  · rintro ⟨member, beyond, least⟩
    refine ⟨(same next beyond).2 member, beyond, ?_⟩
    exact fun later held laterBeyond => least later ((same later laterBeyond).1 held) laterBeyond

end AddressRow

end ImageAtlas
