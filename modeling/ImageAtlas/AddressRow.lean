/-!
# Rows of addresses

A row of addresses in ascending order, in which a place is found by halving. A
row is told nothing about what it holds: it is kept ascending by those who put
addresses into it, each at its place and once.
-/

namespace ImageAtlas

/-- Addresses in a row. -/
abbrev AddressRow := Array Int

namespace AddressRow

/-- The place behind the addresses that do not exceed a given one, between two
places of the row. The places between them are halved until none is left. -/
def placeBetween (row : AddressRow) (address : Int) (low high : Nat)
    (inside : high ≤ row.size) : Nat :=
  if apart : low < high then
    let middle := (low + high) / 2
    have below : middle < high := by omega
    have within : middle < row.size := Nat.lt_of_lt_of_le below inside
    if address < row[middle] then placeBetween row address low middle (Nat.le_of_lt within)
    else placeBetween row address (middle + 1) high inside
  else low
termination_by high - low

/-- The place behind the addresses that do not exceed a given one. -/
def place (row : AddressRow) (address : Int) : Nat :=
  placeBetween row address 0 row.size (Nat.le_refl row.size)

/-- The place lies between those between which it is looked for. -/
theorem placeBetween_within (row : AddressRow) (address : Int) {low high : Nat}
    (inside : high ≤ row.size) (ordered : low ≤ high) :
    low ≤ placeBetween row address low high inside ∧
      placeBetween row address low high inside ≤ high := by
  fun_induction placeBetween row address low high inside with
  | case1 low high inside apart middle below within before inductionHypothesis =>
      have bounds := inductionHypothesis (by omega)
      omega
  | case2 low high inside apart middle below within behind inductionHypothesis =>
      have bounds := inductionHypothesis (by omega)
      omega
  | case3 low high inside together => omega

/-- A place is at most behind the last address. -/
theorem place_le_size (row : AddressRow) (address : Int) : row.place address ≤ row.size :=
  (placeBetween_within row address (Nat.le_refl row.size) (Nat.zero_le row.size)).2

/-- The row with one more address at its place. -/
def insert (row : AddressRow) (address : Int) : AddressRow :=
  row.insertIdx (row.place address) address (place_le_size row address)

/-- The first address behind a given one. -/
def next? (row : AddressRow) (address : Int) : Option Int :=
  row[row.place address]?

end AddressRow

end ImageAtlas
