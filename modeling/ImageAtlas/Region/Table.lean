import ImageAtlas.Region.Basic
import Std.Data.TreeMap

/-!
# Tables of regions

The regions that are known, each found by its start. No two of them begin at
the same address. A table remembers the order in which the starts first came;
a region that takes the place of another takes over its turn.
-/

namespace ImageAtlas

/-- Regions by their starts, and the starts, the latest first. -/
structure RegionTable where
  byStart : Std.TreeMap Int Region := ∅
  starts : List Int := []

namespace RegionTable

/-- The region at an address. -/
def get? (table : RegionTable) (address : Int) : Option Region :=
  table.byStart[address]?

/-- The table with a region in place of whatever began at its start. -/
def put (table : RegionTable) (region : Region) : RegionTable where
  byStart := table.byStart.insert region.start region
  starts := if (table.get? region.start).isSome then table.starts else region.start :: table.starts

/-- The regions in the order in which their starts first came. -/
def inOrder (table : RegionTable) : List Region :=
  table.starts.reverse.filterMap table.get?

/-- The number of regions. -/
def size (table : RegionTable) : Nat :=
  table.byStart.size

/-- Whether there are no regions. -/
def isEmpty (table : RegionTable) : Bool :=
  table.byStart.isEmpty

/-- A table without entries has no regions. -/
@[simp] theorem get?_empty (address : Int) : ({} : RegionTable).get? address = none := by
  simp [get?]

/-- Putting a region changes what is found at its start alone. -/
theorem get?_put (table : RegionTable) (region : Region) (address : Int) :
    (table.put region).get? address
      = if region.start = address then some region else table.get? address := by
  simp [get?, put, Std.TreeMap.getElem?_insert]

end RegionTable

end ImageAtlas
