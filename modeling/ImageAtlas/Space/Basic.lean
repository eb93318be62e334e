import ImageAtlas.AddressRow
import ImageAtlas.Notice
import ImageAtlas.Region.Table

/-!
# Address spaces

An address space is an image together with the regions already known in it and
the names bound to some of them. No two regions begin at the same address and
no name is bound twice. Regions and anchors keep the order in which their
addresses and names first came. The starts of the regions are kept in a row of
their own, in ascending order; questions about neighbours are answered from it.
-/

namespace ImageAtlas

/-- How pointers are recognised in an image: the address at which the image
begins for the program that reads it, the least destination that counts when
pointers are discovered, and whether they are to be discovered. -/
structure PointerRules where
  base : Nat := 0x08000000
  earliestAnchor : Nat := 0x200
  discover : Bool := true
deriving DecidableEq, Repr

/-- An image, its known regions, their starts in a row, and its anchors. -/
structure Space where
  image : Image
  codec : TextCodec := .ascii
  pointers : PointerRules := {}
  regions : RegionTable := {}
  starts : AddressRow := #[]
  anchors : List (String × Int) := []

/-- Binds a name in the place where it stands already, or at the end. -/
def bindAnchor (name : String) (address : Int) : List (String × Int) → List (String × Int)
  | [] => [(name, address)]
  | head :: tail =>
      if head.1 = name then (name, address) :: tail else head :: bindAnchor name address tail

namespace Space

/-- The region recorded at an address. -/
def regionAt (space : Space) (address : Int) : Option Region :=
  space.regions.get? address

/-- The regions in ascending order of their starts. -/
def ascending (space : Space) : List Region :=
  space.starts.toList.filterMap space.regionAt

/-- The first region that begins behind an address. -/
def nextAfter (space : Space) (address : Int) : Option Region :=
  (space.starts.next? address).bind space.regionAt

/-- The region that begins at an address, found as the next one behind the
address before. -/
def regionStartingAt (space : Space) (address : Int) : Option Region :=
  match space.nextAfter (address - 1) with
  | some region => if region.start = address then some region else none
  | none => none

/-- The address bound to a name. -/
def resolve (space : Space) (name : String) : Option Int :=
  (space.anchors.find? fun anchor => anchor.1 == name).map Prod.snd

/-- The names bound to an address, in the order in which they first came. -/
def anchorsAt (space : Space) (address : Int) : List String :=
  (space.anchors.filter fun anchor => anchor.2 == address).map Prod.fst

/-- The space with an address among the starts, where it is put unless a region
begins there already. -/
def addStart (space : Space) (address : Int) : Space :=
  match space.regionAt address with
  | some _ => space
  | none => { space with starts := space.starts.insert address }

/-- The space with a region in place of whatever began at its start. The row of
starts is left as it is. -/
def store (space : Space) (region : Region) : Space :=
  { space with regions := space.regions.put region }

/-- The space with a name bound to an address. -/
def bind (space : Space) (name : String) (address : Int) : Space :=
  { space with anchors := bindAnchor name address space.anchors }

end Space

/-- What an operation on a space leaves: how it ended, the space and the
notices. An operation that fails leaves what it had changed before. -/
structure Change (α : Type) where
  outcome : Except Fault α
  space : Space
  notices : List Notice := []

end ImageAtlas
