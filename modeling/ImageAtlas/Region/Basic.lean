import ImageAtlas.AddressSet
import ImageAtlas.Element

/-!
# Regions

A region is an occupied range of an image whose start is known, together with
the addresses of the pointers that lead to it. An array region repeats the
element of a schema; a known region is anything else.
-/

namespace ImageAtlas

/-- What is known about a region: nothing but that something leads there, a
pointer, ASCII text, or an array. -/
inductive RegionKind where
  | noInfo
  | pointer
  | ascii
  | array
deriving DecidableEq, Repr

namespace RegionKind

/-- The name of a region kind. -/
def name : RegionKind → String
  | noInfo => "no_info"
  | pointer => "pointer"
  | ascii => "ascii"
  | array => "array"

/-- The region kind of a name. -/
def ofName? : String → Option RegionKind
  | "no_info" => some noInfo
  | "pointer" => some pointer
  | "ascii" => some ascii
  | "array" => some array
  | _ => none

end RegionKind

/-- A region that is not an array. -/
structure KnownRegion where
  start : Int
  length : Int := 1
  kind : RegionKind := .noInfo
  backReferences : AddressSet := ∅
deriving DecidableEq, Repr

/-- A repeating structure at a fixed address. It has at least one segment. -/
structure ArrayRegion where
  start : Int
  schemaText : String
  layout : Layout
  lengthRule : LengthRule
  count : Nat
  backReferences : AddressSet := ∅
  layout_ne_nil : layout ≠ []
deriving DecidableEq, Repr

namespace ArrayRegion

/-- Places a layout at an address, unless it has no segments or the count is
negative. A negative count is noticed first. -/
def ofParts (start : Int) (schemaText : String) (layout : Layout) (lengthRule : LengthRule)
    (count : Int) (backReferences : AddressSet) : Except Fault ArrayRegion :=
  if count < 0 then .error (.negativeCount count)
  else if nonempty : layout = [] then .error .noSegments
  else
    .ok
      { start, schemaText, layout, lengthRule, count := count.toNat, backReferences
        layout_ne_nil := nonempty }

/-- The number of bytes of one element. -/
def elementLength (region : ArrayRegion) : Int :=
  region.layout.width

/-- The number of bytes of all elements. -/
def length (region : ArrayRegion) : Int :=
  region.elementLength * region.count

/-- The address behind the last element. -/
def stop (region : ArrayRegion) : Int :=
  region.start + region.length

/-- Where an element begins. -/
def elementAddress (region : ArrayRegion) (index : Int) : Int :=
  region.start + index * region.elementLength

/-- The same array with `more` further elements. -/
def extend (region : ArrayRegion) (more : Int) : Except Fault ArrayRegion :=
  if region.count + more < 0 then .error (.negativeCount (region.count + more))
  else .ok { region with count := (region.count + more).toNat }

/-- The same array at another address. -/
def relocate (region : ArrayRegion) (start : Int) : ArrayRegion :=
  { region with start }

/-- The same array with other back-references. -/
def withBackReferences (region : ArrayRegion) (backReferences : AddressSet) : ArrayRegion :=
  { region with backReferences }

/-- The report of an array region. -/
def report (region : ArrayRegion) : String :=
  "ArrayRegion(" ++ Text.address region.start ++ ", " ++ Text.quoted region.schemaText
    ++ ", count=" ++ Text.decimal region.count ++ ", length=" ++ Text.decimal region.length
    ++ ")"

end ArrayRegion

/-- The report of a known region. -/
def KnownRegion.report (region : KnownRegion) : String :=
  "KnownRegion(" ++ Text.address region.start ++ ", " ++ region.kind.name ++ ", length="
    ++ Text.decimal region.length ++ ", refs=" ++ Text.decimal region.backReferences.size
    ++ ")"

/-- An occupied range of an image. -/
inductive Region where
  | known (region : KnownRegion)
  | array (region : ArrayRegion)
deriving DecidableEq, Repr

namespace Region

/-- Where a region begins. -/
def start : Region → Int
  | known region => region.start
  | array region => region.start

/-- The number of bytes of a region. -/
def length : Region → Int
  | known region => region.length
  | array region => region.length

/-- The addresses of the pointers to a region. -/
def backReferences : Region → AddressSet
  | known region => region.backReferences
  | array region => region.backReferences

/-- What is known about a region. -/
def kind : Region → RegionKind
  | known region => region.kind
  | array _ => .array

/-- Whether a region is an array. -/
def isArray : Region → Bool
  | known _ => false
  | array _ => true

/-- The number of elements of an array. -/
def count? : Region → Option Nat
  | known _ => none
  | array region => some region.count

/-- The same region with other back-references. -/
def withBackReferences : Region → AddressSet → Region
  | known region, backReferences => known { region with backReferences }
  | array region, backReferences => array (region.withBackReferences backReferences)

/-- The report of a region. -/
def report : Region → String
  | known region => region.report
  | array region => region.report

/-- Other back-references leave a region where it was. -/
@[simp] theorem start_withBackReferences (region : Region) (backReferences : AddressSet) :
    (region.withBackReferences backReferences).start = region.start := by
  cases region <;> rfl

/-- The back-references of a region that was given them. -/
@[simp] theorem backReferences_withBackReferences (region : Region)
    (backReferences : AddressSet) :
    (region.withBackReferences backReferences).backReferences = backReferences := by
  cases region <;> rfl

end Region

end ImageAtlas
