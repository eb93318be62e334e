import ImageAtlas.Region.Basic

/-!
# Coordinates inside an array

An address inside an array falls into one element, one of its segments and a
place within that segment. A segment of no bytes holds no address.
-/

namespace ImageAtlas

/-- Where an address falls inside an array. -/
structure ArrayOffset where
  elementIndex : Int
  segmentIndex : Nat
  segmentStart : Int
  segmentOffset : Int
deriving DecidableEq, Repr

namespace Layout

/-- The segment into which an offset from the start of an element falls, and
the place within it. -/
def locate : Layout → Int → Nat × Int
  | [], offset => (0, offset)
  | segment :: rest, offset =>
      if offset < segment.length then (0, offset)
      else
        let (index, place) := locate rest (offset - segment.length)
        (index + 1, place)

end Layout

namespace ArrayRegion

/-- Translates an address into element and segment coordinates. -/
def toOffset (region : ArrayRegion) (address : Int) : Except Fault ArrayOffset :=
  if region.start ≤ address ∧ address < region.stop then
    let relative := address - region.start
    let (segmentIndex, segmentOffset) :=
      region.layout.locate (relative.fmod region.elementLength)
    .ok
      { elementIndex := relative.fdiv region.elementLength
        segmentIndex
        segmentStart := address - segmentOffset
        segmentOffset }
  else .error (.outsideArray address region.start region.stop)

end ArrayRegion

end ImageAtlas
