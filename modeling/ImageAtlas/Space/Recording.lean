import ImageAtlas.Space.Basic

/-!
# Recording regions and pointers

A region that is recorded replaces the one that began at its start; it takes
over the back-references of that one when it has none of its own. A pointer is
recorded as a region of four bytes at its source, unless an array begins there,
and as a back-reference of the region at its destination.
-/

namespace ImageAtlas.Space

/-- The number of bytes of a pointer. -/
def pointerSize : Nat := 4

/-- The region that is recorded when `region` is observed. -/
def inheriting (space : Space) (region : Region) : Region :=
  match space.regionAt region.start with
  | none => region
  | some existing =>
      if !existing.backReferences.isEmpty && region.backReferences.isEmpty then
        region.withBackReferences existing.backReferences
      else region

/-- Records a region. -/
def observe (space : Space) (region : Region) : Space :=
  let recorded := space.inheriting region
  (space.addStart region.start).store recorded

/-- Where the pointer at an address leads, if there is one: the number in the four
bytes there less the base, if that is an address in the image. -/
def readPointer (space : Space) (address : Int) : Option Int :=
  if address < 0 ∨ space.image.size < address + pointerSize then none
  else
    let bytes := space.image.slice address (address + pointerSize)
    let destination : Int := Image.littleEndian bytes.toList - space.pointers.base
    if 0 ≤ destination ∧ destination < space.image.size then some destination else none

/-- Records the pointer region at a source, unless an array begins there. -/
def markPointer (space : Space) (source : Int) : Space :=
  match space.regionAt source with
  | some (.array _) => space
  | _ => space.observe (.known { start := source, length := pointerSize, kind := .pointer })

/-- Adds a back-reference to the region at a destination; where there is none,
a region without further information is recorded. -/
def addBackReference (space : Space) (source destination : Int) : Space :=
  match space.regionAt destination with
  | none =>
      let backReferences := AddressSet.empty.insert source
      space.observe (.known { start := destination, backReferences })
  | some existing =>
      space.store (existing.withBackReferences (existing.backReferences.insert source))

/-- Records a pointer at both its ends. -/
def registerPointer (space : Space) (source destination : Int) : Space :=
  (space.markPointer source).addBackReference source destination

/-- Records the pointer at a source and says whether there is one. -/
def addPointer (space : Space) (source : Int) : Space × Bool :=
  match space.readPointer source with
  | none => (space, false)
  | some destination => (space.registerPointer source destination, true)

/-- How far a word lies behind the base, computed in words of 64 bits with a sign. -/
def target (space : Space) (word : Nat) : Int64 :=
  Int64.ofNat word - Int64.ofNat space.pointers.base

/-- The pointers with an allowed destination among the whole words of the image, by
source. -/
def alignedPointers (space : Space) : List (Int × Int) :=
  let words := space.image.wholeWords
  (List.range (words.size / pointerSize)).filterMap fun index =>
    let source := pointerSize * index
    let target := (space.target (words.wordAt source)).toInt
    if space.pointers.earliestAnchor ≤ target ∧ target < space.image.size then
      some (source, target)
    else none

/-- Records all aligned pointers with an allowed destination and counts them.
Destinations are computed in words of 64 bits with a sign, which have to hold
the base. -/
def discoverPointers (space : Space) : Change Nat :=
  if space.image.wholeWords.isEmpty then { outcome := .ok 0, space }
  else if wordBound ≤ space.pointers.base then { outcome := .error .overflow, space }
  else
    let found := space.alignedPointers
    { outcome := .ok found.length
      space :=
        found.foldl (fun reached pointer => reached.registerPointer pointer.1 pointer.2) space
      notices := [.pointersDiscovered found.length] }

end ImageAtlas.Space
