import ImageAtlas.Schema.Reader
import ImageAtlas.Space.Basic

/-!
# Placing a schema

How many elements an array placed at an address has, and the array that a
schema text describes there. A derived length is the count of the array that
begins where the anchor leads; it is zero as long as there is none.
-/

namespace ImageAtlas.Space

/-- The address before which an array placed at `address` has to end: the start
of the next known region, or the end of the image. -/
def boundAfter (space : Space) (address : Int) : Int :=
  match space.nextAfter address with
  | some region => region.start
  | none => space.image.size

/-- The number of elements that an anchor gives. -/
def anchoredCount (space : Space) (anchor : String) : Noted Nat :=
  match space.resolve anchor with
  | none => .note (.lengthAnchorUnknown anchor) 0
  | some address =>
      match space.regionStartingAt address with
      | some (.array region) => pure region.count
      | _ => .note (.lengthAnchorNoArray anchor address) 0

/-- How many elements an array placed at an address has under a length rule. -/
def resolveLength (space : Space) (rule : LengthRule) (layout : Layout) (address : Int) :
    Noted (Except Fault Int) :=
  match rule with
  | .fixed count => pure (.ok count)
  | .impliedByNextRun =>
      match layout.countBefore space.codec space.image address (space.boundAfter address) with
      | .error fault => pure (.error fault)
      | .ok count => pure (.ok count)
  | .derivedFromAnchor anchor => do
      let count ← space.anchoredCount anchor
      pure (.ok count)
  | .unsupported => pure (.error .unsupportedLength)

/-- The back-references of the region that begins at an address. -/
def backReferencesAt (space : Space) (address : Int) : AddressSet :=
  match space.regionStartingAt address with
  | some region => region.backReferences
  | none => ∅

/-- The array that a schema text describes at an address. Back-references that
are not given are those of the region that begins there. -/
def parseAt (space : Space) (text : String) (address : Int)
    (backReferences : Option AddressSet) : Noted (Except Fault ArrayRegion) :=
  match Schema.read text with
  | .error refusal => pure (.error (.schema refusal))
  | .ok schema => do
      match ← space.resolveLength schema.length schema.layout address with
      | .error fault => pure (.error fault)
      | .ok count =>
          pure (ArrayRegion.ofParts address text schema.layout schema.length count
            (backReferences.getD (space.backReferencesAt address)))

end ImageAtlas.Space
