import ImageAtlas.Profile.Basic
import ImageAtlas.Space.Anchoring
import ImageAtlas.Space.Search
import ImageAtlas.Trace.Basic

/-!
# Discovery

Finds well-known structures in an image that nobody has annotated: reads the
game code, records the pointers, anchors the text fields of the header and
searches for each name array in turn. Searching twice for the same format
finds two arrays, since the first is no candidate any more once it is anchored.

A tracer may follow a discovery. It is told of every step and changes nothing.
-/

namespace ImageAtlas

/-- Why a discovery stopped. -/
inductive DiscoveryFault where
  | space (fault : Fault)
  | trace (fault : TraceFault)

/-- How far a discovery has come. -/
structure DiscoveryState where
  space : Space
  tracer : Tracer
  clock : Clock
  notices : List Notice := []

/-- A part of a discovery. What was changed before a fault stays changed. -/
abbrev Discovery (α : Type) := EStateM DiscoveryFault DiscoveryState α

/-- The anchored regions by name, in the order in which the names first came. -/
abbrev Found := List (String × Region)

/-- The found regions with one more under its name. -/
def Found.put (name : String) (region : Region) : Found → Found
  | [] => [(name, region)]
  | head :: tail =>
      if head.1 = name then (name, region) :: tail else head :: Found.put name region tail

/-- The found regions with others added one by one. -/
def Found.update (found others : Found) : Found :=
  others.foldl (fun found entry => Found.put entry.1 entry.2 found) found

namespace Discovery

/-- The code of the game to which an image belongs. -/
def gameCode (profile : Profile) (space : Space) : String :=
  space.image.ascii profile.gameCodeAddress 4

/-- Whether an image belongs to a supported game. -/
def isSupported (profile : Profile) (space : Space) : Bool :=
  profile.supportedCodes.contains (gameCode profile space)

/-- Gives a notice. -/
def note (notice : Notice) : Discovery Unit :=
  modify fun state => { state with notices := state.notices ++ [notice] }

/-- Tells the tracer. An enabled tracer reads the clock once. -/
def tell (happening : Happening) : Discovery Unit := do
  let state ← get
  if state.tracer.enabled then set { state with clock := state.clock.tick }
  match state.tracer.trace state.clock.now happening.type happening.data with
  | .error fault => throw (.trace fault)
  | .ok tracer => modify fun state => { state with tracer }

/-- Runs a part as a step of the trace. The context is put back however the
part ends. -/
def inStep (context : String) (part : Discovery α) : Discovery α := fun state =>
  let back (ended : DiscoveryState) : DiscoveryState :=
    { ended with tracer := ended.tracer.leave state.tracer.context }
  match part { state with tracer := state.tracer.enter (.text context) } with
  | .ok result ended => .ok result (back ended)
  | .error fault ended => .error fault (back ended)

/-- Takes over what an operation on the space leaves. -/
def carryOut (operation : Space → Change α) : Discovery α := do
  let state ← get
  let change := operation state.space
  set { state with space := change.space, notices := state.notices ++ change.notices }
  match change.outcome with
  | .ok result => pure result
  | .error fault => throw (.space fault)

/-- Anchors a region under a name. -/
def anchor (name : String) (region : Region) : Discovery Region := do
  let recorded ← carryOut fun space => space.writeAnchor name region
  tell (.anchor (.text name) (.integer recorded.start) (.text recorded.kind.name))
  note (.regionAnchored name recorded.start)
  pure recorded

/-- Adds a pointer that is listed for a game. It is trusted only if its highest
byte is that of the base. -/
def addExtraPointer (profile : Profile) (source : Int) : Discovery Unit := do
  let state ← get
  let highByte := profile.pointers.base / 0x1000000 % 0x100
  if state.space.image.size ≤ source + 3 then pure ()
  else
    match state.space.image.byteAt (source + 3) with
    | .error fault => throw (.space fault)
    | .ok byte =>
        if byte.toNat ≠ highByte then pure ()
        else
          let (space, added) := state.space.addPointer source
          set { state with space }
          if added then note (.extraPointerAdded source)

/-- Adds the pointers that are listed for the game. -/
def addExtraPointers (profile : Profile) (code : String) : Discovery Unit :=
  match profile.game? code with
  | none => pure ()
  | some game => game.extraPointers.forM (addExtraPointer profile)

/-- Records the pointers. They are discovered only in a space without regions. -/
def recordPointers (profile : Profile) (code : String) : Discovery Unit :=
  inStep "pointers" do
    let state ← get
    if state.space.regions.isEmpty && profile.pointers.discover then
      let count ← carryOut Space.discoverPointers
      tell (.pointers (.integer count))
    addExtraPointers profile code

/-- Anchors the header fields one after the other. -/
def anchorFields (found : Found) : List HeaderField → Discovery Found
  | [] => pure found
  | field :: rest => do
      let region ←
        anchor field.name
          (.known { start := field.address, length := field.length, kind := .ascii })
      anchorFields (Found.put field.name region found) rest

/-- Anchors the header fields of a game. -/
def decodeHeader (profile : Profile) (code : String) : Discovery Found :=
  inStep "header" (anchorFields [] (profile.headerFor code))

/-- Searches for an array and anchors it when it is found. -/
def findArray (array : NameArray) : Discovery (Option Region) :=
  inStep array.anchor do
    tell (.searchStart (.text array.format))
    let state ← get
    let report := state.space.search array.format
    set { state with notices := state.notices ++ report.notices }
    match report.value with
    | .error fault => throw (.space fault)
    | .ok report => do
        report.progress.forM fun run => tell (.candidate (.integer run.1) (.integer run.2))
        match report.hit with
        | none => do
            note (.arrayMissing array.anchor array.format)
            tell (.exhausted (.text array.format))
            pure none
        | some hit => do
            tell (.found (.text array.format) (.integer hit.start) (.integer hit.count))
            let region ← anchor array.anchor (.array hit)
            pure (some region)

/-- Searches for arrays one after the other. -/
def findArrays (found : Found) : List NameArray → Discovery Found
  | [] => pure found
  | array :: rest => do
      match ← findArray array with
      | none => findArrays found rest
      | some region => findArrays (Found.put array.anchor region found) rest

/-- Searches for the name arrays of a game. -/
def decodeNameArrays (profile : Profile) (code : String) : Discovery Found :=
  findArrays [] (profile.arraysFor code)

/-- Discovers all that the profile lists for a game. An unsupported image is
left as it is. -/
def run (profile : Profile) (code : String) : Discovery Found := do
  if !profile.supportedCodes.contains code then
    note (.gameUnsupported code)
    pure []
  else
    recordPointers profile code
    let header ← decodeHeader profile code
    let arrays ← decodeNameArrays profile code
    let found := Found.update header arrays
    note (.discoveryEnded found.length code)
    pure found

end Discovery

end ImageAtlas
