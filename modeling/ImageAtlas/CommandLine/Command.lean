import ImageAtlas.CommandLine.Files
import ImageAtlas.CommandLine.Invocation
import ImageAtlas.Discovery
import ImageAtlas.Profile.Reading
import ImageAtlas.Region.Coordinates
import ImageAtlas.Region.Listing
import ImageAtlas.Text.Utf8
import ImageAtlas.Toml.Document
import ImageAtlas.Trace.File

/-!
# Carrying out a command

What the program prints, which notices it shows, which file it writes and how
it ends, as a function of its arguments and the files it can reach. A fault of
the input is printed and ends a command with status one; other faults end the
program where they arise.
-/

namespace ImageAtlas.CommandLine

/-- Why a command could not be carried out. -/
inductive CommandFault where
  | file (fault : FileFault) (path : String)
  | imageMissing (path : String)
  | undecodable (fault : Text.Utf8Fault)
  | profileUnreadable (refusal : Toml.Refusal)
  | profileInvalid (issues : List Issue)
  | schemaMissing
  | valueMissing (option : String)
  | space (fault : Fault)
  | trace (fault : TraceFault)

namespace CommandFault

/-- What a fault reports. -/
def message : CommandFault → String
  | file fault path => fault.message path
  | imageMissing path => "Image file not found: " ++ path
  | undecodable fault => fault.message
  | profileUnreadable .malformed => "Invalid profile file"
  | profileUnreadable (.numeralTooLong characters) => Text.numeralTooLong characters
  | profileInvalid issues => Issue.report Profile.modelName issues
  | schemaMissing => ""
  | valueMissing _ => ""
  | space fault => fault.message
  | trace fault => fault.message

/-- Whether a fault lies in the input, so that the command reports it and
ends. -/
def isReported : CommandFault → Bool
  | file .missing _ => true
  | file .nullByte _ => true
  | file _ _ => false
  | imageMissing _ => true
  | undecodable _ => true
  | profileUnreadable _ => true
  | profileInvalid _ => true
  | schemaMissing => false
  | valueMissing _ => false
  | space (.schema _) => true
  | space (.outsideArray _ _ _) => true
  | space (.negativeCount _) => true
  | space .noSegments => true
  | space .tooManyDigits => true
  | space _ => false
  | trace .tooManyDigits => true
  | trace _ => false

end CommandFault

/-- How far a command has come. -/
structure Progress where
  files : FileTree
  clock : Clock
  output : String := ""
  notices : List Notice := []

/-- A part of a command. What was printed before a fault stays printed. -/
abbrev Command (α : Type) := EStateM CommandFault Progress α

namespace Command

/-- Prints a text. -/
def printText (text : String) : Command Unit :=
  modify fun progress => { progress with output := progress.output ++ text }

/-- Prints a line. -/
def print (line : String) : Command Unit :=
  printText (line ++ "\n")

/-- Gives notices. -/
def note (notices : List Notice) : Command Unit :=
  modify fun progress => { progress with notices := progress.notices ++ notices }

/-- A result, or the fault that stands in its place. -/
def orFail (fault : ε → CommandFault) : Except ε α → Command α
  | .ok result => pure result
  | .error cause => throw (fault cause)

/-- A result with the notices given on the way to it. -/
def noted (result : Noted (Except Fault α)) : Command α := do
  note result.notices
  orFail .space result.value

/-- The decimal text of a number, which fails to be printed when it has too many
digits. -/
def decimal (number : Int) : Command String :=
  if Text.isWritable number then pure (Text.decimal number) else throw (.space .tooManyDigits)

/-- The profile under a path, or the default profile. -/
def loadProfile : Setting String → Command Profile
  | .unset => pure {}
  | .blank => throw (.valueMissing profileOption.title)
  | .value path => do
      let location := Location.ofPath path
      let progress ← get
      let content ← orFail (.file · location.path) (progress.files.read location)
      let text ← orFail .undecodable (Text.readUtf8 content.toList)
      let value ← orFail .profileUnreadable (Toml.read text)
      orFail .profileInvalid (Profile.ofValue value)

/-- The space of the image under a path. -/
def loadSpace (path : String) (profile : Profile) : Command Space := do
  let location := Location.ofPath path
  let progress ← get
  match progress.files.read location with
  | .ok content =>
      note [.imageLoaded location.name content.size]
      pure { image := content, pointers := profile.pointers }
  | .error .isDirectory => throw (.file .isDirectory location.path)
  | .error .nameTooLong => throw (.file .nameTooLong location.path)
  | .error _ => throw (.imageMissing location.path)

/-- The space with its pointers recorded, and their number. -/
def recordPointers (space : Space) : Command (Space × Nat) := do
  let change := space.discoverPointers
  note change.notices
  let count ← orFail .space change.outcome
  pure (change.space, count)

/-- Prints what is known of an array. -/
def printArray (region : ArrayRegion) : Command Unit := do
  print ("Array at " ++ Text.address region.start ++ ": " ++ region.schemaText)
  print ("  Elements: " ++ (← decimal region.count))
  print ("  Element length: " ++ (← decimal region.elementLength))
  print ("  Total length: " ++ (← decimal region.length))
  let segments ← region.layout.mapM fun segment => do
    pure (segment.name ++ "(" ++ (← decimal segment.length) ++ ")")
  print ("  Segments: " ++ ", ".intercalate segments)
  unless region.backReferences.isEmpty do
    let sources := region.backReferences.toList.map Text.address
    print ("  Referenced from: " ++ ", ".intercalate sources)

/-- Prints the elements of an array. -/
def printElements (space : Space) (region : ArrayRegion) : Command Unit := do
  printText (← orFail .space (region.serialize space.image space.codec))

/-- Prints where an address falls inside an array. -/
def printOffset (region : ArrayRegion) (address : Nat) : Command Unit := do
  let offset ← orFail .space (region.toOffset address)
  let element ← decimal offset.elementIndex
  let segment := (region.layout[offset.segmentIndex]?.map Segment.name).getD ""
  print
    (Text.address address ++ ": element " ++ element ++ ", segment "
      ++ Text.decimal offset.segmentIndex ++ " (" ++ segment ++ ") starting at "
      ++ Text.address offset.segmentStart ++ ", offset " ++ (← decimal offset.segmentOffset))

/-- Places a schema at an address. The schema is read before the address is
needed. -/
def parse (profile : Profile) (space : Space) (schema : Option String)
    (address offset : Setting Nat) (dump : Bool) : Command Nat := do
  let space ← if profile.pointers.discover then Prod.fst <$> recordPointers space else pure space
  let some text := schema | throw .schemaMissing
  match Schema.read text with
  | .error (.malformed malformation) =>
      print ("Schema error: " ++ malformation.report)
      pure 1
  | .error refusal => throw (.space (.schema refusal))
  | .ok _ => do
      let some address := address.value? | throw (.valueMissing atOption.title)
      let region ← noted (space.parseAt text address none)
      printArray region
      match offset with
      | .unset => pure ()
      | .blank => throw (.valueMissing offsetOption.title)
      | .value address =>
          if address < region.start ∨ region.stop ≤ address then
            print ("Address " ++ Text.address address ++ " is outside the array")
            return 1
          printOffset region address
      if dump then printElements space region
      pure 0

/-- Searches for the best placement of a schema. -/
def search (space : Space) (schema : Option String) (dump : Bool) : Command Nat := do
  let (space, count) ← recordPointers space
  print ("Discovered " ++ Text.decimal count ++ " pointers")
  match schema with
  | none => throw .schemaMissing
  | some schema =>
      let report ← noted (space.search schema)
      match report.hit with
      | none =>
          print ("No match for " ++ schema)
          pure 1
      | some region =>
          printArray region
          if dump then printElements space region
          pure 0

/-- A text with blanks behind it up to a width. -/
def flushLeft (width : Nat) (text : String) : String :=
  text ++ String.ofList (List.replicate (width - text.length) ' ')

/-- Prints a region under its name. -/
def printAnchored (name : String) (region : Region) : Command Unit := do
  print
    ("  " ++ flushLeft 20 name ++ " " ++ Text.address region.start ++ " "
      ++ flushLeft 8 region.kind.name ++ " length=" ++ (← decimal region.length))

/-- Writes a trace to the file under a path. -/
def saveTrace (tracer : Tracer) (path : String) : Command Unit := do
  let location := Location.ofPath path
  let content ← orFail .trace tracer.save
  let progress ← get
  let files ←
    orFail (.file · location.path) (progress.files.write location content.toUTF8.data)
  set { progress with files }
  print ("Trace saved to " ++ location.path)

/-- Runs a discovery over a space, followed by a tracer that is started first. -/
def runDiscovery (profile : Profile) (space : Space) (tracer : Tracer) (code : String) :
    Command (Found × DiscoveryState) := do
  let progress ← get
  let initial : DiscoveryState := { space, tracer, clock := progress.clock }
  let settle (state : DiscoveryState) : Command Unit := do
    modify fun progress => { progress with clock := state.clock }
    note state.notices
  match Discovery.run profile code initial with
  | .ok found state =>
      settle state
      pure (found, state)
  | .error (.space fault) state =>
      settle state
      throw (.space fault)
  | .error (.trace fault) state =>
      settle state
      throw (.trace fault)

/-- Discovers what a profile lists. An empty path asks for no trace, and so does
a setting without a value. -/
def discover (profile : Profile) (space : Space) (trace : Setting String) (dump : Bool) :
    Command Nat := do
  let path := trace.value?.filter (· ≠ "")
  let progress ← get
  let tracer : Tracer := { enabled := path.isSome }
  let tracer := tracer.start progress.clock.now
  set { progress with clock := progress.clock.tick }
  let code := Discovery.gameCode profile space
  if !Discovery.isSupported profile space then
    print ("Unsupported game code: " ++ Text.quoted code)
    return 1
  let (found, state) ← runDiscovery profile space tracer code
  print ("Game code: " ++ code)
  print ("Anchors: " ++ Text.decimal found.length)
  for (name, region) in found do
    printAnchored name region
    match region with
    | .array region => if dump then printElements state.space region
    | .known _ => pure ()
  match path with
  | some path => saveTrace state.tracer path
  | none => pure ()
  pure 0

/-- Carries out a task on the image under a path. -/
def perform (profileSetting : Setting String) (imagePath : String) (task : Task) :
    Command Nat := do
  let profile ← loadProfile profileSetting
  let space ← loadSpace imagePath profile
  match task with
  | .parse schema address offset dump => parse profile space schema address offset dump
  | .search schema dump => search space schema dump
  | .discover trace dump => discover profile space trace dump

/-- Carries out a part and reports a fault of the input. -/
def reporting (part : Command Nat) : Command Nat :=
  tryCatch part fun fault => do
    if fault.isReported then
      print ("Error: " ++ fault.message)
      pure 1
    else throw fault

end Command

/-- How the program ends: with a status, or by a fault it does not report. The
messages are lines for the error stream. -/
structure Report where
  ending : Except CommandFault Nat
  output : String := ""
  messages : List String := []
  files : FileTree

/-- The report of an interruption. -/
def Interruption.report (interruption : Interruption) (files : FileTree) : Report :=
  let grammar := interruption.grammar
  match interruption.stop with
  | .help => { ending := .ok 0, output := grammar.helpText, files }
  | .fault fault =>
      { ending := .ok 2
        messages := [grammar.usage, grammar.program ++ ": error: " ++ fault.message]
        files }

/-- Runs the program. -/
def run (files : FileTree) (clock : Clock) (arguments : List String) : Report :=
  match readInvocation arguments with
  | .error interruption => interruption.report files
  | .ok invocation =>
      match invocation.task with
      | none => { ending := .ok 0, output := program.helpText, files }
      | some (image, task) =>
          let command := Command.reporting (Command.perform invocation.profile image task)
          let level := if invocation.verbose then NoticeLevel.debug else NoticeLevel.warning
          let report (ending : Except CommandFault Nat) (progress : Progress) : Report :=
            { ending
              output := progress.output
              messages := Notice.lines level progress.notices
              files := progress.files }
          match command { files, clock } with
          | .ok status progress => report (.ok status) progress
          | .error fault progress => report (.error fault) progress

end ImageAtlas.CommandLine
