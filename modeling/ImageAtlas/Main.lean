import ImageAtlas.CommandLine.Command

/-!
# The program

Looks up on the disk the files that the arguments name, runs the program on
them, writes what it wrote and prints what it printed.
-/

namespace ImageAtlas.CommandLine

/-- What is found on the disk under a path. -/
def onDisk (path : String) : IO (Option FileEntry) := do
  try
    let content ← IO.FS.readBinFile path
    pure (some (.file content.data))
  catch _ =>
    try
      let _ ← IO.FS.Handle.mk path .read
      pure (some .directory)
    catch _ => pure none

/-- The paths that an invocation names, with the directories above them. -/
def namedPaths (arguments : List String) : List Location :=
  match readInvocation arguments with
  | .error _ => []
  | .ok invocation =>
      let trace :=
        match invocation.task with
        | some (_, .discover trace _) => trace.value?
        | _ => none
      let paths :=
        invocation.profile.value?.toList ++ (invocation.task.map Prod.fst).toList ++ trace.toList
      (paths.map Location.ofPath).flatMap fun location =>
        (List.range (location.steps.length + 1)).map fun count =>
          { location with steps := location.steps.take count }

/-- The part of the disk that an invocation can reach. -/
def reachable (arguments : List String) : IO FileTree := do
  let found ← (namedPaths arguments).filterMapM fun location => do
    pure ((← onDisk location.path).map fun entry => (location, entry))
  pure { entries := found }

/-- The clock of a run, which stands still at a time in milliseconds. -/
def clockAt (milliseconds : Nat) : Clock where
  reading := fun _ => .round false milliseconds 1000

/-- Writes the files that were written in a tree. -/
def writeBack (files : FileTree) : IO Unit :=
  files.written.forM fun (location, content) =>
    IO.FS.writeBinFile location.path (ByteArray.mk content)

end ImageAtlas.CommandLine

open ImageAtlas.CommandLine in
/-- Runs the program on its arguments. -/
def main (arguments : List String) : IO UInt32 := do
  let report := run (← reachable arguments) (clockAt (← IO.monoMsNow)) arguments
  writeBack report.files
  IO.print report.output
  for message in report.messages do
    IO.eprintln message
  match report.ending with
  | .ok status => pure (UInt32.ofNat status)
  | .error fault =>
      IO.eprintln fault.message
      pure 1
