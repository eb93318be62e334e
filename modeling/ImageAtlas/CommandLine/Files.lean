import ImageAtlas.Text.Quoted

/-!
# Files

The files that a command can reach, as a tree: what is found under a path, and
what comes of writing there. A path is a row of steps; empty steps and those
that stay where they are do not count. Nothing is read from a disk here.
-/

namespace ImageAtlas.CommandLine

/-- A place in a tree of files; `roots` is the mark in front of a path that
does not begin at the working directory. -/
structure Location where
  roots : String
  steps : List String
deriving DecidableEq, Repr

namespace Location

/-- The place that a path names. Two slashes in front are kept, more of them
count as one. -/
def ofPath (path : String) : Location :=
  let characters := path.toList
  let slashes := (characters.takeWhile (· == '/')).length
  let roots := if slashes = 0 then "" else if slashes = 2 then "//" else "/"
  { roots, steps := (path.splitOn "/").filter fun step => step ≠ "" ∧ step ≠ "." }

/-- The path that names a place. -/
def path (location : Location) : String :=
  if location.roots = "" ∧ location.steps = [] then "."
  else location.roots ++ "/".intercalate location.steps

/-- The last step of a path. -/
def name (location : Location) : String :=
  location.steps.getLast?.getD ""

/-- The place one step up. -/
def parent (location : Location) : Location :=
  { location with steps := location.steps.dropLast }

end Location

/-- Why a file cannot be read or written. -/
inductive FileFault where
  | missing
  | notDirectory
  | isDirectory
  | nameTooLong
  | nullByte
deriving DecidableEq, Repr

/-- What a fault reports about a path. -/
def FileFault.message (path : String) : FileFault → String
  | missing => "[Errno 2] No such file or directory: " ++ Text.quoted path
  | notDirectory => "[Errno 20] Not a directory: " ++ Text.quoted path
  | isDirectory => "[Errno 21] Is a directory: " ++ Text.quoted path
  | nameTooLong => "[Errno 36] File name too long: " ++ Text.quoted path
  | nullByte => "embedded null byte"

/-- What is found at a place. -/
inductive FileEntry where
  | directory
  | file (content : Array UInt8)

/-- A tree of files: what was there, and the files written since, the latest
first. A place above a file or a directory is a directory. -/
structure FileTree where
  entries : List (Location × FileEntry) := []
  written : List (Location × Array UInt8) := []

namespace FileTree

/-- The greatest number of bytes of a step. -/
def stepLimit : Nat := 255

/-- The greatest number of bytes of a path. -/
def pathLimit : Nat := 4095

/-- All places at which something is found. -/
def present (tree : FileTree) : List (Location × FileEntry) :=
  (tree.written.map fun file => (file.1, .file file.2)) ++ tree.entries

/-- What is found at a place, whatever lies above it. The working directory
and the directories above it are always there. -/
def entry? (tree : FileTree) (location : Location) : Option FileEntry :=
  match tree.present.find? fun entry => entry.1 == location with
  | some entry => some entry.2
  | none =>
      let isAbove (other : Location) : Bool :=
        location.roots == other.roots && location.steps.isPrefixOf other.steps
      if location.steps.all (· == "..") || tree.present.any (isAbove ·.1) then some .directory
      else none

/-- Goes down from a place along steps, through directories alone. -/
def descend (tree : FileTree) (location : Location) : List String → Except FileFault Unit
  | [] => .ok ()
  | step :: rest =>
      match tree.entry? location with
      | none => .error .missing
      | some (.file _) => .error .notDirectory
      | some .directory =>
          if stepLimit < step.utf8ByteSize then .error .nameTooLong
          else descend tree { location with steps := location.steps ++ [step] } rest

/-- What is found along a path, or nothing where a file could be made. -/
def find (tree : FileTree) (location : Location) : Except FileFault (Option FileEntry) :=
  if location.path.toList.any (· == '\x00') then .error .nullByte
  else if pathLimit < location.path.utf8ByteSize then .error .nameTooLong
  else
    match tree.descend { location with steps := [] } location.steps with
    | .error fault => .error fault
    | .ok () => .ok (tree.entry? location)

/-- Reads a file. -/
def read (tree : FileTree) (location : Location) : Except FileFault (Array UInt8) :=
  match tree.find location with
  | .error fault => .error fault
  | .ok none => .error .missing
  | .ok (some .directory) => .error .isDirectory
  | .ok (some (.file content)) => .ok content

/-- The tree with a file written. -/
def write (tree : FileTree) (location : Location) (content : Array UInt8) :
    Except FileFault FileTree :=
  match tree.find location with
  | .error fault => .error fault
  | .ok (some .directory) => .error .isDirectory
  | .ok _ => .ok { tree with written := (location, content) :: tree.written }

end FileTree

end ImageAtlas.CommandLine
