import ImageAtlas.Space.Length

/-!
# Searching for an array

The best placement of a schema is found by counting how many elements follow
one another at each candidate. Candidates are the regions to which something
leads and which are no arrays; the walk over them steps over the whole extent
of every region it meets, so a region inside an array is none. The longest run
wins, and the earliest of several.

The count of what was found is written into its schema text however many digits
it has; that numerals beyond `Text.numeralLimit` digits cannot be written is not
modelled here. Only an image of `Text.numeralBound` bytes or more has such counts.
-/

namespace ImageAtlas

/-- Whether a region is worth guessing at. -/
def Region.isCandidate (region : Region) : Bool :=
  !region.isArray && !region.backReferences.isEmpty

/-- The address behind a region, which occupies at least one byte. -/
def Region.coverEnd (region : Region) : Int :=
  region.start + max region.length 1

/-- Walks over ascending regions from an address on and keeps the candidates. -/
def walkCandidates : Int → List Region → List Region
  | _, [] => []
  | next, region :: rest =>
      if region.start < next then walkCandidates next rest
      else if region.isCandidate then region :: walkCandidates region.coverEnd rest
      else walkCandidates region.coverEnd rest

/-- What a search found, and what it counted at each candidate. -/
structure SearchReport where
  hit : Option ArrayRegion
  progress : List (Int × Nat) := []

/-- What is the longest run when another one follows: that one if it is longer than
all before it. A run has elements. -/
def longerRun (best : Option (Region × Nat)) (run : Region × Nat) : Option (Region × Nat) :=
  match best with
  | none => if 0 < run.2 then some run else none
  | some longest => if longest.2 < run.2 then some run else some longest

/-- The first of the greatest counts, unless all are zero. -/
def longestRun (runs : List (Region × Nat)) : Option (Region × Nat) :=
  runs.foldl longerRun none

namespace Space

/-- The regions worth guessing at, ascending. -/
def candidates (space : Space) : List Region :=
  walkCandidates 0 space.ascending

/-- The number of elements at each candidate. -/
def candidateRuns (space : Space) (layout : Layout) : Except Fault (List (Region × Nat)) :=
  space.candidates.mapM fun candidate =>
    match layout.count space.codec space.image candidate.start none with
    | .error fault => .error fault
    | .ok count => .ok (candidate, count)

/-- The array of `count` elements of a schema at a candidate. The count is written whether
`Text.isWritable` or not. -/
def placement (schema : Schema) (candidate : Region) (count : Nat) : ArrayRegion where
  start := candidate.start
  schemaText := Schema.withSuffix schema.text (Text.decimal count)
  layout := schema.layout
  lengthRule := .fixed count
  count := count
  backReferences := candidate.backReferences
  layout_ne_nil := schema.layout_ne_nil

/-- Finds the best placement of a schema text. A malformed text has none. A count with too
many digits to be written is found like any other. -/
def search (space : Space) (text : String) : Noted (Except Fault SearchReport) :=
  match Schema.read text with
  | .error (.malformed malformation) =>
      .note (.searchMalformed malformation) (.ok { hit := none })
  | .error refusal => pure (.error (.schema refusal))
  | .ok schema =>
      match space.candidateRuns schema.layout with
      | .error fault => pure (.error fault)
      | .ok runs =>
          let progress := runs.map fun run => (run.1.start, run.2)
          match longestRun runs with
          | none => .note (.placementMissing text) (.ok { hit := none, progress })
          | some (candidate, count) =>
              .note (.placementFound text candidate.start count)
                (.ok { hit := some (placement schema candidate count), progress })

end Space

end ImageAtlas
