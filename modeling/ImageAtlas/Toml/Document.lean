import ImageAtlas.Toml.Value

/-!
# Profile files

A file is a row of lines: pairs of a key and a value, headers that open a
table, and headers that add a table to a list. No value is overwritten, no
table is opened twice, and nothing is added to a list or table that was
written as a value. Values may be nested to any depth: a bound on how deep calls
may be nested is not modelled.
-/

namespace ImageAtlas.Toml

/-- What has been read: the table of the whole file, the header in force, the
paths that no header may open any more, those that were written as values, and
the tables made by keys with points since the last header. -/
structure Document where
  entries : Entries := []
  header : List String := []
  opened : List (List String) := []
  closed : List (List String) := []
  implied : List (List String) := []

namespace Document

/-- Tables made by keys with points may not be opened once a header follows. -/
def settle (document : Document) : Document :=
  { document with opened := document.implied ++ document.opened, implied := [] }

/-- Opens a table. -/
def openTable (document : Document) (key : List String) : Option Document :=
  if document.opened.contains key || isBelow key document.closed then none
  else
    (changeAt true some key document.entries).map fun entries =>
      { document with entries, header := key, opened := key :: document.opened }

/-- Adds an empty table to the list under a key. -/
def appendTable (key : String) (entries : Entries) : Option Entries :=
  match Entries.get? entries key with
  | none => some (Entries.put key (.list [.table []]) entries)
  | some (.list items) => some (Entries.put key (.list (items ++ [.table []])) entries)
  | some _ => none

/-- Adds a table to a list and opens it. What was said of paths below the key
does not hold of the new table. -/
def openItem (document : Document) (key : List String) : Option Document :=
  if isBelow key document.closed then none
  else
    let outside (path : List String) : Bool := !key.isPrefixOf path
    (changeAt true (appendTable (key.getLast?.getD "")) key.dropLast document.entries).map
      fun entries =>
        { document with
          entries, header := key
          opened := key :: document.opened.filter outside
          closed := document.closed.filter outside }

/-- The paths through which a key with points leads, from the header in force
on. -/
def waypoints (document : Document) (key : List String) : List (List String) :=
  (List.range (key.length - 1)).map fun step => document.header ++ key.take (step + 1)

/-- Adds a pair under the header in force. -/
def addPair (document : Document) (key : List String) (value : Value) : Option Document :=
  let waypoints := document.waypoints key
  let parent := document.header ++ key.dropLast
  if waypoints.any document.opened.contains || isBelow parent document.closed then none
  else
    (changeAt true (addEntry (key.getLast?.getD "") value) parent document.entries).map
      fun entries =>
        { document with
          entries
          implied := waypoints ++ document.implied
          closed :=
            if isContainer value then (document.header ++ key) :: document.closed
            else document.closed }

end Document

/-- A change of the document, or a refusal of the file. -/
def orRefuse : Option Document → Except Refusal Document
  | some document => .ok document
  | none => .error .malformed

/-- Reads a header behind its opening bracket or brackets; `fuel` exceeds its
length. -/
def readHeader (fuel : Nat) (document : Document) (characters : List Char) :
    Except Refusal (Document × List Char) :=
  match characters with
  | '[' :: rest => do
      let (key, behind) ← readKey fuel (rest.dropWhile isSpace)
      let document ← orRefuse (document.openItem key)
      match behind with
      | ']' :: ']' :: after => pure (document, after)
      | _ => .error .malformed
  | _ => do
      let (key, behind) ← readKey fuel (characters.dropWhile isSpace)
      let document ← orRefuse (document.openTable key)
      match behind with
      | ']' :: after => pure (document, after)
      | _ => .error .malformed

/-- Reads a statement, if the line has one; `fuel` exceeds its length. -/
def readStatement (fuel : Nat) (document : Document) (characters : List Char) :
    Except Refusal (Document × List Char) :=
  match characters with
  | '[' :: rest => readHeader fuel document.settle rest
  | first :: _ =>
      if isBare first ∨ first = '"' ∨ first = '\'' then do
        let (key, value, rest) ← readPair fuel characters
        let document ← orRefuse (document.addPair key value)
        pure (document, rest)
      else pure (document, characters)
  | [] => pure (document, characters)

/-- Reads the lines of a file. Every line uses up a character. -/
def readLines : Nat → Document → List Char → Except Refusal Document
  | 0, _, _ => .error .malformed
  | fuel + 1, document, characters => do
      let (document, rest) ← readStatement (fuel + 1) document (characters.dropWhile isSpace)
      match ← skipComment (rest.dropWhile isSpace) with
      | [] => pure document
      | '\n' :: behind => readLines fuel document behind
      | _ => .error .malformed

/-- Writes every line end as a line feed. -/
def unifyLineEnds : List Char → List Char
  | '\r' :: '\n' :: rest => '\n' :: unifyLineEnds rest
  | character :: rest => character :: unifyLineEnds rest
  | [] => []

/-- Reads a file. -/
def read (text : String) : Except Refusal Value := do
  let characters := unifyLineEnds text.toList
  let document ← readLines (characters.length + 1) {} characters
  pure (.table document.entries)

end ImageAtlas.Toml
