import ImageAtlas.Toml.Scalar

/-!
# Values in profile files

Keys, lists and tables within a line. A key is a row of parts with points
between them; each part but the last names a table inside the one before. Such
a table may be entered again by a later key, unless it was written as a value.
-/

namespace ImageAtlas.Toml

/-- Whether a character may stand in a key part without marks. -/
def isBare (character : Char) : Bool :=
  character.isAlphanum || character == '-' || character == '_'

/-- Skips a comment, if there is one. It ends before the line feed. -/
def skipComment (characters : List Char) : Except Refusal (List Char) :=
  match characters with
  | '#' :: rest =>
      if (rest.takeWhile (· != '\n')).any isControl then .error .malformed
      else .ok (rest.dropWhile (· != '\n'))
  | _ => .ok characters

/-- Skips blanks, lines and comments; whether a comment has begun is given. -/
def skipLines : Bool → List Char → Except Refusal (List Char)
  | _, [] => .ok []
  | true, character :: rest =>
      if character = '\n' then skipLines false rest
      else if isControl character then .error .malformed
      else skipLines true rest
  | false, character :: rest =>
      if isSpaceOrLine character then skipLines false rest
      else if character = '#' then skipLines true rest
      else .ok (character :: rest)

/-- Skips what may stand between the items of a list. -/
def skipBetween (characters : List Char) : Except Refusal (List Char) :=
  skipLines false characters

/-- Reads one part of a key; `fuel` exceeds its length. -/
def readKeyPart (fuel : Nat) (characters : List Char) : Except Refusal (String × List Char) :=
  let bare := characters.takeWhile isBare
  if bare = [] then readLine fuel characters
  else .ok (String.ofList bare, characters.dropWhile isBare)

/-- Reads the parts of a key; there is nothing to skip behind it. Every part uses
up a character. -/
def readKey : Nat → List Char → Except Refusal (List String × List Char)
  | 0, _ => .error .malformed
  | fuel + 1, characters => do
      let (part, rest) ← readKeyPart (fuel + 1) characters
      match rest.dropWhile isSpace with
      | '.' :: behind => do
          let (others, after) ← readKey fuel (behind.dropWhile isSpace)
          pure (part :: others, after)
      | rest => pure ([part], rest)

/-- Changes the table to which a path leads, making the tables that are not
there. A path may lead into the last table of a list, if `throughLists` allows
it, but into no other value. -/
def changeAt (throughLists : Bool) (change : Entries → Option Entries) :
    List String → Entries → Option Entries
  | [], entries => change entries
  | key :: path, entries =>
      match Entries.get? entries key with
      | none =>
          (changeAt throughLists change path []).map fun inner =>
            Entries.put key (.table inner) entries
      | some (.table inner) =>
          (changeAt throughLists change path inner).map fun inner =>
            Entries.put key (.table inner) entries
      | some (.list items) =>
          match throughLists, items.getLast? with
          | true, some (.table inner) =>
              (changeAt throughLists change path inner).map fun inner =>
                Entries.put key (.list (items.dropLast ++ [.table inner])) entries
          | _, _ => none
      | some _ => none

/-- Adds an entry for a key that is not there. -/
def addEntry (key : String) (value : Value) (entries : Entries) : Option Entries :=
  if (Entries.get? entries key).isSome then none else some (Entries.put key value entries)

/-- Whether a value is a list or a table. -/
def isContainer : Value → Bool
  | .list _ => true
  | .table _ => true
  | _ => false

/-- Whether a path lies at or below one of the paths given. -/
def isBelow (path : List String) (roots : List (List String)) : Bool :=
  roots.any fun root => root.isPrefixOf path

/-- A table that is being read within a line, and the paths in it that were
written as values. -/
structure InlineTable where
  entries : Entries := []
  closed : List (List String) := []

/-- Adds what stands under a key. -/
def InlineTable.add (table : InlineTable) (key : List String) (value : Value) :
    Option InlineTable :=
  if isBelow key table.closed then none
  else
    (changeAt false (addEntry (key.getLast?.getD "") value) key.dropLast table.entries).map
      fun entries =>
        { entries, closed := if isContainer value then key :: table.closed else table.closed }

mutual

/-- Reads a value. -/
def readValue : Nat → List Char → Except Refusal (Value × List Char)
  | 0, _ => .error .malformed
  | fuel + 1, characters =>
      match characters with
      | '"' :: _ => do
          let (text, rest) ← readText fuel characters
          pure (.text text, rest)
      | '\'' :: _ => do
          let (text, rest) ← readText fuel characters
          pure (.text text, rest)
      | '[' :: rest => do
          let (items, behind) ← readItems fuel (← skipBetween rest)
          pure (.list items, behind)
      | '\x7b' :: rest =>
          match rest.dropWhile isSpace with
          | '\x7d' :: behind => .ok (.table [], behind)
          | inside => do
              let (entries, behind) ← readPairs fuel {} inside
              pure (.table entries, behind)
      | _ => readScalar characters

/-- Reads the items of a list up to its end; a comma may stand behind the last
one. -/
def readItems : Nat → List Char → Except Refusal (List Value × List Char)
  | 0, _ => .error .malformed
  | fuel + 1, characters =>
      match characters with
      | ']' :: rest => .ok ([], rest)
      | _ => do
          let (item, rest) ← readValue fuel characters
          match ← skipBetween rest with
          | ']' :: behind => pure ([item], behind)
          | ',' :: behind => do
              let (others, after) ← readItems fuel (← skipBetween behind)
              pure (item :: others, after)
          | _ => .error .malformed

/-- Reads the pairs of a table within a line up to its end. -/
def readPairs : Nat → InlineTable → List Char → Except Refusal (Entries × List Char)
  | 0, _, _ => .error .malformed
  | fuel + 1, table, characters => do
      let (key, behindKey) ← readKey fuel characters
      match behindKey with
      | '=' :: rest => do
          let (value, behind) ← readValue fuel (rest.dropWhile isSpace)
          match table.add key value with
          | none => .error .malformed
          | some table =>
              match behind.dropWhile isSpace with
              | '\x7d' :: after => pure (table.entries, after)
              | ',' :: after => readPairs fuel table (after.dropWhile isSpace)
              | _ => .error .malformed
      | _ => .error .malformed

end

/-- Reads a key with its value; `fuel` exceeds their length. Every two steps of
the readers use up a character. -/
def readPair (fuel : Nat) (characters : List Char) :
    Except Refusal (List String × Value × List Char) := do
  let (key, behindKey) ← readKey fuel characters
  match behindKey with
  | '=' :: rest => do
      let (value, behind) ← readValue (2 * fuel) (rest.dropWhile isSpace)
      pure (key, value, behind)
  | _ => .error .malformed

end ImageAtlas.Toml
