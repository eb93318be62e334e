import ImageAtlas.Json.Reader

/-!
# Texts in profile files

A text stands between double marks, with escapes, or between single marks,
literally; three marks allow it to run over several lines. Control characters
other than the tab are refused, and a line feed too where the text has one
line.
-/

namespace ImageAtlas.Toml

/-- Why a profile file could not be read. -/
inductive Refusal where
  | malformed
  | numeralTooLong (characters : Nat)
deriving DecidableEq, Repr

/-- Whether a character may be skipped within a line. -/
def isSpace (character : Char) : Bool :=
  character == ' ' || character == '\t'

/-- Whether a character may be skipped between lines. -/
def isSpaceOrLine (character : Char) : Bool :=
  isSpace character || character == '\n'

/-- Whether a character may never stand in a text or a comment. -/
def isControl (character : Char) : Bool :=
  (character.toNat < 0x20 && character != '\t') || character.toNat == 0x7F

/-- Whether a character may not stand in a text as itself. -/
def isIllegal (multiline : Bool) (character : Char) : Bool :=
  isControl character && !(multiline && character == '\n')

/-- The character that some hexadecimal digits name. -/
def readCode (length : Nat) (characters : List Char) : Except Refusal (Char × List Char) :=
  let shown := characters.take length
  let values := shown.filterMap Text.hexValue?
  if shown.length < length ∨ values.length < length then .error .malformed
  else
    let code := values.foldl (fun code value => 16 * code + value) 0
    if code < 0xD800 ∨ (0xE000 ≤ code ∧ code < 0x110000) then
      .ok (Char.ofNat code, characters.drop length)
    else .error .malformed

/-- What an escape stands for, from the character behind the backslash on. In
a text of several lines the backslash at the end of a line joins the lines. -/
def readEscape (multiline : Bool) : List Char → Except Refusal (List Char × List Char)
  | [] => .error .malformed
  | letter :: rest =>
      if multiline && isSpaceOrLine letter then
        match (letter :: rest).dropWhile isSpace with
        | [] => .ok ([], [])
        | '\n' :: behind => .ok ([], behind.dropWhile isSpaceOrLine)
        | _ => .error .malformed
      else
        match letter with
        | 'b' => .ok (['\x08'], rest)
        | 't' => .ok (['\t'], rest)
        | 'n' => .ok (['\n'], rest)
        | 'f' => .ok (['\x0c'], rest)
        | 'r' => .ok (['\r'], rest)
        | '"' => .ok (['"'], rest)
        | '\\' => .ok (['\\'], rest)
        | 'u' => do
            let (character, behind) ← readCode 4 rest
            pure ([character], behind)
        | 'U' => do
            let (character, behind) ← readCode 8 rest
            pure ([character], behind)
        | _ => .error .malformed

/-- Reads the content of an escaped text up to its closing marks. Every step
uses up a character. -/
def readBasic (multiline : Bool) : Nat → List Char → Except Refusal (List Char × List Char)
  | 0, _ => .error .malformed
  | fuel + 1, characters =>
      let keep (character : Char) (rest : List Char) := do
        let (others, behind) ← readBasic multiline fuel rest
        pure (character :: others, behind)
      match characters with
      | [] => .error .malformed
      | '"' :: rest =>
          if multiline then
            match rest with
            | '"' :: '"' :: behind => .ok ([], behind)
            | _ => keep '"' rest
          else .ok ([], rest)
      | '\\' :: rest => do
          let (escaped, behindEscape) ← readEscape multiline rest
          let (others, behind) ← readBasic multiline fuel behindEscape
          pure (escaped ++ others, behind)
      | character :: rest =>
          if isIllegal multiline character then .error .malformed else keep character rest

/-- Reads the content of a literal text up to its closing marks. -/
def readLiteral (multiline : Bool) : List Char → Except Refusal (List Char × List Char)
  | [] => .error .malformed
  | character :: rest =>
      let closes := character = '\'' ∧ (!multiline ∨ rest.take 2 = ['\'', '\''])
      if closes then .ok ([], if multiline then rest.drop 2 else rest)
      else if isIllegal multiline character then .error .malformed
      else do
        let (others, behind) ← readLiteral multiline rest
        pure (character :: others, behind)

/-- Up to two more marks behind the closing ones belong to the text. -/
def takeMarks (mark : Char) (content rest : List Char) : List Char × List Char :=
  let more := (rest.take 2).takeWhile (· == mark)
  (content ++ more, rest.drop more.length)

/-- Drops a line feed at the very beginning. -/
def dropFirstLine : List Char → List Char
  | '\n' :: rest => rest
  | characters => characters

/-- Reads a text from its opening marks on; `fuel` exceeds its length. -/
def readText (fuel : Nat) (characters : List Char) : Except Refusal (String × List Char) := do
  let (content, rest) ←
    match characters with
    | '"' :: '"' :: '"' :: rest => do
        let (content, behind) ← readBasic true fuel (dropFirstLine rest)
        pure (takeMarks '"' content behind)
    | '"' :: rest => readBasic false fuel rest
    | '\'' :: '\'' :: '\'' :: rest => do
        let (content, behind) ← readLiteral true (dropFirstLine rest)
        pure (takeMarks '\'' content behind)
    | '\'' :: rest => readLiteral false rest
    | _ => .error .malformed
  pure (String.ofList content, rest)

/-- Reads a text of one line from its opening mark on; `fuel` exceeds its
length. -/
def readLine (fuel : Nat) (characters : List Char) : Except Refusal (String × List Char) := do
  let (content, rest) ←
    match characters with
    | '"' :: rest => readBasic false fuel rest
    | '\'' :: rest => readLiteral false rest
    | _ => .error .malformed
  pure (String.ofList content, rest)

end ImageAtlas.Toml
