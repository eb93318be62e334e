import ImageAtlas.Schema.Basic
import ImageAtlas.Text.Alphanumeric

/-!
# Reading schema texts

A schema text is a bracketed row of segments followed by a length suffix. The
suffix begins behind the *last* closing bracket. A segment is a name, the tag
of its content kind and its width; blanks may surround segments, not divide
them. The suffix is empty, a count or an anchor name.
-/

namespace ImageAtlas.Schema

open ImageAtlas.Text

/-- Divides a text at its last closing bracket. -/
def splitAtLastClose : List Char → Option (List Char × List Char)
  | [] => none
  | character :: rest =>
      match splitAtLastClose rest with
      | some (before, after) => some (character :: before, after)
      | none => if character = ']' then some ([], rest) else none

/-- Reads a numeral whose characters are known to be digits. -/
def readCount (characters : List Char) : Except Refusal Nat :=
  match readDecimal characters with
  | .ok value => .ok value
  | .error length => .error (.numeralTooLong length)

/-- Reads one segment from the front of a text and gives what follows it. -/
def readSegment (characters : List Char) : Except Refusal (Segment × List Char) :=
  let name := characters.takeWhile isAlphanumeric
  let shownName := String.ofList name
  if name = [] then
    .error (.malformed (.nameExpected (String.ofList characters)))
  else
    match characters.dropWhile isAlphanumeric with
    | '"' :: '"' :: behindTag =>
        let width := behindTag.takeWhile isDecimal
        if width = [] then
          .error (.malformed (.lengthMissing shownName (String.ofList behindTag)))
        else
          match readCount width with
          | .error refusal => .error refusal
          | .ok value =>
              if value = 0 then
                .error (.malformed (.lengthZero shownName (String.ofList behindTag)))
              else .ok (⟨shownName, .delimitedText, value⟩, behindTag.dropWhile isDecimal)
    | rest => .error (.malformed (.formatUnknown shownName (String.ofList rest)))

/-- A segment that is read uses up at least one character. -/
theorem length_lt_of_readSegment {characters rest : List Char} {segment : Segment}
    (read : readSegment characters = .ok (segment, rest)) :
    rest.length < characters.length := by
  have within := (List.dropWhile_sublist (l := characters) isAlphanumeric).length_le
  simp only [readSegment] at read
  split at read
  · simp at read
  · split at read
    · rename_i behindTag shape
      split at read
      · simp at read
      · split at read
        · simp at read
        · split at read
          · simp at read
          · have behind := (List.dropWhile_sublist (l := behindTag) isDecimal).length_le
            simp only [Except.ok.injEq, Prod.mk.injEq] at read
            rw [← read.2]
            simp only [shape, List.length_cons] at within
            omega
    · simp at read

/-- Reads segments up to the end of a text that neither begins nor ends with a
blank. -/
def readSegments (characters : List Char) : Except Refusal (List Segment) :=
  if characters = [] then .ok []
  else
    match read : readSegment characters with
    | .error refusal => .error refusal
    | .ok (segment, rest) =>
        have : (stripFront rest).length < characters.length :=
          Nat.lt_of_le_of_lt (length_stripFront_le rest) (length_lt_of_readSegment read)
        match readSegments (stripFront rest) with
        | .error refusal => .error refusal
        | .ok segments => .ok (segment :: segments)
termination_by characters.length

/-- Whether a character may stand in an anchor name that serves as a length. -/
def isAnchorCharacter (character : Char) : Bool :=
  character.isAlphanum || character = '_' || character = '.'

/-- Reads the length suffix. -/
def readLength (characters : List Char) : Except Refusal LengthRule :=
  let suffix := strip characters
  if suffix = [] then .ok .impliedByNextRun
  else if suffix.all isDecimal then
    match readCount suffix with
    | .error refusal => .error refusal
    | .ok count => .ok (.fixed count)
  else if suffix.all isAnchorCharacter then
    .ok (.derivedFromAnchor (String.ofList suffix))
  else .error (.malformed (.suffixUnknown (String.ofList suffix)))

/-- Reads a schema text. -/
def read (text : String) : Except Refusal Schema :=
  match text.toList with
  | '[' :: inside =>
      match splitAtLastClose inside with
      | none => .error (.malformed (.notBracketed text))
      | some (content, suffix) =>
          match readSegments (strip content) with
          | .error refusal => .error refusal
          | .ok [] => .error (.malformed (.empty text))
          | .ok (first :: others) =>
              match readLength suffix with
              | .error refusal => .error refusal
              | .ok length => .ok ⟨first :: others, length, text, List.cons_ne_nil first others⟩
  | _ => .error (.malformed (.notBracketed text))

/-- Replaces whatever follows the last closing bracket; a text without one
gets the suffix at its end. -/
def withSuffix (text suffix : String) : String :=
  match splitAtLastClose text.toList with
  | none => text ++ suffix
  | some (before, _) => String.ofList (before ++ [']']) ++ suffix

end ImageAtlas.Schema
