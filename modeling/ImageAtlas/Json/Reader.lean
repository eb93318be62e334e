import ImageAtlas.Text.Numeral
import ImageAtlas.Value.Basic

/-!
# Reading JSON

Reads a structured value from JSON. Of two entries with one key the later one
counts, in the place of the earlier. Whole numbers are read exactly, up to the
limit of numerals, and numbers with a point or an exponent as floating-point
numbers. The names that the writer uses for the values without a number are
read too. A unit that needs a partner and has none is kept as it is. Values may
be nested to any depth: a bound on how deep calls may be nested is not modelled.
-/

namespace ImageAtlas.Json

open ImageAtlas.Text

/-- Why a text is no JSON. -/
inductive Refusal where
  | malformed
  | numeralTooLong (characters : Nat)
deriving DecidableEq, Repr

/-- Whether a character may stand between the parts of a JSON text. -/
def isSpace (character : Char) : Bool :=
  character == ' ' || character == '\t' || character == '\n' || character == '\r'

/-- Skips what may stand between parts. -/
def skip (characters : List Char) : List Char :=
  characters.dropWhile isSpace

/-- The unit that four hexadecimal digits give. -/
def readUnit? : List Char → Option (Nat × List Char)
  | a :: b :: c :: d :: rest => do
      let high ← hexValue? a
      let upper ← hexValue? b
      let lower ← hexValue? c
      let low ← hexValue? d
      pure (((high * 16 + upper) * 16 + lower) * 16 + low, rest)
  | _ => none

/-- The code point of a unit, or of two units that belong together. -/
def readEscapedCode? (characters : List Char) : Option (Nat × List Char) := do
  let (unit, rest) ← readUnit? characters
  if 0xD800 ≤ unit ∧ unit < 0xDC00 then
    match rest with
    | '\\' :: 'u' :: behind =>
        let (partner, afterPartner) ← readUnit? behind
        if 0xDC00 ≤ partner ∧ partner < 0xE000 then
          pure (0x10000 + (unit - 0xD800) * 0x400 + (partner - 0xDC00), afterPartner)
        else pure (unit, rest)
    | _ => pure (unit, rest)
  else pure (unit, rest)

/-- The character of a one-letter escape. -/
def letterEscape? : Char → Option Char
  | '"' => some '"'
  | '\\' => some '\\'
  | '/' => some '/'
  | 'b' => some '\x08'
  | 'f' => some '\x0c'
  | 'n' => some '\n'
  | 'r' => some '\r'
  | 't' => some '\t'
  | _ => none

/-- Reads the rest of a text behind the code points that were read before, the
last of them first. Every step uses up a character, so more fuel than there are
characters is enough. -/
def readTextFrom : Nat → List Nat → List Char → Except Refusal (List Nat × List Char)
  | 0, _, _ => .error .malformed
  | fuel + 1, before, characters =>
      match characters with
      | [] => .error .malformed
      | '"' :: rest => .ok (before.reverse, rest)
      | '\\' :: 'u' :: rest =>
          match readEscapedCode? rest with
          | none => .error .malformed
          | some (code, behind) => readTextFrom fuel (code :: before) behind
      | '\\' :: letter :: rest =>
          match letterEscape? letter with
          | none => .error .malformed
          | some character => readTextFrom fuel (character.toNat :: before) rest
      | character :: rest =>
          if character.toNat < 0x20 ∨ character = '\\' then .error .malformed
          else readTextFrom fuel (character.toNat :: before) rest

/-- Reads the code points of a text behind its opening mark. -/
def readText (fuel : Nat) (characters : List Char) : Except Refusal (List Nat × List Char) :=
  readTextFrom fuel [] characters

/-- The digits behind a point, if there are any. -/
def fraction? : List Char → Option (List Char × List Char)
  | '.' :: rest =>
      let digits := rest.takeWhile isAsciiDigit
      if digits = [] then none else some (digits, rest.dropWhile isAsciiDigit)
  | _ => none

/-- The exponent behind its mark, if there is one. -/
def exponent? : List Char → Option (Int × List Char)
  | mark :: rest =>
      if mark = 'e' ∨ mark = 'E' then
        let (negative, behind) :=
          match rest with
          | '-' :: behind => (true, behind)
          | '+' :: behind => (false, behind)
          | _ => (false, rest)
        let digits := behind.takeWhile isAsciiDigit
        if digits = [] then none
        else
          let amount : Int := decimalValue digits
          some (if negative then -amount else amount, behind.dropWhile isAsciiDigit)
      else none
  | [] => none

/-- Reads a number from its first digit on. -/
def readNumber (negative : Bool) (characters : List Char) : Except Refusal (Value × List Char) :=
  let run := characters.takeWhile isAsciiDigit
  let whole := if run.head? = some '0' then ['0'] else run
  let rest := characters.drop whole.length
  if whole = [] then .error .malformed
  else
    let fraction := fraction? rest
    let (decimals, behindFraction) := fraction.getD ([], rest)
    let exponent := exponent? behindFraction
    let (power, behindExponent) := exponent.getD (0, behindFraction)
    if fraction.isNone && exponent.isNone then
      match readDecimal whole with
      | .error length => .error (.numeralTooLong length)
      | .ok value => .ok (.integer (if negative then -value else value), rest)
    else
      .ok (.real (.ofDecimal negative (decimalValue (whole ++ decimals))
        (power - decimals.length)), behindExponent)

/-- What is left when a text begins with a word. -/
def dropWord (word : String) (characters : List Char) : Option (List Char) :=
  if word.toList.isPrefixOf characters then some (characters.drop word.length) else none

/-- Reads a name that stands for a value. -/
def readName (characters : List Char) : Except Refusal (Value × List Char) :=
  let names : List (String × Value) :=
    [("null", .null), ("true", .bool true), ("false", .bool false), ("NaN", .real .nan),
      ("Infinity", .real (.infinite false)), ("-Infinity", .real (.infinite true))]
  match names.findSome? fun name => (dropWord name.1 characters).map (name.2, ·) with
  | some reading => .ok reading
  | none => .error .malformed

mutual

/-- Reads a value; nothing may be skipped in front of it. -/
def readValue : Nat → List Char → Except Refusal (Value × List Char)
  | 0, _ => .error .malformed
  | fuel + 1, characters =>
      match characters with
      | '"' :: rest => do
          let (codes, behind) ← readText fuel rest
          pure (.ofCodes codes, behind)
      | '[' :: rest =>
          match skip rest with
          | ']' :: behind => .ok (.list [], behind)
          | inside => do
              let (items, behind) ← readItems fuel [] inside
              pure (.list items, behind)
      | '\x7b' :: rest =>
          match skip rest with
          | '\x7d' :: behind => .ok (.table [], behind)
          | inside => do
              let (entries, behind) ← readEntries fuel [] inside
              pure (.ofCodeEntries entries, behind)
      | '-' :: rest =>
          match rest with
          | 'I' :: _ => readName characters
          | _ => readNumber true rest
      | first :: _ =>
          if isAsciiDigit first then readNumber false characters else readName characters
      | [] => .error .malformed

/-- Reads the items of a list up to its end, behind those read before, the last
of them first. -/
def readItems : Nat → List Value → List Char → Except Refusal (List Value × List Char)
  | 0, _, _ => .error .malformed
  | fuel + 1, before, characters => do
      let (item, behind) ← readValue fuel characters
      match skip behind with
      | ']' :: rest => pure ((item :: before).reverse, rest)
      | ',' :: rest => readItems fuel (item :: before) (skip rest)
      | _ => .error .malformed

/-- Reads the entries of a table up to its end, beside those read before. -/
def readEntries :
    Nat → List (List Nat × Value) → List Char →
      Except Refusal (List (List Nat × Value) × List Char)
  | 0, _, _ => .error .malformed
  | fuel + 1, before, characters =>
      match characters with
      | '"' :: rest => do
          let (key, behindKey) ← readText fuel rest
          match skip behindKey with
          | ':' :: inside => do
              let (value, behind) ← readValue fuel (skip inside)
              let entries := Entries.put key value before
              match skip behind with
              | '\x7d' :: after => pure (entries, after)
              | ',' :: after => readEntries fuel entries (skip after)
              | _ => .error .malformed
          | _ => .error .malformed
      | _ => .error .malformed

end

/-- Reads a whole JSON text. Every two steps of the readers use up a
character. -/
def read (text : String) : Except Refusal Value := do
  let characters := skip text.toList
  let (value, rest) ← readValue (2 * characters.length + 2) characters
  if skip rest = [] then pure value else .error .malformed

end ImageAtlas.Json
