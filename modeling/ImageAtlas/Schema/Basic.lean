import ImageAtlas.Text.Quoted

/-!
# Schemas

A schema describes one repeating element, as a row of fixed-width segments,
and says how many elements there are. This module holds the types, the text of
a length rule and the reasons for refusing a schema text. It reads no text.
-/

namespace ImageAtlas

/-- How the bytes of one segment are interpreted. A kind that no schema text
can name is carried by its name alone. -/
inductive ContentKind where
  | delimitedText
  | unrecognised (name : String)
deriving DecidableEq, Repr

/-- The name of a content kind. -/
def ContentKind.name : ContentKind → String
  | .delimitedText => "delimited_text"
  | .unrecognised name => name

/-- The content kind of a name. -/
def ContentKind.ofName (name : String) : ContentKind :=
  if name = "delimited_text" then .delimitedText else .unrecognised name

/-- One typed field of fixed width within an element. -/
structure Segment where
  name : String
  kind : ContentKind
  length : Int
deriving DecidableEq, Repr

/-- The segments of one element, in order. -/
abbrev Layout := List Segment

/-- The number of bytes of one element. -/
def Layout.width : Layout → Int
  | [] => 0
  | segment :: rest => segment.length + Layout.width rest

/-- How many elements an array has: a count written down, as many as fit before
the next known region, or as many as the array anchored under a name. -/
inductive LengthRule where
  | fixed (count : Int)
  | impliedByNextRun
  | derivedFromAnchor (anchor : String)
  | unsupported
deriving DecidableEq, Repr

/-- The text of a length rule, as it is written behind the closing bracket. -/
def LengthRule.suffix : LengthRule → String
  | .fixed count => Text.decimal count
  | .derivedFromAnchor anchor => anchor
  | .impliedByNextRun => ""
  | .unsupported => ""

/-- An element layout of at least one segment with its length rule, and the text
that stated both. -/
structure Schema where
  layout : Layout
  length : LengthRule
  text : String
  layout_ne_nil : layout ≠ []
deriving Repr

namespace Schema

/-- Why a text is no schema. Each reason keeps the text at which it arose. -/
inductive Malformation where
  | notBracketed (text : String)
  | empty (text : String)
  | nameExpected (rest : String)
  | formatUnknown (segment rest : String)
  | lengthMissing (segment rest : String)
  | lengthZero (segment rest : String)
  | suffixUnknown (suffix : String)
deriving DecidableEq, Repr

namespace Malformation

/-- What is wrong. -/
def message : Malformation → String
  | notBracketed _ => "Array content must be wrapped in []"
  | empty _ => "Array content must not be empty"
  | nameExpected _ => "expected name, but none was found"
  | formatUnknown segment _ => "could not parse format for segment '" ++ segment ++ "'"
  | lengthMissing segment _ => "segment '" ++ segment ++ "' is missing its byte length"
  | lengthZero segment _ => "segment '" ++ segment ++ "' must be at least one byte wide"
  | suffixUnknown _ => "length must be a count or an anchor name"

/-- The text at which it went wrong. -/
def excerpt : Malformation → String
  | notBracketed text => text
  | empty text => text
  | nameExpected rest => rest
  | formatUnknown _ rest => rest
  | lengthMissing _ rest => rest
  | lengthZero _ rest => rest
  | suffixUnknown suffix => suffix

/-- A message with the text it is about; an empty text is left out. -/
def describe (message excerpt : String) : String :=
  if excerpt = "" then message else message ++ " (in " ++ Text.quoted excerpt ++ ")"

/-- The whole report of a malformed schema. -/
def report (malformation : Malformation) : String :=
  describe malformation.message malformation.excerpt

end Malformation

/-- Why no schema was read: the text is malformed, or it holds a numeral of too
many characters. -/
inductive Refusal where
  | malformed (malformation : Malformation)
  | numeralTooLong (characters : Nat)
deriving DecidableEq, Repr

/-- The report of a refusal. -/
def Refusal.report : Refusal → String
  | .malformed malformation => malformation.report
  | .numeralTooLong characters => Text.numeralTooLong characters

end Schema

end ImageAtlas
