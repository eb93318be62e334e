import ImageAtlas.Value.Literal

/-!
# Issues in a profile

What is wrong with a value that should be a profile, and where. Checking goes
on behind an issue, so that all of them are reported together, in the order of
the fields and items.
-/

namespace ImageAtlas

/-- A step on the way to a part of a value. -/
inductive PathStep where
  | key (key : String)
  | index (index : Nat)
deriving DecidableEq, Repr

/-- What can be wrong with a part of a value. -/
inductive IssueCause where
  | missing
  | refused (reason : String)
  | noInteger
  | integerUnreadable
  | integerTooLong
  | integerFractional
  | notFinite
  | noText
  | noList
  | noTruthValue
  | truthValueUnreadable
  | noModel (model : String)
deriving DecidableEq, Repr

namespace IssueCause

/-- The name of a cause. -/
def name : IssueCause → String
  | missing => "missing"
  | refused _ => "value_error"
  | noInteger => "int_type"
  | integerUnreadable => "int_parsing"
  | integerTooLong => "int_parsing_size"
  | integerFractional => "int_from_float"
  | notFinite => "finite_number"
  | noText => "string_type"
  | noList => "list_type"
  | noTruthValue => "bool_type"
  | truthValueUnreadable => "bool_parsing"
  | noModel _ => "model_type"

/-- The wording of a cause. -/
def message : IssueCause → String
  | missing => "Field required"
  | refused reason => "Value error, " ++ reason
  | noInteger => "Input should be a valid integer"
  | integerUnreadable =>
      "Input should be a valid integer, unable to parse string as an integer"
  | integerTooLong => "Unable to parse input string as an integer, exceeded maximum size"
  | integerFractional =>
      "Input should be a valid integer, got a number with a fractional part"
  | notFinite => "Input should be a finite number"
  | noText => "Input should be a valid string"
  | noList => "Input should be a valid list"
  | noTruthValue => "Input should be a valid boolean"
  | truthValueUnreadable => "Input should be a valid boolean, unable to interpret input"
  | noModel model => "Input should be a valid dictionary or instance of " ++ model

end IssueCause

/-- An issue: where it is, what it is and the value that raised it. -/
structure Issue where
  path : List PathStep
  cause : IssueCause
  input : Value
deriving Repr

/-- The outcome of checking a value: what it stands for, or its issues. -/
abbrev Checked (α : Type) := Except (List Issue) α

namespace Checked

/-- An issue at the value itself. -/
def issue (cause : IssueCause) (input : Value) : Checked α :=
  .error [⟨[], cause, input⟩]

/-- The outcome for a part, seen from the whole. -/
def under (step : PathStep) (checked : Checked α) : Checked α :=
  match checked with
  | .ok value => .ok value
  | .error issues => .error (issues.map fun issue => { issue with path := step :: issue.path })

/-- The outcome for two parts; the issues of both count. -/
def both (first : Checked α) (second : Checked β) : Checked (α × β) :=
  match first, second with
  | .ok left, .ok right => .ok (left, right)
  | .ok _, .error issues => .error issues
  | .error issues, .ok _ => .error issues
  | .error left, .error right => .error (left ++ right)

/-- The outcome for the items of a list, from an index on. -/
def items (check : Value → Checked α) : Nat → List Value → Checked (List α)
  | _, [] => .ok []
  | index, item :: rest =>
      (both (under (.index index) (check item)) (items check (index + 1) rest)).map
        fun (first, others) => first :: others

end Checked

/-- The number of bytes of a character. -/
def byteSize (character : Char) : Nat :=
  character.utf8Size

/-- The characters at the front that need at most so many bytes. -/
def takeBytes : Nat → List Char → List Char
  | _, [] => []
  | limit, character :: rest =>
      if byteSize character ≤ limit then character :: takeBytes (limit - byteSize character) rest
      else []

/-- What is longer than fifty bytes is shown by its two ends. -/
def shortened (content : String) : String :=
  if content.utf8ByteSize ≤ 50 then content
  else
    let characters := content.toList
    let front := takeBytes 25 characters
    let back := (takeBytes 24 characters.reverse).reverse
    String.ofList (front ++ ['.', '.', '.'] ++ back)

/-- A step as it is shown between points. -/
def PathStep.text : PathStep → String
  | .key name => name
  | .index place => Text.decimal place

namespace Issue

/-- The lines that report an issue. -/
def lines (issue : Issue) : List String :=
  let place := ".".intercalate (issue.path.map PathStep.text)
  let about :=
    "  " ++ issue.cause.message ++ " [type=" ++ issue.cause.name ++ ", input_value="
      ++ shortened issue.input.shown ++ ", input_type=" ++ issue.input.typeName ++ "]"
  if issue.path = [] then [about] else [place, about]

/-- The report of the issues of a model. -/
def report (model : String) (issues : List Issue) : String :=
  let count := issues.length
  let noun := if count = 1 then " validation error for " else " validation errors for "
  "\n".intercalate ((Text.decimal count ++ noun ++ model) :: issues.flatMap lines)

end Issue

end ImageAtlas
