import ImageAtlas.Decimal.Shortest
import ImageAtlas.Text.Quoted
import ImageAtlas.Value.Basic

/-!
# Literals

The form in which a report shows a structured value, and the name by which it
calls the type of a value.
-/

namespace ImageAtlas

namespace Moment

/-- Arguments between parentheses behind a name. -/
def call (name : String) (arguments : List String) : String :=
  name ++ "(" ++ ", ".intercalate arguments ++ ")"

/-- The parts of a day. -/
def dateArguments (date : Date) : List String :=
  [date.year, date.month, date.day].map fun (part : Nat) => Text.decimal part

/-- The parts of a time of day; seconds and their parts are left out when they
are zero. -/
def timeArguments (time : TimeOfDay) : List String :=
  let seconds :=
    if time.microsecond ≠ 0 then [time.second, time.microsecond]
    else if time.second ≠ 0 then [time.second]
    else []
  ([time.hour, time.minute] ++ seconds).map fun (part : Nat) => Text.decimal part

/-- An offset from universal time, in whole days and the seconds that remain. -/
def offsetLiteral (offset : Int) : String :=
  if offset = 0 then "datetime.timezone.utc"
  else
    let days := offset.fdiv 1440
    let seconds := offset.fmod 1440 * 60
    let dayPart := if days = 0 then [] else ["days=" ++ Text.decimal days]
    let secondPart := if seconds = 0 then [] else ["seconds=" ++ Text.decimal seconds]
    call "datetime.timezone" [call "datetime.timedelta" (dayPart ++ secondPart)]

/-- The literal of a moment. -/
def literal : Moment → String
  | date day => call "datetime.date" (dateArguments day)
  | time clock => call "datetime.time" (timeArguments clock)
  | dateTime day clock offset =>
      let zone :=
        match offset with
        | none => []
        | some minutes => ["tzinfo=" ++ offsetLiteral minutes]
      call "datetime.datetime" (dateArguments day ++ timeArguments clock ++ zone)

end Moment

namespace Value

mutual

/-- The literal of a value. -/
def literal : Value → String
  | null => "None"
  | bool value => if value then "True" else "False"
  | integer value => Text.decimal value
  | real value => value.shortest
  | text value => Text.quoted value
  | unpairedText codes => Text.quotedCodes codes
  | moment value => value.literal
  | list items => "[" ++ ", ".intercalate (itemLiterals items) ++ "]"
  | table entries => "\x7b" ++ ", ".intercalate (entryLiterals entries) ++ "\x7d"
  | unpairedTable entries =>
      "\x7b" ++ ", ".intercalate (codeEntryLiterals entries) ++ "\x7d"

/-- The literals of the items of a list. -/
def itemLiterals : List Value → List String
  | [] => []
  | item :: rest => literal item :: itemLiterals rest

/-- The literals of the entries of a table. -/
def entryLiterals : List (String × Value) → List String
  | [] => []
  | (key, value) :: rest => (Text.quoted key ++ ": " ++ literal value) :: entryLiterals rest

/-- The literals of the entries of a table with unpaired keys. -/
def codeEntryLiterals : List (List Nat × Value) → List String
  | [] => []
  | (key, value) :: rest =>
      (Text.quotedCodes key ++ ": " ++ literal value) :: codeEntryLiterals rest

end

/-- The name of the type of a value. -/
def typeName : Value → String
  | null => "NoneType"
  | bool _ => "bool"
  | integer _ => "int"
  | real _ => "float"
  | text _ => "str"
  | unpairedText _ => "str"
  | moment (.date _) => "date"
  | moment (.time _) => "time"
  | moment (.dateTime _ _ _) => "datetime"
  | list _ => "list"
  | table _ => "dict"
  | unpairedTable _ => "dict"

/-- What a report shows of a value: its literal, or its type alone when a number
in it has too many digits to be written. -/
def shown (value : Value) : String :=
  if value.isWritable then value.literal
  else "<unprintable " ++ value.typeName ++ " object>"

end Value

end ImageAtlas
