import ImageAtlas.Decimal.Binary64
import ImageAtlas.Text.Numeral

/-!
# Structured values

The values that saved traces and profile files are made of. A table keeps its
entries in the order in which their keys first came, and holds no key twice
when it is built with `Entries.put`.

A saved trace can hold surrogates without a partner, which are code points but
no characters. A text with one of them is a value of its own kind, and so is a
table with such a text among its keys; `Value.ofCodes` and `Value.ofCodeEntries`
choose the kind.
-/

namespace ImageAtlas

/-- A day of the calendar. -/
structure Date where
  year : Nat
  month : Nat
  day : Nat
deriving DecidableEq, Repr

/-- A time of day. -/
structure TimeOfDay where
  hour : Nat
  minute : Nat
  second : Nat := 0
  microsecond : Nat := 0
deriving DecidableEq, Repr

/-- A point in a calendar or a day; the offset from universal time, if one is
given, is in minutes. -/
inductive Moment where
  | date (date : Date)
  | time (time : TimeOfDay)
  | dateTime (date : Date) (time : TimeOfDay) (offset : Option Int)
deriving DecidableEq, Repr

/-- A structured value. -/
inductive Value where
  | null
  | bool (value : Bool)
  | integer (value : Int)
  | real (value : Binary64)
  | text (value : String)
  | unpairedText (codes : List Nat)
  | moment (value : Moment)
  | list (items : List Value)
  | table (entries : List (String × Value))
  | unpairedTable (entries : List (List Nat × Value))
deriving Repr

/-- Entries of a table. -/
abbrev Entries := List (String × Value)

namespace Entries

/-- The value of a key. -/
def get? [DecidableEq κ] (entries : List (κ × Value)) (key : κ) : Option Value :=
  (entries.find? fun entry => entry.1 == key).map Prod.snd

/-- The entries with a key set, in its place if it has one, else at the end. -/
def put [DecidableEq κ] (key : κ) (value : Value) : List (κ × Value) → List (κ × Value)
  | [] => [(key, value)]
  | head :: tail =>
      if head.1 = key then (key, value) :: tail else head :: put key value tail

end Entries

namespace Value

/-- The code points of a text. -/
def codesOf (content : String) : List Nat :=
  content.toList.map Char.toNat

/-- The text of code points, unless one of them is a surrogate. -/
def textOfCodes? (codes : List Nat) : Option String :=
  if codes.all fun code => code.isValidChar then some (String.ofList (codes.map Char.ofNat))
  else none

/-- The text that consists of code points. -/
def ofCodes (codes : List Nat) : Value :=
  match textOfCodes? codes with
  | some content => .text content
  | none => .unpairedText codes

/-- The table of entries whose keys are given by their code points. -/
def ofCodeEntries (entries : List (List Nat × Value)) : Value :=
  match entries.mapM fun entry => (textOfCodes? entry.1).map fun key => (key, entry.2) with
  | some entries => .table entries
  | none => .unpairedTable entries

/-- Whether a value is a table. -/
def isTable : Value → Bool
  | table _ => true
  | unpairedTable _ => true
  | _ => false

/-- The value of a key in a table. -/
def get? (value : Value) (key : String) : Option Value :=
  match value with
  | table entries => Entries.get? entries key
  | unpairedTable entries => Entries.get? entries (codesOf key)
  | _ => none

/-- Whether a value counts as true: whether it is neither nothing, nor false,
nor zero, nor empty. -/
def truthy : Value → Bool
  | null => false
  | bool value => value
  | integer value => value != 0
  | real value => !value.isZero
  | text value => value != ""
  | unpairedText codes => !codes.isEmpty
  | moment _ => true
  | list items => !items.isEmpty
  | table entries => !entries.isEmpty
  | unpairedTable entries => !entries.isEmpty

/-- The whole number for which a truth value, a whole number or a whole
floating-point number stands. -/
def wholeNumber? : Value → Option Int
  | bool value => some (if value then 1 else 0)
  | integer value => some value
  | real value => value.toInt?
  | _ => none

mutual

/-- Whether every whole number in a value has few enough digits to be written
in decimal. -/
def isWritable : Value → Bool
  | integer value => Text.isWritable value
  | list items => areWritable items
  | table entries => haveWritable entries
  | unpairedTable entries => haveWritableCodes entries
  | _ => true

/-- Whether that holds for all items of a list. -/
def areWritable : List Value → Bool
  | [] => true
  | item :: rest => isWritable item && areWritable rest

/-- Whether that holds for all values of a table. -/
def haveWritable : List (String × Value) → Bool
  | [] => true
  | (_, value) :: rest => isWritable value && haveWritable rest

/-- Whether that holds for all values of a table with unpaired keys. -/
def haveWritableCodes : List (List Nat × Value) → Bool
  | [] => true
  | (_, value) :: rest => isWritable value && haveWritableCodes rest

end

mutual

/-- Whether two values are the same: numbers by their amount, whatever their
form, lists item by item, and tables as sets of entries. What is no number is
the same as itself. -/
def same : Value → Value → Bool
  | null, null => true
  | text left, text right => left == right
  | unpairedText left, unpairedText right => left == right
  | moment left, moment right => left == right
  | list left, list right => sameItems left right
  | table left, table right => left.length == right.length && sameEntries left right
  | unpairedTable left, unpairedTable right =>
      left.length == right.length && sameCodeEntries left right
  | real left, real right => left == right || (left.isZero && right.isZero)
  | left, right =>
      match left.wholeNumber?, right.wholeNumber? with
      | some leftAmount, some rightAmount => leftAmount == rightAmount
      | _, _ => false

/-- Whether two lists are the same item by item. -/
def sameItems : List Value → List Value → Bool
  | [], [] => true
  | left :: lefts, right :: rights => same left right && sameItems lefts rights
  | _, _ => false

/-- Whether every entry on the left is matched on the right. -/
def sameEntries : List (String × Value) → List (String × Value) → Bool
  | [], _ => true
  | (key, value) :: rest, right =>
      (match Entries.get? right key with
        | some other => same value other
        | none => false)
        && sameEntries rest right

/-- Whether every entry on the left is matched on the right, by code points. -/
def sameCodeEntries : List (List Nat × Value) → List (List Nat × Value) → Bool
  | [], _ => true
  | (key, value) :: rest, right =>
      (match Entries.get? right key with
        | some other => same value other
        | none => false)
        && sameCodeEntries rest right

end

/-- Whether two values are equal: whether they are the same and are not a
floating-point value that is no number, which equals nothing. -/
def equal (left right : Value) : Bool :=
  match left with
  | real .nan => false
  | _ => same left right

end Value

end ImageAtlas
