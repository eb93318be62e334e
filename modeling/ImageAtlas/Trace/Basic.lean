import ImageAtlas.Decimal.Reading
import ImageAtlas.Fault
import ImageAtlas.Json.Writer
import ImageAtlas.Value.Literal

/-!
# Traces

A tracer records what a discovery looked at, so that a surprising placement
can be explained afterwards. It keeps the newest events, up to its capacity,
and marks each with the step in which it happened. A tracer that is disabled
takes every call and records nothing.

The time of an event is the reading of a clock less the reading at the start.
A tracer that was loaded from a file may carry any value as its start; it can
record events only when that value is a number. The data of an event is a table,
or anything from which a table can be made.
-/

namespace ImageAtlas

/-- What a traced event tells. -/
inductive EventType where
  | pointersDiscovered
  | searchStarted
  | candidateScanned
  | arrayFound
  | searchExhausted
  | anchorWritten
deriving DecidableEq, Repr

namespace EventType

/-- All event types. -/
def all : List EventType :=
  [pointersDiscovered, searchStarted, candidateScanned, arrayFound, searchExhausted,
    anchorWritten]

/-- The name of an event type. -/
def name : EventType → String
  | pointersDiscovered => "pointers_discovered"
  | searchStarted => "search_started"
  | candidateScanned => "candidate_scanned"
  | arrayFound => "array_found"
  | searchExhausted => "search_exhausted"
  | anchorWritten => "anchor_written"

end EventType

/-- Why a tracer could not be made, could not record or could not be loaded. -/
inductive TraceFault where
  /-- A value names no event type. -/
  | unknownEventType (value : Value)
  /-- An event lacks a key. -/
  | missingKey (key : String)
  /-- A value has a type with which nothing can be done here. -/
  | wrongType
  /-- A trace is no table. -/
  | noTable
  /-- A text is no JSON. -/
  | malformed
  /-- A numeral has too many characters. -/
  | numeralTooLong (characters : Nat)
  /-- A capacity is negative. -/
  | negativeCapacity
  /-- A number is too large for its use. -/
  | overflow
  /-- A number has too many digits to be written in decimal. -/
  | tooManyDigits
  /-- An item from which an entry is to be made has not two parts. -/
  | noPair (index length : Nat)
  /-- A text is no floating-point number. -/
  | noReal (text : Value)

/-- The event type that a value names. -/
def EventType.ofValue (value : Value) : Except TraceFault EventType :=
  match value with
  | .text text =>
      match EventType.all.find? fun type => type.name == text with
      | some type => .ok type
      | none => .error (.unknownEventType value)
  | _ => .error (.unknownEventType value)

/-- What a tracing fault reports. Faults without a wording report nothing. -/
def TraceFault.message : TraceFault → String
  | unknownEventType value => value.literal ++ " is not a valid EventType"
  | missingKey key => Text.quoted key
  | negativeCapacity => "maxlen must be non-negative"
  | numeralTooLong characters => Text.numeralTooLong characters
  | tooManyDigits => Text.tooManyDigits
  | noPair index length =>
      "dictionary update sequence element #" ++ Text.decimal index ++ " has length "
        ++ Text.decimal length ++ "; 2 is required"
  | noReal text => "could not convert string to float: " ++ text.literal
  | wrongType => ""
  | noTable => ""
  | malformed => ""
  | overflow => ""

/-- One recorded event. -/
structure TraceEvent where
  timestamp : Value
  type : EventType
  context : Value
  data : Value
deriving Repr

/-- A recorder of events, the latest first. Only as many of the latest events as
its capacity says are its events, so that a full tracer loses the oldest of them
to the next one. -/
structure Tracer where
  enabled : Bool := true
  capacity : Option Nat := some 100000
  recorded : List TraceEvent := []
  startTime : Value := .real (.ofInt 0)
  context : Value := .text ""

/-- The events of a tracer, oldest first: the newest of the recorded ones, up to
its capacity. -/
def Tracer.events (tracer : Tracer) : List TraceEvent :=
  match tracer.capacity with
  | none => tracer.recorded.reverse
  | some capacity => (tracer.recorded.take capacity).reverse

/-- The floating-point number nearest to a number. -/
def realOf (value : Value) : Except TraceFault Binary64 :=
  match value with
  | .real value => .ok value
  | _ =>
      match value.wholeNumber? with
      | none => .error .wrongType
      | some value =>
          match Binary64.ofInt value with
          | .infinite _ => .error .overflow
          | value => .ok value

/-- The time from a start to a reading of the clock. -/
def elapsed (now : Binary64) (start : Value) : Except TraceFault Value :=
  (realOf start).map fun start => .real (now.sub start)

/-- The time of an event as a floating-point number. It may be written as a
text. -/
def TraceEvent.time (event : TraceEvent) : Except TraceFault Binary64 :=
  match event.timestamp with
  | .text text =>
      match Binary64.ofText? text with
      | some time => .ok time
      | none => .error (.noReal (.text text))
  | .unpairedText codes => .error (.noReal (.unpairedText codes))
  | timestamp => realOf timestamp

/-- The values over which one goes when a value is taken item by item: the
items of a list, the keys of a table or the characters of a text. -/
def itemsOf : Value → Except TraceFault (List Value)
  | .list items => .ok items
  | .table entries => .ok (entries.map fun entry => .text entry.1)
  | .unpairedTable entries => .ok (entries.map fun entry => .ofCodes entry.1)
  | .text text => .ok (text.toList.map fun character => .text (String.singleton character))
  | .unpairedText codes => .ok (codes.map fun code => .ofCodes [code])
  | _ => .error .wrongType

/-- Whether a value can be the key of an entry. -/
def isKey : Value → Bool
  | .list _ => false
  | .table _ => false
  | .unpairedTable _ => false
  | _ => true

/-- The code points of a key; what is no text goes by its form in a saved
trace. -/
def keyCodes : Value → List Nat
  | .text text => Value.codesOf text
  | .unpairedText codes => codes
  | value => (Json.writeAt 0 value []).map Char.toNat

/-- Sets the entry of a key among entries whose keys may be any values. -/
def putPair (key value : Value) : List (Value × Value) → List (Value × Value)
  | [] => [(key, value)]
  | head :: tail =>
      if head.1.same key then (head.1, value) :: tail else head :: putPair key value tail

/-- The entries that pairs describe, from an index on and beside those made
before. -/
def pairsFrom (before : List (Value × Value)) :
    Nat → List Value → Except TraceFault (List (Value × Value))
  | _, [] => .ok before
  | index, item :: rest =>
      match itemsOf item with
      | .error fault => .error fault
      | .ok [key, value] =>
          if isKey key then pairsFrom (putPair key value before) (index + 1) rest
          else .error .wrongType
      | .ok parts => .error (.noPair index parts.length)

/-- The table that a value describes as the data of an event. What counts as
false describes an empty one, and a row of pairs the one with these entries. -/
def dataOf (value : Value) : Except TraceFault Value :=
  if !value.truthy then .ok (.table [])
  else if value.isTable then .ok value
  else
    match itemsOf value with
    | .error fault => .error fault
    | .ok items =>
        (pairsFrom [] 0 items).map fun pairs =>
          .ofCodeEntries (pairs.map fun pair => (keyCodes pair.1, pair.2))

/-- What is known of a whole trace. -/
structure TraceSummary where
  totalEvents : Nat
  duration : Value
  eventCounts : List (EventType × Nat)
  contexts : List Value

/-- Counts one more event of a type; types stay in the order in which they
first came. -/
def countType (type : EventType) : List (EventType × Nat) → List (EventType × Nat)
  | [] => [(type, 1)]
  | head :: tail =>
      if head.1 = type then (type, head.2 + 1) :: tail else head :: countType type tail

/-- Adds a context that is not empty and was not there. -/
def addContext (contexts : List Value) (context : Value) : List Value :=
  if context.truthy && !contexts.any (·.same context) then contexts ++ [context] else contexts

namespace Tracer

/-- A tracer with the capacity that a value asks for; nothing asks for no
bound. -/
def ofCapacity (enabled : Bool) (capacity : Value) : Except TraceFault Tracer :=
  match capacity with
  | .null => .ok { enabled, capacity := none }
  | .real _ => .error .wrongType
  | _ =>
      match capacity.wholeNumber? with
      | none => .error .wrongType
      | some amount =>
          if wordBound ≤ amount ∨ amount < -wordBound then .error .overflow
          else if amount < 0 then .error .negativeCapacity
          else .ok { enabled, capacity := some amount.toNat }

/-- Starts anew at a reading of the clock. -/
def start (tracer : Tracer) (now : Binary64) : Tracer :=
  { tracer with recorded := [], startTime := .real now, context := .text "" }

/-- The tracer inside a step. -/
def enter (tracer : Tracer) (context : Value) : Tracer :=
  { tracer with context }

/-- The tracer after a step, back in the context that the step was entered
from. -/
def leave (tracer : Tracer) (previous : Value) : Tracer :=
  { tracer with context := previous }

/-- Records an event at a reading of the clock, unless disabled. -/
def trace (tracer : Tracer) (now : Binary64) (type : EventType) (data : Value) :
    Except TraceFault Tracer :=
  if !tracer.enabled then .ok tracer
  else
    match elapsed now tracer.startTime, dataOf data with
    | .error fault, _ => .error fault
    | .ok _, .error fault => .error fault
    | .ok timestamp, .ok data =>
        let event : TraceEvent := { timestamp, type, context := tracer.context, data }
        .ok { tracer with recorded := event :: tracer.recorded }

/-- The recorded events of a type and a context, where those are given. -/
def eventsOf (tracer : Tracer) (type : Option EventType) (context : Option Value) :
    List TraceEvent :=
  tracer.events.filter fun event =>
    (match type with
      | none => true
      | some type => event.type == type)
    && (match context with
      | none => true
      | some context => event.context.equal context)

/-- The summary of a trace. -/
def summary (tracer : Tracer) : TraceSummary where
  totalEvents := tracer.events.length
  duration :=
    match tracer.events.getLast? with
    | some event => event.timestamp
    | none => .integer 0
  eventCounts := tracer.events.foldl (fun counts event => countType event.type counts) []
  contexts := tracer.events.foldl (fun contexts event => addContext contexts event.context) []

end Tracer

/-- The typed events of a discovery, with the data that each carries. A tracer
takes the data as they are. -/
inductive Happening where
  | pointers (count : Value)
  | searchStart (schema : Value)
  | candidate (address count : Value)
  | found (schema address count : Value)
  | exhausted (schema : Value)
  | anchor (name address kind : Value)

namespace Happening

/-- The type of a happening. -/
def type : Happening → EventType
  | pointers _ => .pointersDiscovered
  | searchStart _ => .searchStarted
  | candidate _ _ => .candidateScanned
  | found _ _ _ => .arrayFound
  | exhausted _ => .searchExhausted
  | anchor _ _ _ => .anchorWritten

/-- The data of a happening. -/
def data : Happening → Value
  | pointers count => .table [("count", count)]
  | searchStart schema => .table [("schema", schema)]
  | candidate address count => .table [("address", address), ("count", count)]
  | found schema address count =>
      .table [("schema", schema), ("address", address), ("count", count)]
  | exhausted schema => .table [("schema", schema)]
  | anchor name address kind => .table [("name", name), ("address", address), ("kind", kind)]

/-- What the end of a search tells: the place and count of what was found, or
that nothing was. -/
def ofResult (schema address count : Value) : Happening :=
  match address with
  | .null => exhausted schema
  | address => found schema address count

end Happening

/-- A clock: its readings, and how many of them were taken. -/
structure Clock where
  reading : Nat → Binary64
  taken : Nat := 0

namespace Clock

/-- A clock that shows 0, 1, 2 and so on. -/
def counting : Clock where
  reading := fun index => .ofInt index

/-- The next reading. -/
def now (clock : Clock) : Binary64 :=
  clock.reading clock.taken

/-- The clock after a reading. -/
def tick (clock : Clock) : Clock :=
  { clock with taken := clock.taken + 1 }

end Clock

end ImageAtlas
