import ImageAtlas.Json.Reader
import ImageAtlas.Json.Writer
import ImageAtlas.Trace.Basic

/-!
# Saved traces

A trace is saved as a JSON table of its start, the number of its events, its
summary and the events themselves. It cannot be saved while a number in it has
too many digits. Loading takes the start and the events; the loaded tracer has
room for all of them.
-/

namespace ImageAtlas

namespace TraceEvent

/-- An event as a table. -/
def toValue (event : TraceEvent) : Value :=
  .table
    [("timestamp", event.timestamp), ("event_type", .text event.type.name),
      ("context", event.context), ("data", event.data)]

/-- A needed entry of a value that has to be a table. -/
def need (raw : Value) (key : String) : Except TraceFault Value :=
  if raw.isTable then
    match raw.get? key with
    | some value => .ok value
    | none => .error (.missingKey key)
  else .error .wrongType

/-- The event that a table describes. Context and data may be missing. -/
def ofValue (raw : Value) : Except TraceFault TraceEvent := do
  let timestamp ← need raw "timestamp"
  let type ← EventType.ofValue (← need raw "event_type")
  pure
    { timestamp, type
      context := (raw.get? "context").getD (.text "")
      data := (raw.get? "data").getD (.table []) }

end TraceEvent

/-- A summary as a table. -/
def TraceSummary.toValue (summary : TraceSummary) : Value :=
  .table
    [("total_events", .integer summary.totalEvents), ("duration", summary.duration),
      ("event_counts",
        .table (summary.eventCounts.map fun entry => (entry.1.name, .integer entry.2))),
      ("contexts", .list summary.contexts)]

namespace Tracer

/-- A trace as a table. -/
def toValue (tracer : Tracer) : Value :=
  .table
    [("start_time", tracer.startTime), ("event_count", .integer tracer.events.length),
      ("summary", tracer.summary.toValue), ("events", .list (tracer.events.map TraceEvent.toValue))]

/-- The text of a saved trace. -/
def save (tracer : Tracer) : Except TraceFault String :=
  if tracer.toValue.isWritable then .ok (Json.write tracer.toValue) else .error .tooManyDigits

/-- The least capacity of a loaded tracer. -/
def loadedCapacity : Nat := 100000

/-- The tracer that a saved trace describes. -/
def ofValue (payload : Value) : Except TraceFault Tracer :=
  if payload.isTable then do
    let items ← itemsOf ((payload.get? "events").getD (.list []))
    let events ← items.mapM TraceEvent.ofValue
    pure
      { capacity := some (max events.length loadedCapacity)
        recorded := events.reverse
        startTime := (payload.get? "start_time").getD (.real (.ofInt 0)) }
  else .error .noTable

/-- Reads a saved trace. -/
def load (text : String) : Except TraceFault Tracer :=
  match Json.read text with
  | .error .malformed => .error .malformed
  | .error (.numeralTooLong characters) => .error (.numeralTooLong characters)
  | .ok payload => ofValue payload

end Tracer

end ImageAtlas
