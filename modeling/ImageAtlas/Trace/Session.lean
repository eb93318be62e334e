import ImageAtlas.Trace.File

/-!
# Tracing sessions

A tracer in use: the steps that are open, innermost first, and the clock. When
a trace is loaded it takes the place of the tracer. A step that was opened
before belongs to the tracer that was replaced, so closing it changes nothing
any more.
-/

namespace ImageAtlas

/-- An open step: the context it was entered from, and which of the tracers in
turn it belongs to. -/
structure OpenStep where
  previous : Value
  owner : Nat

/-- A tracer in use. -/
structure TraceSession where
  tracer : Tracer
  clock : Clock
  owner : Nat := 0
  openSteps : List OpenStep := []

namespace TraceSession

/-- Starts the tracer anew; the clock is read once. -/
def start (session : TraceSession) : TraceSession :=
  { session with tracer := session.tracer.start session.clock.now, clock := session.clock.tick }

/-- Opens a step. -/
def enter (session : TraceSession) (context : Value) : TraceSession :=
  { session with
    tracer := session.tracer.enter context
    openSteps := ⟨session.tracer.context, session.owner⟩ :: session.openSteps }

/-- Closes the innermost step, if one is open. -/
def leave? (session : TraceSession) : Option TraceSession :=
  match session.openSteps with
  | [] => none
  | step :: rest =>
      let tracer :=
        if step.owner = session.owner then session.tracer.leave step.previous
        else session.tracer
      some { session with tracer, openSteps := rest }

/-- Records an event. An enabled tracer reads the clock once, even when it then
fails to record. -/
def trace (session : TraceSession) (type : EventType) (data : Value) :
    Except TraceFault Unit × TraceSession :=
  let clock := if session.tracer.enabled then session.clock.tick else session.clock
  match session.tracer.trace session.clock.now type data with
  | .ok tracer => (.ok (), { session with tracer, clock })
  | .error fault => (.error fault, { session with clock })

/-- Records a happening. -/
def record (session : TraceSession) (happening : Happening) :
    Except TraceFault Unit × TraceSession :=
  session.trace happening.type happening.data

/-- Switches recording on or off. -/
def enable (session : TraceSession) (enabled : Bool) : TraceSession :=
  { session with tracer := { session.tracer with enabled } }

/-- Puts a loaded tracer in place of the present one. -/
def replace (session : TraceSession) (tracer : Tracer) : TraceSession :=
  { session with tracer, owner := session.owner + 1 }

end TraceSession

end ImageAtlas
