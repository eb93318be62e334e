import ImageAtlas.Proofs.Decimal.Order
import ImageAtlas.Proofs.Trace.Calls

/-!
# What calls trace

A call that tells the tracer something traces an event if the tracer is enabled
(`TraceSession.traced?`). Unless it is a start, a call adds that event to what is recorded and
changes nothing else of it, and reads the clock at most once (`TraceSession.Continues`). So what
was recorded since a start are the events that were traced since then, and their times are
readings of the clock in the order of these readings, less the start.
-/

namespace ImageAtlas

/-- What a call tells the tracer. -/
def TraceCall.told? : TraceCall → Option (EventType × Value)
  | trace type data => some (type, data)
  | record happening => some (happening.type, happening.data)
  | _ => none

/-- A tracer in use after calls, beginning with a clock. -/
def Tracer.session (tracer : Tracer) (clock : Clock) (calls : List TraceCall) : TraceSession :=
  calls.foldl TraceSession.after { tracer, clock }

namespace TraceSession

/-- The event that is traced when something is told: in the context of the tracer and at the
time since its start. A tracer that is disabled traces nothing, nor is anything traced where no
time can be told or the data make no table. -/
def event? (session : TraceSession) (type : EventType) (data : Value) : Option TraceEvent :=
  if session.tracer.enabled then
    match elapsed session.clock.now session.tracer.startTime, dataOf data with
    | .ok timestamp, .ok data =>
        some { timestamp, type, context := session.tracer.context, data }
    | _, _ => none
  else none

/-- The event that a call traces. -/
def traced? (session : TraceSession) (call : TraceCall) : Option TraceEvent :=
  call.told?.bind fun told => session.event? told.1 told.2

/-- The events that calls trace one after the other. -/
def traced (session : TraceSession) : List TraceCall → List TraceEvent
  | [] => []
  | call :: rest => (session.traced? call).toList ++ (session.after call).traced rest

variable {session : TraceSession} {call : TraceCall} {calls : List TraceCall}

/-- Telling the tracer something adds the event that is traced, and an enabled tracer reads the
clock. -/
theorem trace_snd (session : TraceSession) (type : EventType) (data : Value) :
    (session.trace type data).2 = { session with
      tracer := { session.tracer with
        recorded := (session.event? type data).toList ++ session.tracer.recorded }
      clock := if session.tracer.enabled then session.clock.tick else session.clock } := by
  obtain ⟨⟨enabled, _, _, start, _⟩, clock, _, _⟩ := session
  simp only [trace, Tracer.trace, event?]
  cases enabled with
  | false => rfl
  | true =>
      cases elapsed clock.now start with
      | error fault => rfl
      | ok timestamp =>
          cases dataOf data with
          | error fault => rfl
          | ok table => rfl

/-- Where times can be told and the data make a table, an enabled tracer traces what it is
told. -/
theorem event?_of_timed {type : EventType} {data table : Value} {start : Binary64}
    (timed : session.tracer.startTime = .real start) (described : dataOf data = .ok table) :
    session.event? type data =
      if session.tracer.enabled then
        some { timestamp := .real (session.clock.now.sub start), type
               context := session.tracer.context, data := table }
      else none := by
  rw [event?, timed, described]
  rfl

/-- An event that is traced is in the context of the tracer, and its time is told by the clock
of an enabled tracer. -/
theorem of_event? {type : EventType} {data : Value} {event : TraceEvent}
    (told : session.event? type data = some event) :
    session.tracer.enabled = true ∧ event.type = type ∧ event.context = session.tracer.context ∧
      elapsed session.clock.now session.tracer.startTime = .ok event.timestamp ∧
      dataOf data = .ok event.data := by
  rw [event?] at told
  split at told
  · split at told
    · rename_i enabled _ _ _ _ timed described
      cases told
      exact ⟨enabled, rfl, rfl, timed, described⟩
    · cases told
  · cases told

/-- Closing a step changes the context and what steps are open. -/
theorem exists_after_leave (session : TraceSession) :
    ∃ context openSteps, session.after .leave =
      { session with tracer := { session.tracer with context }, openSteps } := by
  rw [after, leave?]
  split
  · exact ⟨_, _, rfl⟩
  · rename_i step rest opened
    by_cases same : step.owner = session.owner
    · exact ⟨step.previous, rest, by rw [if_pos same]; rfl⟩
    · exact ⟨session.tracer.context, rest, by rw [if_neg same]; rfl⟩

/-- What a call that is no start leaves, when it traces an event or none. -/
structure Continues (session after : TraceSession) (event : Option TraceEvent) : Prop where
  recorded : after.tracer.recorded = event.toList ++ session.tracer.recorded
  startTime : after.tracer.startTime = session.tracer.startTime
  reading : after.clock.reading = session.clock.reading
  taken : session.clock.taken + event.toList.length ≤ after.clock.taken

/-- Telling the tracer something goes on with the trace. -/
theorem continues_trace (session : TraceSession) (type : EventType) (data : Value) :
    session.Continues (session.trace type data).2 (session.event? type data) := by
  rw [trace_snd]
  refine ⟨rfl, rfl, ?_, ?_⟩
  · cases session.tracer.enabled <;> rfl
  · cases told : session.event? type data with
    | none =>
        cases session.tracer.enabled
        · exact Nat.le_refl _
        · exact Nat.le_succ _
    | some event =>
        rw [(of_event? told).1]
        exact Nat.le_refl _

/-- Every call but a start goes on with the trace. -/
theorem continues_after (session : TraceSession) (running : call ≠ .start) :
    session.Continues (session.after call) (session.traced? call) := by
  cases call with
  | start => exact absurd rfl running
  | enter context => exact ⟨rfl, rfl, rfl, Nat.le_refl _⟩
  | leave =>
      obtain ⟨context, openSteps, left⟩ := session.exists_after_leave
      rw [left]
      exact ⟨rfl, rfl, rfl, Nat.le_refl _⟩
  | enable enabled => exact ⟨rfl, rfl, rfl, Nat.le_refl _⟩
  | trace type data => exact continues_trace session type data
  | record happening => exact continues_trace session happening.type happening.data

/-- Without a start, the events that calls trace come on top of what was recorded. -/
theorem recorded_foldl_after (running : TraceCall.start ∉ calls) :
    (calls.foldl after session).tracer.recorded
      = (session.traced calls).reverse ++ session.tracer.recorded := by
  induction calls generalizing session with
  | nil => rfl
  | cons call rest inductionHypothesis =>
      have other : call ≠ .start := Ne.symm (List.ne_of_not_mem_cons running)
      have restRunning : .start ∉ rest := List.not_mem_of_not_mem_cons running
      have one : (session.traced? call).toList.reverse = (session.traced? call).toList := by
        cases session.traced? call <;> rfl
      rw [List.foldl_cons, inductionHypothesis restRunning,
        (session.continues_after other).recorded, traced, List.reverse_append, one,
        List.append_assoc]

/-- The clock of a session is read, but not changed. -/
theorem reading_after (session : TraceSession) (call : TraceCall) :
    (session.after call).clock.reading = session.clock.reading := by
  by_cases started : call = .start
  · rw [started]
    rfl
  · exact (session.continues_after started).reading

/-- The clock of a session is read by calls, but not changed. -/
theorem reading_foldl_after (session : TraceSession) (calls : List TraceCall) :
    (calls.foldl after session).clock.reading = session.clock.reading :=
  List.foldlRecOn calls after (motive := fun later => later.clock.reading = session.clock.reading)
    rfl fun later same call _ => (later.reading_after call).trans same

end TraceSession

section Times

variable {session : TraceSession} {call : TraceCall} {calls : List TraceCall}
  {start : Binary64} {event : TraceEvent}

/-- A clock that goes forward: no reading is below an earlier one. -/
structure Clock.Forward (clock : Clock) : Prop where
  isFinite : ∀ index, (clock.reading index).IsFinite
  atMost : ∀ {index later}, index ≤ later → (clock.reading index).AtMost (clock.reading later)

/-- The time of an event is at most that of another. -/
def TraceEvent.NotAfter (event other : TraceEvent) : Prop :=
  ∃ time otherTime, event.timestamp = .real time ∧ other.timestamp = .real otherTime ∧
    time.AtMost otherTime

namespace TraceSession

/-- The time of an event that a call traces is the next reading, less the start. -/
theorem timestamp_of_traced? (timed : session.tracer.startTime = .real start)
    (traced : session.traced? call = some event) :
    event.timestamp = .real (session.clock.now.sub start) := by
  obtain ⟨told, -, traced⟩ := Option.bind_eq_some_iff.1 traced
  have elapsing := (of_event? traced).2.2.2.1
  rw [timed] at elapsing
  exact (Except.ok.inj elapsing).symm

/-- The times of events that calls trace are readings from the next one on, less the start. -/
theorem timestamp_of_mem_traced (running : TraceCall.start ∉ calls)
    (timed : session.tracer.startTime = .real start) (member : event ∈ session.traced calls) :
    ∃ index, session.clock.taken ≤ index ∧
      event.timestamp = .real ((session.clock.reading index).sub start) := by
  induction calls generalizing session with
  | nil => exact absurd member List.not_mem_nil
  | cons call rest inductionHypothesis =>
      have other : call ≠ .start := Ne.symm (List.ne_of_not_mem_cons running)
      have restRunning : .start ∉ rest := List.not_mem_of_not_mem_cons running
      have next := session.continues_after other
      rcases List.mem_append.1 member with first | later
      · exact ⟨_, Nat.le_refl _, timestamp_of_traced? timed (Option.mem_toList.1 first)⟩
      · obtain ⟨index, bound, time⟩ :=
          inductionHypothesis restRunning (next.startTime.trans timed) later
        exact ⟨index, by have := next.taken; omega, next.reading ▸ time⟩

/-- On a clock that goes forward, calls trace events in the order of their times. -/
theorem pairwise_traced (forward : session.clock.Forward) (startFinite : start.IsFinite)
    (running : TraceCall.start ∉ calls) (timed : session.tracer.startTime = .real start) :
    (session.traced calls).Pairwise TraceEvent.NotAfter := by
  induction calls generalizing session with
  | nil => exact List.Pairwise.nil
  | cons call rest inductionHypothesis =>
      have other : call ≠ .start := Ne.symm (List.ne_of_not_mem_cons running)
      have restRunning : .start ∉ rest := List.not_mem_of_not_mem_cons running
      have next := session.continues_after other
      have forwardNext : (session.after call).clock.Forward :=
        ⟨next.reading ▸ forward.isFinite, next.reading ▸ forward.atMost⟩
      have later := inductionHypothesis forwardNext restRunning (next.startTime.trans timed)
      rw [traced]
      cases first : session.traced? call with
      | none => exact later
      | some event =>
          refine List.pairwise_cons.2 ⟨fun following member => ?_, later⟩
          obtain ⟨index, bound, time⟩ :=
            timestamp_of_mem_traced restRunning (next.startTime.trans timed) member
          rw [next.reading] at time
          have passed : session.clock.taken ≤ index := by have := next.taken; omega
          exact ⟨_, _, timestamp_of_traced? timed first, time,
            Binary64.sub_atMost (forward.isFinite _) (forward.isFinite _) startFinite
              (forward.atMost passed)⟩

end TraceSession

end Times

end ImageAtlas
