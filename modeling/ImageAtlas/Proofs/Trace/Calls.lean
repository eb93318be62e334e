import ImageAtlas.Proofs.Json.RoundTrip
import ImageAtlas.Trace.Session

/-!
# Calls of a tracer

A tracer in use is called: it is started, steps are opened and closed, and events are
recorded. `TraceSession.after` carries out one call. If the data of all calls are such that
JSON can hold them, whatever the tracer holds is such, and this needs no more than that no
call spoils it.
-/

namespace ImageAtlas

/-- What a tracer in use is called for. A step that is to be closed is the innermost one, whether
it ends or is left by an exception. -/
inductive TraceCall where
  | start
  | enter (context : String)
  | leave
  | enable (enabled : Bool)
  | trace (type : EventType) (data : Value)
  | record (happening : Happening)

/-- Whether the data of a call, if it has any, are a table that JSON can hold. -/
def TraceCall.Storable : TraceCall → Prop
  | trace _ data => data = .null ∨ (data.isTable = true ∧ data.Storable)
  | record happening => happening.data.Storable
  | _ => True

/-- A tracer in use after a call. A call that fails records nothing. -/
def TraceSession.after (session : TraceSession) : TraceCall → TraceSession
  | .start => session.start
  | .enter context => session.enter (.text context)
  | .leave => session.leave?.getD session
  | .enable enabled => session.enable enabled
  | .trace type data => (session.trace type data).2
  | .record happening => (session.record happening).2

/-- A tracer after calls, one after the other, beginning with a clock. -/
def Tracer.after (tracer : Tracer) (clock : Clock) (calls : List TraceCall) : Tracer :=
  (calls.foldl TraceSession.after { tracer, clock }).tracer

/-- JSON can hold all that an event consists of. -/
structure TraceEvent.Storable (event : TraceEvent) : Prop where
  timestamp : event.timestamp.Storable
  context : event.context.Storable
  data : event.data.Storable

/-- JSON can hold all that a tracer has recorded. -/
structure Tracer.Storable (tracer : Tracer) : Prop where
  startTime : tracer.startTime.Storable
  context : tracer.context.Storable
  recorded : ∀ event ∈ tracer.recorded, event.Storable

/-- JSON can hold all that a tracer in use has recorded or goes back to. -/
structure TraceSession.Storable (session : TraceSession) : Prop where
  tracer : session.tracer.Storable
  openSteps : ∀ step ∈ session.openSteps, step.previous.Storable

/-- A table is its own data, and where there are none the data are empty. -/
theorem storable_of_dataOf {value data : Value}
    (table : value = .null ∨ (value.isTable = true ∧ value.Storable))
    (made : dataOf value = .ok data) : data.Storable := by
  have empty : Value.Storable (.table []) := .table (fun _ none => nomatch none) List.nodup_nil
  rw [dataOf] at made
  split at made
  · cases made
    exact empty
  · rename_i some
    rcases table with rfl | ⟨isTable, storable⟩
    · exact absurd rfl some
    · rw [if_pos isTable] at made
      cases made
      exact storable

/-- Recording leaves a disabled tracer as it is and adds an event to any other. -/
theorem Tracer.cases_of_trace {tracer after : Tracer} {now : Binary64} {type : EventType}
    {data : Value} (traced : tracer.trace now type data = .ok after) :
    (tracer.enabled = false ∧ after = tracer) ∨
      (tracer.enabled = true ∧ ∃ time entries, elapsed now tracer.startTime = .ok (.real time) ∧
        dataOf data = .ok entries ∧ after = { tracer with
          recorded := ⟨.real time, type, tracer.context, entries⟩ :: tracer.recorded }) := by
  rw [Tracer.trace] at traced
  cases enabled : tracer.enabled with
  | false =>
      rw [enabled] at traced
      cases traced
      exact .inl ⟨rfl, rfl⟩
  | true =>
      rw [enabled] at traced
      have timed : ∀ {timestamp}, elapsed now tracer.startTime = .ok timestamp →
          ∃ time, timestamp = .real time := by
        intro timestamp told
        rw [elapsed] at told
        cases began : realOf tracer.startTime with
        | error fault =>
            rw [began] at told
            cases told
        | ok start =>
            rw [began] at told
            cases told
            exact ⟨_, rfl⟩
      cases told : elapsed now tracer.startTime with
      | error fault =>
          rw [told] at traced
          cases traced
      | ok timestamp =>
          cases made : dataOf data with
          | error fault =>
              rw [told, made] at traced
              cases traced
          | ok entries =>
              rw [told, made] at traced
              cases traced
              obtain ⟨time, rfl⟩ := timed told
              exact .inr ⟨rfl, time, entries, rfl, rfl, rfl⟩

namespace TraceSession

variable {session : TraceSession}

/-- Recording keeps what JSON can hold. -/
theorem Storable.trace (storable : session.Storable) {type : EventType} {data : Value}
    (table : data = .null ∨ (data.isTable = true ∧ data.Storable)) :
    (session.trace type data).2.Storable := by
  rw [TraceSession.trace]
  cases traced : session.tracer.trace session.clock.now type data with
  | error fault => exact ⟨storable.tracer, storable.openSteps⟩
  | ok tracer =>
      refine ⟨?_, storable.openSteps⟩
      rcases Tracer.cases_of_trace traced with ⟨-, rfl⟩ | ⟨-, time, entries, -, made, rfl⟩
      · exact storable.tracer
      · refine ⟨storable.tracer.startTime, storable.tracer.context, ?_⟩
        intro event member
        rcases List.mem_cons.1 member with rfl | before
        · exact ⟨.real time, storable.tracer.context, storable_of_dataOf table made⟩
        · exact storable.tracer.recorded event before

/-- Every call keeps what JSON can hold. -/
theorem Storable.after (storable : session.Storable) {call : TraceCall}
    (calls : call.Storable) : (session.after call).Storable := by
  cases call with
  | start =>
      exact ⟨⟨.real _, .text "", fun _ none => nomatch none⟩, storable.openSteps⟩
  | enter context =>
      refine ⟨⟨storable.tracer.startTime, .text context, storable.tracer.recorded⟩, ?_⟩
      intro step member
      rcases List.mem_cons.1 member with rfl | before
      · exact storable.tracer.context
      · exact storable.openSteps step before
  | leave =>
      rw [TraceSession.after, leave?]
      split
      · exact storable
      · rename_i step rest opened
        have previous := storable.openSteps step (opened ▸ List.mem_cons_self)
        refine ⟨?_, fun other member => storable.openSteps other
          (opened ▸ List.mem_cons_of_mem _ member)⟩
        dsimp only
        split
        · exact ⟨storable.tracer.startTime, previous, storable.tracer.recorded⟩
        · exact storable.tracer
  | enable enabled =>
      exact ⟨⟨storable.tracer.startTime, storable.tracer.context, storable.tracer.recorded⟩,
        storable.openSteps⟩
  | trace type data => exact storable.trace calls
  | record happening =>
      have table : happening.data.isTable = true := by cases happening <;> rfl
      exact storable.trace (.inr ⟨table, calls⟩)

/-- No call changes the capacity. -/
theorem capacity_after (session : TraceSession) (call : TraceCall) :
    (session.after call).tracer.capacity = session.tracer.capacity := by
  have recorded : ∀ type data,
      (session.trace type data).2.tracer.capacity = session.tracer.capacity := by
    intro type data
    rw [TraceSession.trace]
    cases traced : session.tracer.trace session.clock.now type data with
    | error fault => rfl
    | ok tracer =>
        rcases Tracer.cases_of_trace traced with ⟨-, rfl⟩ | ⟨-, _, _, -, -, rfl⟩
        · rfl
        · rfl
  cases call with
  | start => rfl
  | enter context => rfl
  | leave =>
      rw [TraceSession.after, leave?]
      split
      · rfl
      · dsimp only [Option.getD_some]
        split
        · rfl
        · rfl
  | enable enabled => rfl
  | trace type data => exact recorded type data
  | record happening => exact recorded _ _

end TraceSession

namespace Tracer

variable {tracer : Tracer} {calls : List TraceCall}

/-- Calls keep what JSON can hold. -/
theorem Storable.after (storable : tracer.Storable) (clock : Clock)
    (each : ∀ call ∈ calls, call.Storable) : (tracer.after clock calls).Storable := by
  have new : TraceSession.Storable { tracer, clock } :=
    ⟨storable, fun _ none => absurd none List.not_mem_nil⟩
  have kept : (calls.foldl TraceSession.after { tracer, clock }).Storable :=
    List.foldlRecOn calls TraceSession.after new
      fun _ kept call member => kept.after (each call member)
  exact kept.tracer

/-- Calls do not change the capacity. -/
theorem capacity_after (tracer : Tracer) (clock : Clock) (calls : List TraceCall) :
    (tracer.after clock calls).capacity = tracer.capacity :=
  List.foldlRecOn calls TraceSession.after
    (motive := fun session => session.tracer.capacity = tracer.capacity) rfl
    fun session same call _ => (session.capacity_after call).trans same

/-- A new tracer is as it is by default, and its capacity is a word or there is no bound. -/
theorem eq_of_ofCapacity {enabled : Bool} {capacity : Value}
    (made : ofCapacity enabled capacity = .ok tracer) :
    tracer = { enabled, capacity := tracer.capacity } ∧
      ∀ room, tracer.capacity = some room → (room : Int) < wordBound := by
  unfold ofCapacity at made
  split at made
  · cases made
    exact ⟨rfl, fun _ none => nomatch none⟩
  · cases made
  · split at made
    · cases made
    · rename_i amount _
      split at made
      · cases made
      · split at made
        · cases made
        · cases made
          refine ⟨rfl, ?_⟩
          rintro room ⟨⟩
          omega

/-- Nothing is recorded by a new tracer, and its capacity is a word or there is no bound. -/
theorem of_ofCapacity {enabled : Bool} {capacity : Value}
    (made : ofCapacity enabled capacity = .ok tracer) :
    tracer.Storable ∧ ∀ room, tracer.capacity = some room → (room : Int) < wordBound := by
  obtain ⟨fresh, bounded⟩ := eq_of_ofCapacity made
  refine ⟨?_, bounded⟩
  rw [fresh]
  exact ⟨.real _, .text "", fun _ none => nomatch none⟩

end Tracer

end ImageAtlas
