import ImageAtlas.Proofs.Trace.Summary
import ImageAtlas.Proofs.Trace.Traced
import Mathlib.Data.List.DropRight

/-!
# A tracer keeps the newest events

Calls fall into those up to the last start and those since (`TraceCall.PartedAtStart`). A start
drops all that was recorded, so what is recorded afterwards are the events that the calls since
trace, and the events of the tracer are the newest of these, up to its capacity. One more event
drops the oldest of them where there is no room for it (`Tracer.events_record`). They follow
each other in time if the clock goes forward, and since every context is a text, the summary
tells what they are.
-/

namespace ImageAtlas

/-- Calls in two parts: up to the last start, and those since. -/
structure TraceCall.PartedAtStart (calls before since : List TraceCall) : Prop where
  parts : calls = before ++ since
  started : before = [] ∨ ∃ earlier, before = earlier ++ [.start]
  running : .start ∉ since

/-- All calls are parted at the last start. -/
theorem TraceCall.exists_partedAtStart (calls : List TraceCall) :
    ∃ before since, PartedAtStart calls before since := by
  induction calls using List.reverseRecOn with
  | nil => exact ⟨[], [], rfl, .inl rfl, List.not_mem_nil⟩
  | append_singleton calls call inductionHypothesis =>
      by_cases started : call = .start
      · exact ⟨_, [], (List.append_nil _).symm, .inr ⟨calls, by rw [started]⟩, List.not_mem_nil⟩
      · obtain ⟨before, since, parts, begun, running⟩ := inductionHypothesis
        refine ⟨before, since ++ [call], by rw [parts, List.append_assoc], begun, ?_⟩
        intro member
        rcases List.mem_append.1 member with earlier | last
        · exact running earlier
        · exact started (List.mem_singleton.1 last).symm

namespace TraceSession

variable {session : TraceSession} {call : TraceCall} {calls : List TraceCall}

/-- Every context of a session is a text. -/
structure Labelled (session : TraceSession) : Prop where
  context : ∃ label, session.tracer.context = .text label
  openSteps : ∀ step ∈ session.openSteps, ∃ label, step.previous = .text label
  recorded : ∀ event ∈ session.tracer.recorded, ∃ label, event.context = .text label

/-- Calls leave every context a text. -/
theorem Labelled.after (labelled : session.Labelled) (call : TraceCall) :
    (session.after call).Labelled := by
  have told : ∀ type data, (session.trace type data).2.Labelled := by
    intro type data
    rw [trace_snd]
    refine ⟨labelled.context, labelled.openSteps, fun event member => ?_⟩
    rcases List.mem_append.1 member with new | old
    · rw [(of_event? (Option.mem_toList.1 new)).2.2.1]
      exact labelled.context
    · exact labelled.recorded event old
  cases call with
  | start => exact ⟨⟨"", rfl⟩, labelled.openSteps, fun _ none => absurd none List.not_mem_nil⟩
  | enter context =>
      exact ⟨⟨context, rfl⟩, List.forall_mem_cons.2 ⟨labelled.context, labelled.openSteps⟩,
        labelled.recorded⟩
  | leave =>
      rw [TraceSession.after, leave?]
      split
      · exact labelled
      · rename_i step rest opened
        have previous := labelled.openSteps
        rw [opened] at previous
        obtain ⟨innermost, others⟩ := List.forall_mem_cons.1 previous
        dsimp only [Option.getD_some]
        split
        · exact ⟨innermost, others, labelled.recorded⟩
        · exact ⟨labelled.context, others, labelled.recorded⟩
  | enable enabled => exact ⟨labelled.context, labelled.openSteps, labelled.recorded⟩
  | trace type data => exact told type data
  | record happening => exact told happening.type happening.data

/-- Where times can be told, they can be told after a call. -/
theorem exists_startTime_after (timed : ∃ start, session.tracer.startTime = .real start)
    (call : TraceCall) : ∃ start, (session.after call).tracer.startTime = .real start := by
  by_cases started : call = .start
  · exact ⟨session.clock.now, by rw [started]; rfl⟩
  · exact timed.imp fun start told => (session.continues_after started).startTime.trans told

end TraceSession

namespace Tracer

/-- A new tracer that keeps some number of events. -/
def keeping (enabled : Bool) (maxEvents : Nat) : Tracer :=
  { enabled, capacity := some maxEvents }

variable {enabled : Bool} {maxEvents : Nat} {clock : Clock} {calls before since : List TraceCall}

/-- A tracer can be made for any number of events that is a word. -/
theorem ofCapacity_integer (enabled : Bool) (maxEvents : Nat) :
    ofCapacity enabled (.integer maxEvents)
      = if (maxEvents : Int) < wordBound then .ok (keeping enabled maxEvents)
        else .error .overflow := by
  have negative : ¬ (maxEvents : Int) < -wordBound := by
    rw [wordBound]
    omega
  simp only [ofCapacity, Value.wholeNumber?]
  by_cases word : (maxEvents : Int) < wordBound
  · rw [if_neg (not_or.2 ⟨Int.not_le.2 word, negative⟩), if_neg (by omega), if_pos word,
      Int.toNat_natCast]
    rfl
  · rw [if_pos (.inl (Int.not_lt.1 word)), if_neg word]

/-- The events of a tracer with a capacity are the newest that were recorded. -/
theorem events_eq_rtake {tracer : Tracer} (bounded : tracer.capacity = some maxEvents) :
    tracer.events = tracer.recorded.reverse.rtake maxEvents := by
  rw [events, bounded, List.rtake_eq_reverse_take_reverse, List.reverse_reverse]

/-- A tracer that records an event adds it to its events and drops the oldest of them if it has
as many as it keeps. -/
theorem events_record {tracer : Tracer} (bounded : tracer.capacity = some maxEvents)
    (event : TraceEvent) :
    { tracer with recorded := event :: tracer.recorded }.events =
      if tracer.events.length < maxEvents then tracer.events ++ [event]
      else (tracer.events ++ [event]).tail := by
  have kept : tracer.events.length = min maxEvents tracer.recorded.length := by
    rw [events, bounded, List.length_reverse, List.length_take]
  split
  · rename_i room
    have all : tracer.recorded.length < maxEvents := by omega
    rw [events_of_room bounded (Nat.le_of_lt all), ← List.reverse_cons]
    exact events_of_room bounded all
  · rename_i full
    have onward : maxEvents + 1 ≤ (event :: tracer.recorded).length := by
      rw [List.length_cons]
      omega
    have dropped : (event :: tracer.recorded.take maxEvents).dropLast
        = (event :: tracer.recorded).take maxEvents := by
      rw [← List.take_succ_cons, List.dropLast_eq_take, List.length_take,
        Nat.min_eq_left onward, List.take_take, Nat.add_sub_cancel,
        Nat.min_eq_left (Nat.le_succ maxEvents)]
    simp only [events, bounded]
    rw [← List.reverse_cons, List.tail_reverse, dropped]

/-- An enabled tracer that is told something records it in its context, and drops the oldest of
its events for it if it has no room. -/
theorem exists_event_of_trace {tracer told : Tracer} {now : Binary64} {type : EventType}
    {data : Value} (enabled : tracer.enabled = true) (bounded : tracer.capacity = some maxEvents)
    (traced : tracer.trace now type data = .ok told) :
    ∃ event : TraceEvent, event.type = type ∧ event.context = tracer.context ∧
      dataOf data = .ok event.data ∧
      told.events = if tracer.events.length < maxEvents then tracer.events ++ [event]
        else (tracer.events ++ [event]).tail := by
  rcases cases_of_trace traced with ⟨disabled, -⟩ | ⟨-, time, entries, -, described, rfl⟩
  · rw [enabled] at disabled
    cases disabled
  · exact ⟨_, rfl, rfl, described, events_record bounded _⟩

/-- Times can be told after any calls of a new tracer. -/
theorem exists_startTime (enabled : Bool) (maxEvents : Nat) (clock : Clock)
    (calls : List TraceCall) :
    ∃ start, ((keeping enabled maxEvents).session clock calls).tracer.startTime = .real start :=
  List.foldlRecOn calls TraceSession.after
    (motive := fun session => ∃ start, session.tracer.startTime = .real start) ⟨_, rfl⟩
    fun _ timed call _ => TraceSession.exists_startTime_after timed call

/-- At the start, nothing is recorded. -/
theorem recorded_of_partedAtStart (parted : TraceCall.PartedAtStart calls before since) :
    ((keeping enabled maxEvents).session clock before).tracer.recorded = [] := by
  rcases parted.started with rfl | ⟨earlier, rfl⟩
  · rfl
  · rw [session, List.foldl_concat]
    rfl

/-- On a clock that goes forward, the start is finite. -/
theorem exists_startTime_of_partedAtStart (enabled : Bool) (maxEvents : Nat)
    (forward : clock.Forward) (parted : TraceCall.PartedAtStart calls before since) :
    ∃ start, ((keeping enabled maxEvents).session clock before).tracer.startTime = .real start ∧
      start.IsFinite := by
  rcases parted.started with rfl | ⟨earlier, rfl⟩
  · exact ⟨.ofInt 0, rfl, _, _, _, rfl⟩
  · rw [session, List.foldl_concat]
    refine ⟨_, rfl, ?_⟩
    rw [Clock.now, TraceSession.reading_foldl_after]
    exact forward.isFinite _

/-- The events of a tracer are the newest of those that were traced since the last start. -/
theorem events_after (enabled : Bool) (maxEvents : Nat) (clock : Clock)
    (parted : TraceCall.PartedAtStart calls before since) :
    ((keeping enabled maxEvents).after clock calls).events
      = (((keeping enabled maxEvents).session clock before).traced since).rtake maxEvents := by
  have capacity : ((keeping enabled maxEvents).after clock calls).capacity = some maxEvents :=
    capacity_after _ _ _
  have continued : (keeping enabled maxEvents).after clock calls
      = (since.foldl TraceSession.after
          ((keeping enabled maxEvents).session clock before)).tracer := by
    rw [after, parted.parts, List.foldl_append]
    rfl
  rw [events_eq_rtake capacity, continued, TraceSession.recorded_foldl_after parted.running,
    recorded_of_partedAtStart parted, List.append_nil, List.reverse_reverse]

/-- A tracer keeps the newest events and its summary tells what they are.

It can be made for any number of events that is a word. What is told to it while it is enabled
is traced, with a time, the context at that time and the data, unless the data make no table.
Its events are the newest of those that were traced since the last start, as many as it keeps
or all of them, the oldest first; on a clock that goes forward their times do not decrease.
Events are found by type and context in the same order, and the summary describes the events
that are kept. -/
theorem keeps_newest_and_summarizes (enabled : Bool) (maxEvents : Nat) (clock : Clock)
    (calls : List TraceCall) :
    (ofCapacity enabled (.integer maxEvents) =
      if (maxEvents : Int) < wordBound then .ok (keeping enabled maxEvents)
      else .error .overflow) ∧
    (∀ earlier (call : TraceCall) type data table, call.told? = some (type, data) →
      dataOf data = .ok table →
      let session := (keeping enabled maxEvents).session clock earlier
      ∃ timestamp, session.traced? call =
        if session.tracer.enabled then
          some { timestamp, type, context := session.tracer.context, data := table }
        else none) ∧
    (∃ before since, TraceCall.PartedAtStart calls before since ∧
      let traced := ((keeping enabled maxEvents).session clock before).traced since
      ((keeping enabled maxEvents).after clock calls).events = traced.rtake maxEvents ∧
        ((keeping enabled maxEvents).after clock calls).events.length
          = min maxEvents traced.length) ∧
    (clock.Forward →
      ((keeping enabled maxEvents).after clock calls).events.Pairwise TraceEvent.NotAfter) ∧
    (∀ (type : Option EventType) (label : Option String), ∃ keep : TraceEvent → Bool,
      (∀ event, keep event = true ↔
        (∀ wanted ∈ type, event.type = wanted) ∧
          ∀ wanted ∈ label, event.context = .text wanted) ∧
      ((keeping enabled maxEvents).after clock calls).eventsOf type (label.map .text)
        = ((keeping enabled maxEvents).after clock calls).events.filter keep) ∧
    ((keeping enabled maxEvents).after clock calls).summary.Describes
      ((keeping enabled maxEvents).after clock calls).events := by
  obtain ⟨before, since, parted⟩ := TraceCall.exists_partedAtStart calls
  have events := events_after enabled maxEvents clock parted
  refine ⟨ofCapacity_integer enabled maxEvents, ?_, ⟨before, since, parted, events, ?_⟩, ?_,
    eventsOf_text _, summary_describes ?_⟩
  · intro earlier call type data table told described session
    obtain ⟨start, timed⟩ := exists_startTime enabled maxEvents clock earlier
    refine ⟨.real (session.clock.now.sub start), ?_⟩
    rw [TraceSession.traced?, told]
    exact TraceSession.event?_of_timed timed described
  · rw [events, List.rtake, List.length_drop]
    omega
  · intro forward
    obtain ⟨start, timed, finite⟩ :=
      exists_startTime_of_partedAtStart enabled maxEvents forward parted
    have forwardThere : ((keeping enabled maxEvents).session clock before).clock.Forward := by
      have reading : ((keeping enabled maxEvents).session clock before).clock.reading
          = clock.reading := TraceSession.reading_foldl_after _ _
      exact ⟨reading ▸ forward.isFinite, reading ▸ forward.atMost⟩
    rw [events]
    exact (TraceSession.pairwise_traced forwardThere finite parted.running timed).sublist
      (List.drop_sublist _ _)
  · have fresh : TraceSession.Labelled { tracer := keeping enabled maxEvents, clock } :=
      ⟨⟨"", rfl⟩, fun _ none => absurd none List.not_mem_nil,
        fun _ none => absurd none List.not_mem_nil⟩
    have labelled : ((keeping enabled maxEvents).session clock calls).Labelled :=
      List.foldlRecOn calls TraceSession.after fresh fun _ labelled call _ => labelled.after call
    exact fun event listed => labelled.recorded event (mem_recorded_of_mem_events listed)

/-- A tracer that keeps two events has the last two of the three that were traced since the
start. -/
example :
    ((keeping true 2).after .counting
      [.record (.pointers .null), .start, .enter "names", .record (.searchStart .null), .leave,
        .enable false, .record (.exhausted .null), .enable true, .record (.pointers .null),
        .enter "types", .record (.exhausted .null)]).events.map
          (fun event => (event.type, event.context))
      = [(.pointersDiscovered, .text ""), (.searchExhausted, .text "types")] :=
  rfl

end Tracer

end ImageAtlas
