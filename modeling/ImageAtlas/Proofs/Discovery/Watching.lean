import ImageAtlas.Proofs.Discovery.Effects
import ImageAtlas.Proofs.Trace.Calls
import Mathlib.Data.List.Forall2

/-!
# Watching a discovery

A tracer that watches a discovery has no say in it. `Steady` tell so of a part: whatever
tracer watches and whatever the clock shows, the part comes to the same result, leaves the
same space, gives the same notices and tells the same things, or it fails under every tracer.
Only a tracer that is enabled and can tell no times makes a part fail that passes otherwise.

`Heard` tell what being told leaves in a tracer: one event more for each thing, if it is
enabled, in order and in the step in which it was told.
-/

namespace ImageAtlas

/-- What was told, and the step of the trace in which it was. -/
structure Told where
  context : Value
  happening : Happening

/-- An event tells what was told. -/
structure TraceEvent.Tells (event : TraceEvent) (told : Told) : Prop where
  type : event.type = told.happening.type
  context : event.context = told.context
  data : event.data = told.happening.data

namespace Tracer

variable {tracer middle later : Tracer} {told more : List Told} {now : Binary64}
  {happening : Happening}

/-- A tracer can tell the times of what it records: it is disabled, or its start is a
number. -/
def KeepsTime (tracer : Tracer) : Prop :=
  tracer.enabled = true → ∃ start, realOf tracer.startTime = .ok start

/-- New tracers keep time. -/
theorem keepsTime_of_ofCapacity {enabled : Bool} {capacity : Value}
    (made : ofCapacity enabled capacity = .ok tracer) : tracer.KeepsTime := by
  rw [(eq_of_ofCapacity made).1]
  exact fun _ => ⟨_, rfl⟩

/-- Tracers that were started keep time. -/
theorem keepsTime_start (tracer : Tracer) (now : Binary64) : (tracer.start now).KeepsTime :=
  fun _ => ⟨now, rfl⟩

/-- A tracer after it was told of things. If it is enabled it has recorded an event for each;
else about it nothing has changed. -/
structure Heard (tracer : Tracer) (told : List Told) (later : Tracer) : Prop where
  enabled : later.enabled = tracer.enabled
  capacity : later.capacity = tracer.capacity
  startTime : later.startTime = tracer.startTime
  context : later.context = tracer.context
  recorded : tracer.enabled = true →
    ∃ events, later.recorded = events.reverse ++ tracer.recorded ∧
      List.Forall₂ TraceEvent.Tells events told

namespace Heard

/-- A tracer that was told nothing. -/
theorem nothing (tracer : Tracer) : tracer.Heard [] tracer :=
  ⟨rfl, rfl, rfl, rfl, fun _ => ⟨[], rfl, .nil⟩⟩

/-- A tracer that was told more. -/
theorem trans (first : tracer.Heard told middle) (second : middle.Heard more later) :
    tracer.Heard (told ++ more) later where
  enabled := second.enabled.trans first.enabled
  capacity := second.capacity.trans first.capacity
  startTime := second.startTime.trans first.startTime
  context := second.context.trans first.context
  recorded enabled := by
    obtain ⟨before, recorded, tell⟩ := first.recorded enabled
    obtain ⟨after, further, tellMore⟩ := second.recorded (first.enabled.trans enabled)
    refine ⟨before ++ after, ?_, List.rel_append tell tellMore⟩
    rw [further, recorded, List.reverse_append, List.append_assoc]

/-- Being told changes nothing about the times. -/
theorem keepsTime_iff (heard : tracer.Heard told later) :
    later.KeepsTime ↔ tracer.KeepsTime := by
  rw [KeepsTime, KeepsTime, heard.enabled, heard.startTime]

/-- What is told in a step is told. -/
theorem leave {context : Value} (heard : (tracer.enter context).Heard told later) :
    tracer.Heard told (later.leave tracer.context) :=
  ⟨heard.enabled, heard.capacity, heard.startTime, rfl, heard.recorded⟩

/-- If the capacity suffices, the events are those from before and one for each thing that
was told. -/
theorem exists_events (heard : tracer.Heard told later) (enabled : tracer.enabled = true)
    (room : ∀ capacity, tracer.capacity = some capacity →
      tracer.recorded.length + told.length ≤ capacity) :
    ∃ events, later.events = tracer.events ++ events ∧
      List.Forall₂ TraceEvent.Tells events told := by
  obtain ⟨events, recorded, tell⟩ := heard.recorded enabled
  refine ⟨events, ?_, tell⟩
  rw [Tracer.events, Tracer.events, heard.capacity, recorded]
  cases bound : tracer.capacity with
  | none => simp
  | some capacity =>
      have fits := room capacity bound
      have length := tell.length_eq
      have whole : (events.reverse ++ tracer.recorded).length ≤ capacity := by
        rw [List.length_append, List.length_reverse]
        omega
      dsimp only
      rw [List.take_of_length_le whole, List.take_of_length_le (by omega)]
      simp

end Heard

/-- A tracer that records a happening has been told of it. -/
theorem heard_of_trace
    (traced : tracer.trace now happening.type happening.data = .ok later) :
    tracer.Heard [⟨tracer.context, happening⟩] later := by
  rcases Tracer.cases_of_trace traced with ⟨disabled, rfl⟩ | ⟨-, time, entries, -, made, rfl⟩
  · refine ⟨rfl, rfl, rfl, rfl, fun enabled => ?_⟩
    rw [disabled] at enabled
    cases enabled
  · rw [happening.dataOf_data] at made
    cases made
    exact ⟨rfl, rfl, rfl, rfl, fun _ => ⟨[_], rfl, .cons ⟨rfl, rfl, rfl⟩ .nil⟩⟩

/-- A tracer that keeps time records what happens. -/
theorem KeepsTime.exists_trace (keeps : tracer.KeepsTime) (now : Binary64)
    (happening : Happening) :
    ∃ later, tracer.trace now happening.type happening.data = .ok later := by
  cases enabled : tracer.enabled with
  | false => exact ⟨tracer, by rw [trace, enabled]; rfl⟩
  | true =>
      obtain ⟨start, began⟩ := keeps enabled
      simp [trace, enabled, happening.dataOf_data, elapsed, began, Except.map]

end Tracer

namespace Discovery

variable {α β : Type} {part other : Discovery α} {space : Space} {step : Option Value}
  {fine loose : α → Space → List Told → Prop}

/-- Behind a part that passes the next one goes on. -/
theorem bind_apply {next : α → Discovery β} {state middle : DiscoveryState} {result : α}
    (ran : part state = .ok result middle) : (part >>= next) state = next result middle := by
  simp [Bind.bind, EStateM.bind, ran]

/-- A part fails. -/
def Fails (part : Discovery α) (state : DiscoveryState) : Prop :=
  ∃ fault ended, part state = .error fault ended

/-- Parts in a row fail if the first one does. -/
theorem Fails.bind {next : α → Discovery β} {state : DiscoveryState}
    (failed : Fails part state) : Fails (part >>= next) state := by
  obtain ⟨fault, ended, ran⟩ := failed
  exact ⟨fault, ended, by simp [Bind.bind, EStateM.bind, ran]⟩

/-- A part ends alike whatever tracer watches it, if that tracer can tell times. It begins in
a space, and in a step of the trace if that makes a difference. What is fine about it holds
of its result, the space that it leaves and what it tells. -/
inductive Steady (part : Discovery α) (space : Space) (step : Option Value)
    (fine : α → Space → List Told → Prop) : Prop where
  | passes {last : Space} {told : List Told} (result : α) (notices : List Notice)
      (holds : fine result last told)
      (watched : ∀ state : DiscoveryState, state.space = space →
        (∀ context ∈ step, state.tracer.context = context) →
          (∃ tracer clock,
            part state = .ok result ⟨last, tracer, clock, state.notices ++ notices⟩ ∧
              state.tracer.Heard told tracer) ∨ (Fails part state ∧ ¬ state.tracer.KeepsTime))
  | fails (watched : ∀ state : DiscoveryState, state.space = space →
      (∀ context ∈ step, state.tracer.context = context) → Fails part state)

namespace Steady

/-- What is fine about a part may be told more loosely. -/
theorem imp (steady : Steady part space step fine)
    (looser : ∀ {result last told}, fine result last told → loose result last told) :
    Steady part space step loose := by
  cases steady with
  | passes result notices holds watched => exact .passes result notices (looser holds) watched
  | fails watched => exact .fails watched

/-- A part that goes on as a steady one when it has moved on to a space and given notices is
steady. -/
theorem moved {middle : Space} (given : List Notice) (steady : Steady other middle step fine)
    (same : ∀ state : DiscoveryState, state.space = space → part state =
      other { state with space := middle, notices := state.notices ++ given }) :
    Steady part space step fine := by
  cases steady with
  | passes result notices holds watched =>
      refine .passes result (given ++ notices) holds fun state here inside => ?_
      rw [Fails, same state here, ← List.append_assoc]
      exact watched { state with space := middle, notices := state.notices ++ given } rfl inside
  | fails watched =>
      refine .fails fun state here inside => ?_
      rw [Fails, same state here]
      exact watched { state with space := middle, notices := state.notices ++ given } rfl inside

/-- A part is as steady as another one that comes to the same in the space. -/
theorem congr (steady : Steady other space step fine)
    (same : ∀ state : DiscoveryState, state.space = space → part state = other state) :
    Steady part space step fine := by
  refine steady.moved [] fun state here => ?_
  rw [same state here, ← here, List.append_nil]

/-- A result that is there already. -/
theorem pure {result : α} (holds : fine result space []) :
    Steady (Pure.pure result) space step fine := by
  refine .passes result [] holds fun state here _ => .inl ⟨state.tracer, state.clock, ?_⟩
  rw [List.append_nil, ← here]
  exact ⟨rfl, .nothing _⟩

/-- Parts in a row are steady. -/
theorem bind {next : α → Discovery β} {last : β → Space → List Told → Prop}
    (first : Steady part space step fine)
    (second : ∀ {result middle told}, fine result middle told →
      Steady (next result) middle step fun final ended more => last final ended (told ++ more)) :
    Steady (part >>= next) space step last := by
  cases first with
  | fails watched => exact .fails fun state here inside => (watched state here inside).bind
  | @passes middle told result notices holds watched =>
      -- Where the first part passes, the second one goes on in the same step of the trace.
      cases second holds with
      | fails further =>
          refine .fails fun state here inside => ?_
          rcases watched state here inside with ⟨tracer, clock, ran, heard⟩ | ⟨failed, -⟩
          · obtain ⟨fault, ended, failed⟩ :=
              further ⟨middle, tracer, clock, state.notices ++ notices⟩ rfl
                fun context here => heard.context.trans (inside context here)
            exact ⟨fault, ended, by rw [bind_apply ran, failed]⟩
          · exact failed.bind
      | passes final others fineLast further =>
          refine .passes final (notices ++ others) fineLast fun state here inside => ?_
          rcases watched state here inside with ⟨tracer, clock, ran, heard⟩ | ⟨failed, timeless⟩
          · rcases further ⟨middle, tracer, clock, state.notices ++ notices⟩ rfl
              (fun context here => heard.context.trans (inside context here)) with
              ⟨later, time, onward, heardMore⟩ | ⟨⟨fault, ended, failed⟩, timeless⟩
            · refine .inl ⟨later, time, ?_, heard.trans heardMore⟩
              rw [bind_apply ran, ← List.append_assoc]
              exact onward
            · refine .inr ⟨⟨fault, ended, by rw [bind_apply ran, failed]⟩, ?_⟩
              exact fun keeps => timeless (heard.keepsTime_iff.2 keeps)
          · exact .inr ⟨failed.bind, timeless⟩

/-- A step of the trace is as steady as what is done in it. -/
theorem inStep {name : String} (steady : Steady part space (some (.text name)) fine) :
    Steady (Discovery.inStep name part) space step fine := by
  have failing : ∀ {state : DiscoveryState},
      Fails part { state with tracer := state.tracer.enter (.text name) } →
        Fails (Discovery.inStep name part) state := by
    rintro state ⟨fault, ended, ran⟩
    exact ⟨fault, _, by rw [Discovery.inStep, ran]⟩
  have entered : ∀ {tracer : Tracer}, ∀ context ∈ some (Value.text name),
      (tracer.enter (.text name)).context = context := by
    rintro tracer context ⟨⟩
    rfl
  cases steady with
  | fails watched => exact .fails fun state here _ => failing (watched _ here entered)
  | passes result notices holds watched =>
      refine .passes result notices holds fun state here _ => ?_
      rcases watched { state with tracer := state.tracer.enter (.text name) } here entered with
        ⟨tracer, clock, ran, heard⟩ | ⟨failed, timeless⟩
      · exact .inl ⟨_, clock, by rw [Discovery.inStep, ran], heard.leave⟩
      · exact .inr ⟨failing failed, timeless⟩

/-- What a steady part does to the space is fine about it. -/
theorem and_does {effect : α → Space → Prop} {kind : Fault → Prop}
    (steady : Steady part space step fine)
    (does : ∀ state : DiscoveryState, state.space = space → Does part state effect kind) :
    Steady part space step fun result last told =>
      fine result last told ∧ effect result last := by
  cases steady with
  | fails watched => exact .fails watched
  | passes result notices holds watched =>
      -- A disabled tracer does not keep the part from passing.
      let unwatched : DiscoveryState :=
        { space, tracer := { enabled := false, context := step.getD .null }, clock := .counting }
      have inside : ∀ context ∈ step, unwatched.tracer.context = context := by
        rintro context ⟨⟩
        rfl
      refine .passes result notices ⟨holds, ?_⟩ watched
      rcases watched unwatched rfl inside with ⟨tracer, clock, ran, -⟩ | ⟨-, timeless⟩
      · exact ((does unwatched rfl).of_ok ran).1
      · exact absurd (fun enabled => nomatch enabled) timeless

end Steady

/-- A notice tells nothing. -/
theorem steady_note (notice : Notice) (space : Space) (step : Option Value) :
    Steady (note notice) space step fun _ last told => last = space ∧ told = [] := by
  have nothing : Steady (Pure.pure ()) space step fun _ last told => last = space ∧ told = [] :=
    .pure ⟨rfl, rfl⟩
  refine nothing.moved [notice] fun state here => ?_
  rw [← here]
  rfl

/-- What is told is told in the step in which one is. -/
theorem steady_tell (happening : Happening) (space : Space) (context : Value) :
    Steady (tell happening) space (some context) fun _ last told =>
      last = space ∧ told = [⟨context, happening⟩] := by
  refine .passes () [] ⟨rfl, rfl⟩ fun state here inside => ?_
  cases traced : state.tracer.trace state.clock.now happening.type happening.data with
  | ok tracer =>
      obtain ⟨clock, told⟩ := exists_tell_of_ok traced
      have heard := Tracer.heard_of_trace traced
      rw [inside context rfl] at heard
      exact .inl ⟨tracer, clock, by rw [told, ← here, List.append_nil], heard⟩
  | error fault =>
      obtain ⟨clock, told⟩ := exists_tell_of_error traced
      refine .inr ⟨⟨_, _, told⟩, fun keeps => ?_⟩
      obtain ⟨later, recorded⟩ := keeps.exists_trace state.clock.now happening
      rw [traced] at recorded
      cases recorded

/-- Several things are told one after the other. -/
theorem steady_tellEach (happening : β → Happening) (things : List β) (space : Space)
    (context : Value) :
    Steady (things.forM fun thing => tell (happening thing)) space (some context) fun _ last told =>
      last = space ∧ told = things.map fun thing => ⟨context, happening thing⟩ := by
  induction things with
  | nil => exact .pure ⟨rfl, rfl⟩
  | cons thing rest inductionHypothesis =>
      refine (steady_tell (happening thing) space context).bind ?_
      rintro _ middle told ⟨rfl, rfl⟩
      refine inductionHypothesis.imp ?_
      rintro _ last more ⟨rfl, rfl⟩
      exact ⟨rfl, rfl⟩

/-- An operation that is carried out tells nothing. -/
theorem steady_carryOut (operation : Space → Change α) (space : Space) (step : Option Value) :
    Steady (carryOut operation) space step fun result last told =>
      (operation space).outcome = .ok result ∧ last = (operation space).space ∧ told = [] := by
  cases outcome : (operation space).outcome with
  | ok result =>
      have done : Steady (Pure.pure result) (operation space).space step fun value last told =>
          Except.ok result = (.ok value : Except Fault α) ∧ last = (operation space).space ∧
            told = [] := .pure ⟨rfl, rfl, rfl⟩
      refine done.moved (operation space).notices fun state here => ?_
      subst here
      rw [carryOut_of_ok outcome]
      rfl
  | error fault =>
      refine .fails fun state here _ => ?_
      subst here
      exact ⟨_, _, carryOut_of_error outcome⟩

end Discovery

end ImageAtlas
