import ImageAtlas.Proofs.Trace.Traced

/-!
# Steps nest

A program that uses a tracer is made of steps that enclose programs, and is left by exceptions
(`TracedProgram`). A step is closed however its body ends. Every program leaves the open steps
as it found them (`TracedProgram.Ran`), so a step closes itself and puts back the context that
it was entered from, and what leaves its body leaves it too. Beside each event that a program
traces stand the steps of the program that are open at that time (`TracedProgram.traced`): the
event is in the context of the innermost one.
-/

namespace ImageAtlas

/-- A program that uses a tracer. An exception is one of the tracer's or one of its own. -/
inductive TracedProgram (ε : Type) where
  | skip
  | seq (first second : TracedProgram ε)
  | start
  | trace (type : EventType) (data : Value)
  | record (happening : Happening)
  | raise (exception : ε)
  | step (context : String) (body : TracedProgram ε)
  | attempt (body : TracedProgram ε) (handler : TraceFault ⊕ ε → TracedProgram ε)

/-- What works on a tracer in use and may be left by an exception. What was done before an
exception stays done. -/
abbrev Tracing (ε : Type) := ExceptT (TraceFault ⊕ ε) (StateM TraceSession)

/-- Tells the tracer something; where it fails, that is an exception. -/
def Tracing.tell (call : TraceSession → Except TraceFault Unit × TraceSession) : Tracing ε Unit :=
  ExceptT.mk fun session => ((call session).1.mapError .inl, (call session).2)

namespace TracedProgram

variable {ε : Type}

/-- Runs a program. -/
def run : TracedProgram ε → Tracing ε Unit
  | skip => pure ()
  | seq first second => do
      first.run
      second.run
  | start => modify (·.start)
  | trace type data => Tracing.tell (·.trace type data)
  | record happening => Tracing.tell (·.record happening)
  | raise exception => throw (.inr exception)
  | step context body => do
      modify (·.enter (.text context))
      try body.run
      finally modify fun session => session.leave?.getD session
  | attempt body handler =>
      try body.run
      catch exception => (handler exception).run

section Run

variable {first second body : TracedProgram ε} {handler : TraceFault ⊕ ε → TracedProgram ε}
  {session middle : TraceSession} {exception : TraceFault ⊕ ε}

/-- After a program that ends, the next one runs. -/
theorem run_seq_of_ok (ended : first.run session = (.ok (), middle)) :
    (seq first second).run session = second.run middle := by
  simp only [run, bind, ExceptT.bind, ExceptT.mk, StateT.bind, ended]
  rfl

/-- After an exception, the next program does not run. -/
theorem run_seq_of_error (left : first.run session = (.error exception, middle)) :
    (seq first second).run session = (.error exception, middle) := by
  simp only [run, bind, ExceptT.bind, ExceptT.mk, StateT.bind, left]
  rfl

/-- What ends without an exception needs no handler. -/
theorem run_attempt_of_ok (ended : body.run session = (.ok (), middle)) :
    (attempt body handler).run session = (.ok (), middle) := by
  simp only [run, tryCatch, tryCatchThe, MonadExceptOf.tryCatch, ExceptT.tryCatch, ExceptT.mk,
    bind, StateT.bind, ended]
  rfl

/-- An exception goes to the handler. -/
theorem run_attempt_of_error (left : body.run session = (.error exception, middle)) :
    (attempt body handler).run session = (handler exception).run middle := by
  simp only [run, tryCatch, tryCatchThe, MonadExceptOf.tryCatch, ExceptT.tryCatch, ExceptT.mk,
    bind, StateT.bind, left]

/-- What is done finally is done however a part ends, and the part ends as it does. -/
theorem finally_modify (part : Tracing ε Unit) (last : TraceSession → TraceSession)
    (session : TraceSession) :
    (tryFinally part (modify last) : Tracing ε Unit) session
      = ((part session).1, last (part session).2) := by
  rcases ended : part session with ⟨outcome, left⟩
  simp only [tryFinally, tryFinally', Functor.map, ExceptT.map, ExceptT.mk, bind, StateT.bind, pure,
    ended]
  cases outcome <;> rfl

/-- A step ends as its body ends in the entered session, and is closed. -/
theorem run_step (context : String) (body : TracedProgram ε) (session : TraceSession) :
    (step context body).run session
      = ((body.run (session.enter (.text context))).1,
          (body.run (session.enter (.text context))).2.leave?.getD
            (body.run (session.enter (.text context))).2) :=
  finally_modify body.run _ (session.enter (.text context))

end Run

/-- Whether a program starts the tracer in no step, and outside of steps only if that is
permitted. -/
def StartsOutside (permitted : Prop) : TracedProgram ε → Prop
  | seq first second => first.StartsOutside permitted ∧ second.StartsOutside permitted
  | start => permitted
  | step _ body => body.StartsOutside False
  | attempt body handler =>
      body.StartsOutside permitted ∧ ∀ exception, (handler exception).StartsOutside permitted
  | _ => True

/-- Where more is permitted, a program may start the tracer as well. -/
theorem StartsOutside.imp {permitted other : Prop} (imp : permitted → other) :
    ∀ {program : TracedProgram ε}, program.StartsOutside permitted → program.StartsOutside other
  | seq _ _, outside => ⟨outside.1.imp imp, outside.2.imp imp⟩
  | start, outside => imp outside
  | step _ _, outside => outside
  | attempt _ _, outside => ⟨outside.1.imp imp, fun exception => (outside.2 exception).imp imp⟩
  | skip, _ => trivial
  | trace _ _, _ => trivial
  | record _, _ => trivial
  | raise _, _ => trivial

/-- The events that a program traces, each with the steps of the program that are open at that
time, the innermost first. -/
def traced : TracedProgram ε → List String → TraceSession → List (List String × TraceEvent)
  | seq first second, opened, session =>
      first.traced opened session ++
        match first.run session with
        | (.ok _, middle) => second.traced opened middle
        | (.error _, _) => []
  | trace type data, opened, session => (session.event? type data).toList.map (opened, ·)
  | record happening, opened, session =>
      (session.event? happening.type happening.data).toList.map (opened, ·)
  | step context body, opened, session =>
      body.traced (context :: opened) (session.enter (.text context))
  | attempt body handler, opened, session =>
      body.traced opened session ++
        match body.run session with
        | (.ok _, _) => []
        | (.error exception, middle) => (handler exception).traced opened middle
  | _, _, _ => []

/-- What a part of a program leaves that traces events: the open steps are those that it found.
If it starts the tracer, the context may be empty and what was recorded before may be lost. -/
structure Ran (restarts : Prop) (events : List TraceEvent) (session after : TraceSession) :
    Prop where
  owner : after.owner = session.owner
  openSteps : after.openSteps = session.openSteps
  context : after.tracer.context = session.tracer.context ∨
    restarts ∧ after.tracer.context = .text ""
  recorded : after.tracer.recorded = events.reverse ++ session.tracer.recorded ∨
    restarts ∧ ∃ kept, kept <:+ events ∧ after.tracer.recorded = kept.reverse

namespace Ran

variable {restarts other : Prop} {events later : List TraceEvent}
  {session middle after : TraceSession}

/-- What is left as it was. -/
theorem refl (restarts : Prop) (session : TraceSession) : Ran restarts [] session session :=
  ⟨rfl, rfl, .inl rfl, .inl rfl⟩

/-- One part after another. -/
theorem trans (first : Ran restarts events session middle)
    (second : Ran restarts later middle after) :
    Ran restarts (events ++ later) session after := by
  refine ⟨second.owner.trans first.owner, second.openSteps.trans first.openSteps, ?_, ?_⟩
  · rcases second.context with same | cleared
    · rw [same]
      exact first.context
    · exact .inr cleared
  · rcases second.recorded with added | ⟨restarted, kept, last, recorded⟩
    · rcases first.recorded with before | ⟨restarted, kept, last, recorded⟩
      · left
        rw [added, before, List.reverse_append, List.append_assoc]
      · obtain ⟨front, rfl⟩ := last
        refine .inr ⟨restarted, kept ++ later, ⟨front, (List.append_assoc _ _ _).symm⟩, ?_⟩
        rw [added, recorded, List.reverse_append]
    · exact .inr ⟨restarted, kept, last.trans (List.suffix_append _ _), recorded⟩

/-- What may start the tracer or not. -/
theorem imp (ran : Ran restarts events session after) (imp : restarts → other) :
    Ran other events session after :=
  ⟨ran.owner, ran.openSteps, ran.context.imp_right (.imp_left imp),
    ran.recorded.imp_right (.imp_left imp)⟩

/-- A start. -/
theorem start (session : TraceSession) : Ran True [] session session.start :=
  ⟨rfl, rfl, .inr ⟨trivial, rfl⟩, .inr ⟨trivial, [], List.suffix_refl _, rfl⟩⟩

/-- Telling the tracer something. -/
theorem trace (restarts : Prop) (session : TraceSession) (type : EventType) (data : Value) :
    Ran restarts (session.event? type data).toList session (session.trace type data).2 := by
  rw [TraceSession.trace_snd]
  refine ⟨rfl, rfl, .inl rfl, .inl ?_⟩
  cases session.event? type data <;> rfl

/-- A step that is closed after its body is the one that was opened, so the context is put
back. -/
theorem leave (context : Value) (ran : Ran restarts events (session.enter context) after) :
    Ran restarts events session (after.leave?.getD after) ∧
      (after.leave?.getD after).tracer.context = session.tracer.context := by
  have own : session.owner = after.owner := ran.owner.symm
  have closed : after.leave?.getD after = { after with
      tracer := after.tracer.leave session.tracer.context
      openSteps := session.openSteps } := by
    rw [TraceSession.leave?, ran.openSteps]
    exact congrArg (fun tracer => { after with tracer, openSteps := session.openSteps })
      (if_pos own)
  rw [closed]
  exact ⟨⟨ran.owner, rfl, .inl rfl, ran.recorded⟩, rfl⟩

end Ran

/-- Events with the open steps beside them are the events. -/
theorem snd_labelled (opened : List String) (events : List TraceEvent) :
    (events.map (opened, ·)).map Prod.snd = events := by
  rw [List.map_map]
  exact List.map_id events

/-- A program leaves the open steps as it found them and records what it traces. -/
theorem ran (program : TracedProgram ε) (opened : List String) (session : TraceSession) :
    Ran (¬ program.StartsOutside False) ((program.traced opened session).map Prod.snd) session
      (program.run session).2 := by
  induction program generalizing opened session with
  | skip => exact .refl _ session
  | seq first second firstRan secondRan =>
      have firstPart : Ran (¬ (seq first second).StartsOutside False) _ session _ :=
        (firstRan opened session).imp (mt And.left)
      rw [traced, List.map_append]
      rcases ended : first.run session with ⟨outcome, middle⟩
      rw [ended] at firstPart
      cases outcome with
      | error exception =>
          rw [run_seq_of_error ended]
          exact firstPart.trans (.refl _ middle)
      | ok result =>
          rw [run_seq_of_ok ended]
          exact firstPart.trans ((secondRan opened middle).imp (mt And.right))
  | start => exact (Ran.start session).imp fun _ => not_false
  | trace type data =>
      rw [traced, snd_labelled]
      exact Ran.trace _ session type data
  | record happening =>
      rw [traced, snd_labelled]
      exact Ran.trace _ session happening.type happening.data
  | raise exception => exact .refl _ session
  | step context body bodyRan =>
      rw [run_step]
      exact (Ran.leave _ (bodyRan (context :: opened) _)).1
  | attempt body handler bodyRan handlerRan =>
      have bodyPart : Ran (¬ (attempt body handler).StartsOutside False) _ session _ :=
        (bodyRan opened session).imp (mt And.left)
      rw [traced, List.map_append]
      rcases ended : body.run session with ⟨outcome, middle⟩
      rw [ended] at bodyPart
      cases outcome with
      | ok result =>
          rw [run_attempt_of_ok ended]
          exact bodyPart.trans (.refl _ middle)
      | error exception =>
          rw [run_attempt_of_error ended]
          exact bodyPart.trans
            ((handlerRan exception opened middle).imp (mt fun outside => outside.2 exception))

/-- The context of the innermost open step, or the outer one where none is open. -/
def innermost (outer : Value) : List String → Value
  | [] => outer
  | context :: _ => .text context

/-- A program that may start the tracer only in the empty context keeps the context that its
events are in. -/
theorem context_run {permitted : Prop} {program : TracedProgram ε} {context : Value}
    (outside : program.StartsOutside permitted) (empty : permitted → context = .text "")
    {session : TraceSession} (here : session.tracer.context = context) :
    (program.run session).2.tracer.context = context := by
  rcases (program.ran [] session).context with same | ⟨starts, cleared⟩
  · rw [same, here]
  · have allowed : permitted := by
      by_contra refused
      exact starts (outside.imp refused)
    rw [cleared, empty allowed]

/-- An event that is traced when something is told is in the context of the tracer. -/
theorem context_of_told {opened : List String} {session : TraceSession} {type : EventType}
    {data : Value} {told : List String × TraceEvent}
    (member : told ∈ (session.event? type data).toList.map (opened, ·)) :
    told.1 = opened ∧ told.2.context = session.tracer.context := by
  obtain ⟨event, traced, rfl⟩ := List.mem_map.1 member
  exact ⟨rfl, (TraceSession.of_event? (Option.mem_toList.1 traced)).2.2.1⟩

/-- The events of a program are in the context of the innermost step that is open. -/
theorem context_of_mem_traced {program : TracedProgram ε} {permitted : Prop} {outer : Value}
    {opened : List String} {session : TraceSession} {told : List String × TraceEvent}
    (outside : program.StartsOutside permitted)
    (empty : permitted → innermost outer opened = .text "")
    (here : session.tracer.context = innermost outer opened)
    (member : told ∈ program.traced opened session) :
    told.2.context = innermost outer told.1 := by
  induction program generalizing permitted opened session with
  | skip => exact absurd member List.not_mem_nil
  | seq first second firstTold secondTold =>
      rw [traced] at member
      rcases List.mem_append.1 member with early | late
      · exact firstTold outside.1 empty here early
      · split at late
        · rename_i middle ended
          have there := context_run outside.1 empty here
          rw [ended] at there
          exact secondTold outside.2 empty there late
        · exact absurd late List.not_mem_nil
  | start => exact absurd member List.not_mem_nil
  | trace type data =>
      obtain ⟨within, context⟩ := context_of_told member
      rw [context, here, within]
  | record happening =>
      obtain ⟨within, context⟩ := context_of_told member
      rw [context, here, within]
  | raise exception => exact absurd member List.not_mem_nil
  | step context body bodyTold => exact bodyTold outside False.elim rfl member
  | attempt body handler bodyTold handlerTold =>
      rw [traced] at member
      rcases List.mem_append.1 member with early | late
      · exact bodyTold outside.1 empty here early
      · split at late
        · exact absurd late List.not_mem_nil
        · rename_i exception middle ended
          have there := context_run outside.1 empty here
          rw [ended] at there
          exact handlerTold exception (outside.2 exception) empty there late

/-- Whatever ends a program within steps ends the outermost of them as well. -/
theorem run_foldr_step (contexts : List String) (body : TracedProgram ε)
    (session : TraceSession) :
    ((contexts.foldr step body).run session).1
      = (body.run (contexts.foldl (fun inner context => inner.enter (.text context))
          session)).1 := by
  induction contexts generalizing session with
  | nil => rfl
  | cons context rest inductionHypothesis =>
      rw [List.foldr_cons, run_step, inductionHypothesis, List.foldl_cons]

end TracedProgram

/-- The context outside of all open steps, the innermost of which is in some context. -/
def OpenStep.outermost (context : Value) : List OpenStep → Value
  | [] => context
  | step :: rest => outermost step.previous rest

/-- The open steps of a session belong to its tracer, and outside of them the context is
empty. -/
structure TraceSession.Rooted (session : TraceSession) : Prop where
  owned : ∀ step ∈ session.openSteps, step.owner = session.owner
  outermost : OpenStep.outermost session.tracer.context session.openSteps = .text ""

namespace TraceSession

/-- Calls keep a session rooted. -/
theorem Rooted.after {session : TraceSession} (rooted : session.Rooted) (call : TraceCall) :
    (session.after call).Rooted := by
  have traced : ∀ type data, (session.trace type data).2.Rooted := by
    intro type data
    rw [trace_snd]
    exact ⟨rooted.owned, rooted.outermost⟩
  cases call with
  | start =>
      refine ⟨rooted.owned, ?_⟩
      have outermost := rooted.outermost
      rw [TraceSession.after, TraceSession.start]
      cases opened : session.openSteps with
      | nil => rfl
      | cons step rest =>
          rw [opened] at outermost
          exact outermost
  | enter context => exact ⟨List.forall_mem_cons.2 ⟨rfl, rooted.owned⟩, rooted.outermost⟩
  | leave =>
      rw [TraceSession.after, leave?]
      split
      · exact rooted
      · rename_i step rest opened
        obtain ⟨owned, outermost⟩ := rooted
        rw [opened] at owned outermost
        obtain ⟨own, others⟩ := List.forall_mem_cons.1 owned
        refine ⟨others, ?_⟩
        dsimp only [Option.getD_some]
        rw [if_pos own]
        exact outermost
  | enable enabled => exact ⟨rooted.owned, rooted.outermost⟩
  | trace type data => exact traced type data
  | record happening => exact traced happening.type happening.data

/-- After any calls of a tracer that is in the empty context, it is there again whenever no step
is open. -/
theorem context_of_openSteps_eq_nil {tracer : Tracer} (fresh : tracer.context = .text "")
    (clock : Clock) (calls : List TraceCall)
    (closed : (tracer.session clock calls).openSteps = []) :
    (tracer.session clock calls).tracer.context = .text "" := by
  have new : TraceSession.Rooted { tracer, clock } :=
    ⟨fun _ none => absurd none List.not_mem_nil, fresh⟩
  have rooted : (tracer.session clock calls).Rooted :=
    List.foldlRecOn calls after new fun _ rooted call _ => rooted.after call
  have outermost := rooted.outermost
  rwa [closed] at outermost

end TraceSession

/-- Steps nest, whatever ends them and whether the tracer records or not.

After a step the context is what it was before, also if the tracer was started within, and what
ends a program within any number of steps ends these steps as well. A program adds the events
that it traces to what is recorded; if it starts the tracer, a last part of them may be all that
is recorded. After any calls of a tracer, if the program does not start it within a step, be it
one of its own or one that is open around it, each event is in the context of the innermost step
of the program that is open at that time, or in the context before the program if there is
none. -/
theorem TracedProgram.steps_nest {ε : Type} :
    (∀ (context : String) (body : TracedProgram ε) (session : TraceSession),
      ((step context body).run session).2.tracer.context = session.tracer.context) ∧
    (∀ (contexts : List String) (body : TracedProgram ε) (session : TraceSession),
      ((contexts.foldr step body).run session).1
        = (body.run (contexts.foldl (fun inner context => inner.enter (.text context))
            session)).1) ∧
    (∀ (program : TracedProgram ε) (session : TraceSession),
      let events := (program.traced [] session).map Prod.snd
      (program.run session).2.tracer.recorded = events.reverse ++ session.tracer.recorded ∨
        ¬ program.StartsOutside False ∧
          ∃ kept, kept <:+ events ∧ (program.run session).2.tracer.recorded = kept.reverse) ∧
    (∀ (program : TracedProgram ε) (tracer : Tracer) (clock : Clock) (calls : List TraceCall),
      let session := tracer.session clock calls
      tracer.context = .text "" → program.StartsOutside (session.openSteps = []) →
        ∀ told ∈ program.traced [] session,
          told.2.context = innermost session.tracer.context told.1) := by
  refine ⟨fun context body session => ?_, run_foldr_step,
    fun program session => (program.ran [] session).recorded, ?_⟩
  · rw [run_step]
    exact (Ran.leave _ (body.ran [] _)).2
  · intro program tracer clock calls session fresh outside told
    exact context_of_mem_traced outside
      (TraceSession.context_of_openSteps_eq_nil fresh clock calls) rfl

/-- An exception that leaves two steps of one name and is handled in a third one. -/
example :
    let happening := Happening.pointers .null
    let program : TracedProgram Unit :=
      .step "outer" (.attempt
        (.step "inner" (.step "inner" (.seq (.record happening) (.raise ()))))
        fun _ => .record happening)
    (((program.seq (.record happening)).run { tracer := {}, clock := .counting }).2.tracer.events.map
      (·.context)) = [.text "inner", .text "outer", .text ""] :=
  rfl

end ImageAtlas
