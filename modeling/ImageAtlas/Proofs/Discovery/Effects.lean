import ImageAtlas.Discovery
import ImageAtlas.Proofs.Ending
import ImageAtlas.Proofs.Space.AlignedPointers
import ImageAtlas.Proofs.Space.SearchHit

/-!
# What the parts of a discovery do

Every part of a discovery changes the space by operations on spaces, tells the tracer
and gives notices. `Does` says what a part does to the space and by which faults of the
space it can fail, whatever the tracer and the clock are: a tracer can only make a part
fail, and only one whose start is no time. The lemmas here say so for the pointers, for
anchoring one region and for one search.
-/

namespace ImageAtlas

/-- The start of the trace is a floating-point number, so that times can be told. -/
def DiscoveryState.Timed (state : DiscoveryState) : Prop :=
  ∃ start, state.tracer.startTime = .real start

namespace Tracer

variable {tracer later : Tracer} {now : Binary64} {type : EventType} {data : Value}

/-- Recording leaves the start of a trace. -/
theorem startTime_of_trace (traced : tracer.trace now type data = .ok later) :
    later.startTime = tracer.startTime := by
  rw [trace] at traced
  split at traced
  · cases traced
    rfl
  · split at traced
    · cases traced
    · cases traced
    · cases traced
      rfl

/-- Where times can be told, every event whose data make a table is recorded. -/
theorem exists_trace {start : Binary64} {table : Value} (timed : tracer.startTime = .real start)
    (described : dataOf data = .ok table) : ∃ later, tracer.trace now type data = .ok later := by
  rw [trace]
  split
  · exact ⟨_, rfl⟩
  · rw [timed, described]
    exact ⟨_, rfl⟩

end Tracer

/-- What a happening carries is a table. -/
theorem Happening.dataOf_data (happening : Happening) :
    dataOf happening.data = .ok happening.data := by
  cases happening <;> rfl

namespace Discovery

variable {α β : Type} {state : DiscoveryState} {part : Discovery α}
  {fine : α → Space → Prop} {kind : Fault → Prop}

/-- A part fails by a fault of the space that is of some kind, or because no times can
be told. -/
def FailsBy (state : DiscoveryState) (kind : Fault → Prop) : DiscoveryFault → Prop
  | .space fault => kind fault
  | .trace _ => ¬ state.Timed

/-- What a part of a discovery does: what holds of its result and the space that it
leaves, and the kind of the faults of the space by which it can fail. The start of the
trace stays what it was. -/
def Does (part : Discovery α) (state : DiscoveryState) (fine : α → Space → Prop)
    (kind : Fault → Prop) : Prop :=
  Ends part state
    (fun result ended => fine result ended.space ∧
      ended.tracer.startTime = state.tracer.startTime)
    (FailsBy state kind)

namespace Does

/-- What a part does may be told more loosely. -/
theorem imp {looseFine : α → Space → Prop} {looseKind : Fault → Prop}
    (does : Does part state fine kind)
    (fineImp : ∀ {result space}, fine result space → looseFine result space)
    (kindImp : ∀ {fault}, kind fault → looseKind fault) :
    Does part state looseFine looseKind := by
  refine Ends.imp does (fun ended => ⟨fineImp ended.1, ended.2⟩) ?_
  intro fault failed
  cases fault with
  | space fault => exact kindImp failed
  | trace fault => exact failed

/-- What parts in a row do. -/
theorem bind {next : α → Discovery β} {last : β → Space → Prop}
    (first : Does part state fine kind)
    (second : ∀ {result} {middle : DiscoveryState}, fine result middle.space →
      Does (next result) middle last kind) :
    Does (part >>= next) state last kind := by
  refine Ends.bind first ?_
  rintro result middle ⟨left, start⟩
  refine Ends.imp (second left) (fun ended => ⟨ended.1, ended.2.trans start⟩) ?_
  intro fault failed
  cases fault with
  | space fault => exact failed
  | trace fault =>
      rintro ⟨time, timed⟩
      exact failed ⟨time, start.trans timed⟩

/-- Looking at the state does nothing. -/
theorem get_bind {next : DiscoveryState → Discovery α}
    (does : Does (next state) state fine kind) : Does (get >>= next) state fine kind :=
  Ends.congr does rfl

/-- A state that is put in place of another is worked on from there. -/
theorem set_bind {next : Unit → Discovery α} {later : DiscoveryState}
    (same : later.tracer.startTime = state.tracer.startTime)
    (does : Does (next ()) later fine kind) : Does (set later >>= next) state fine kind := by
  have onward : Ends (set later >>= next) state _ _ := Ends.congr does rfl
  refine onward.imp (fun ended => ⟨ended.1, ended.2.trans same⟩) ?_
  intro fault failed
  cases fault with
  | space fault => exact failed
  | trace fault =>
      rintro ⟨time, timed⟩
      exact failed ⟨time, same.trans timed⟩

/-- A result that is there already. -/
theorem pure {result : α} (holds : fine result state.space) :
    Does (Pure.pure result) state fine kind :=
  Ends.ok rfl ⟨holds, rfl⟩

/-- A part fails by a fault. -/
theorem throw {fault : Fault} (holds : kind fault) :
    Does (MonadExcept.throw (DiscoveryFault.space fault)) state fine kind :=
  Ends.error rfl holds

/-- A step of the trace does what is done in it. -/
theorem inStep {context : String}
    (does : ∀ tracer, tracer.startTime = state.tracer.startTime →
      Does part { state with tracer } fine kind) :
    Does (Discovery.inStep context part) state fine kind := by
  have inside := does (state.tracer.enter (.text context)) rfl
  cases ran : part { state with tracer := state.tracer.enter (.text context) } with
  | ok result ended =>
      have left : Discovery.inStep context part state =
          .ok result { ended with tracer := ended.tracer.leave state.tracer.context } := by
        rw [Discovery.inStep, ran]
      obtain ⟨holds, same⟩ := inside.of_ok ran
      exact Ends.ok left ⟨holds, same⟩
  | error fault ended =>
      have left : Discovery.inStep context part state =
          .error fault { ended with tracer := ended.tracer.leave state.tracer.context } := by
        rw [Discovery.inStep, ran]
      exact Ends.error left (inside.of_error ran)

end Does

/-- What looks at the state first goes on with it. -/
theorem get_bind_apply (next : DiscoveryState → Discovery α) (state : DiscoveryState) :
    (get >>= next) state = next state state :=
  rfl

/-- A tracer that records what it is told is the only thing that telling changes, but for the
clock. -/
theorem exists_tell_of_ok {happening : Happening} {tracer : Tracer}
    (recorded : state.tracer.trace state.clock.now happening.type happening.data = .ok tracer) :
    ∃ clock, tell happening state = .ok () { state with clock, tracer } := by
  simp only [tell, get_bind_apply, recorded]
  cases state.tracer.enabled
  · exact ⟨_, rfl⟩
  · exact ⟨_, rfl⟩

/-- Telling a tracer that cannot record fails. -/
theorem exists_tell_of_error {happening : Happening} {fault : TraceFault}
    (failed : state.tracer.trace state.clock.now happening.type happening.data = .error fault) :
    ∃ clock, tell happening state = .error (.trace fault) { state with clock } := by
  simp only [tell, get_bind_apply, failed]
  cases state.tracer.enabled
  · exact ⟨_, rfl⟩
  · exact ⟨_, rfl⟩

/-- What an operation leaves is taken over when it has a result. -/
theorem carryOut_of_ok {operation : Space → Change α} {result : α}
    (outcome : (operation state.space).outcome = .ok result) :
    carryOut operation state = .ok result
      { state with space := (operation state.space).space
                   notices := state.notices ++ (operation state.space).notices } := by
  simp only [carryOut, get_bind_apply, outcome]
  rfl

/-- What an operation leaves is taken over when it fails. -/
theorem carryOut_of_error {operation : Space → Change α} {fault : Fault}
    (outcome : (operation state.space).outcome = .error fault) :
    carryOut operation state = .error (.space fault)
      { state with space := (operation state.space).space
                   notices := state.notices ++ (operation state.space).notices } := by
  simp only [carryOut, get_bind_apply, outcome]
  rfl

/-- A notice does nothing to the space. -/
theorem does_note (notice : Notice) (state : DiscoveryState) (kind : Fault → Prop) :
    Does (note notice) state (fun _ space => space = state.space) kind :=
  Ends.ok rfl ⟨rfl, rfl⟩

/-- Telling the tracer does nothing to the space. -/
theorem does_tell (happening : Happening) (state : DiscoveryState) (kind : Fault → Prop) :
    Does (tell happening) state (fun _ space => space = state.space) kind := by
  cases recorded : state.tracer.trace state.clock.now happening.type happening.data with
  | ok tracer =>
      obtain ⟨clock, told⟩ := exists_tell_of_ok recorded
      exact Ends.ok told ⟨rfl, Tracer.startTime_of_trace recorded⟩
  | error fault =>
      obtain ⟨clock, told⟩ := exists_tell_of_error recorded
      refine Ends.error told ?_
      rintro ⟨start, timed⟩
      obtain ⟨later, traced⟩ : ∃ later, state.tracer.trace state.clock.now happening.type
          happening.data = .ok later := Tracer.exists_trace timed happening.dataOf_data
      rw [recorded] at traced
      cases traced

/-- An operation that is carried out does to the space what it does, and fails as it
fails. -/
theorem does_carryOut (operation : Space → Change α) (state : DiscoveryState) :
    Does (carryOut operation) state
      (fun result space => (operation state.space).outcome = .ok result ∧
        space = (operation state.space).space)
      (fun fault => (operation state.space).outcome = .error fault) := by
  cases outcome : (operation state.space).outcome with
  | ok result => exact Ends.ok (carryOut_of_ok outcome) ⟨⟨rfl, rfl⟩, rfl⟩
  | error fault => exact Ends.error (carryOut_of_error outcome) rfl

/-- Anchoring writes the anchor. -/
theorem does_anchor (name : String) (region : Region) (state : DiscoveryState) :
    Does (anchor name region) state
      (fun recorded space => (state.space.writeAnchor name region).outcome = .ok recorded ∧
        space = (state.space.writeAnchor name region).space)
      (fun fault => (state.space.writeAnchor name region).outcome = .error fault) := by
  refine (does_carryOut (fun space => space.writeAnchor name region) state).bind ?_
  intro recorded written left
  refine (does_tell _ written _).bind ?_
  intro _ told same
  refine (does_note _ told _).bind ?_
  intro _ noted unchanged
  exact .pure ⟨left.1, by rw [unchanged, same, left.2]⟩

section Pointers

/-- Whether a pointer that is listed for a game is trusted: whether its highest byte is
that of the base. -/
def trusts (profile : Profile) (space : Space) (source : Int) : Bool :=
  match space.image.byteAt (source + 3) with
  | .ok byte => byte.toNat == profile.pointers.base / 0x1000000 % 0x100
  | .error _ => false

/-- The sources of the pointers that are listed for a game. -/
def listedSources (profile : Profile) (code : String) : List Int :=
  ((profile.game? code).map Game.extraPointers).getD []

/-- The sources at which a discovery adds pointers, in their order: the aligned ones if
they are to be discovered, and those that are listed and trusted. -/
def pointerSources (profile : Profile) (code : String) (space : Space) : List Int :=
  (if space.regions.isEmpty && profile.pointers.discover then
      space.alignedPointers.map Prod.fst
    else []) ++ (listedSources profile code).filter (trusts profile space)

variable {profile : Profile} {space : Space} {source : Int}

/-- A pointer with a highest byte is trusted when that is the highest byte of the base. -/
theorem trusts_of_byteAt {byte : UInt8} (found : space.image.byteAt (source + 3) = .ok byte) :
    trusts profile space source
      = (byte.toNat == profile.pointers.base / 0x1000000 % 0x100) := by
  rw [trusts, found]

/-- A pointer whose highest byte would lie behind the image is not trusted. -/
theorem trusts_of_le (beyond : space.image.size ≤ source + 3) :
    trusts profile space source = false := by
  rw [trusts, Image.byteAt_of_le beyond]

/-- A listed pointer is added if it is trusted. One whose highest byte would lie before
the image is a fault. -/
theorem does_addExtraPointer (profile : Profile) (source : Int) (state : DiscoveryState) :
    Does (addExtraPointer profile source) state
      (fun _ space => 0 ≤ source + 3 ∧
        space = state.space.addPointers ([source].filter (trusts profile state.space)))
      (fun fault => source + 3 < 0 ∧
        fault = .outsideImage (source + 3) state.space.image.size) := by
  refine .get_bind ?_
  dsimp only
  split
  · rename_i beyond
    refine .pure ⟨by omega, ?_⟩
    rw [List.filter_singleton, trusts_of_le beyond]
    rfl
  · rename_i before
    split
    · rename_i fault failed
      have below : source + 3 < 0 :=
        Image.lt_of_byteAt_eq_error failed (Int.not_le.1 before)
      rw [Image.byteAt_of_lt below] at failed
      cases failed
      exact .throw ⟨below, rfl⟩
    · rename_i byte found
      have nonneg : 0 ≤ source + 3 := Image.nonneg_of_byteAt_eq_ok found
      split
      · rename_i different
        refine .pure ⟨nonneg, ?_⟩
        rw [List.filter_singleton, trusts_of_byteAt found, beq_false_of_ne different]
        rfl
      · rename_i same
        rw [List.filter_singleton, trusts_of_byteAt found, beq_iff_eq.2 (not_not.1 same)]
        refine .set_bind rfl ?_
        split
        · refine (does_note _ _ _).imp ?_ id
          intro _ space same
          exact ⟨nonneg, same⟩
        · exact .pure ⟨nonneg, rfl⟩

/-- Sources are trusted as before when the image is the same. -/
theorem trusts_congr {later : Space} (same : later.image = space.image) :
    trusts profile later = trusts profile space := by
  funext source
  rw [trusts, trusts, same]

/-- The listed pointers that are trusted are added, unless the highest byte of one of
them would lie before the image; the first such one is a fault. -/
theorem does_addExtraPointers (profile : Profile) (sources : List Int)
    (state : DiscoveryState) :
    Does (sources.forM (addExtraPointer profile)) state
      (fun _ space => (∀ source ∈ sources, 0 ≤ source + 3) ∧
        space = state.space.addPointers (sources.filter (trusts profile state.space)))
      (fun fault => ∃ source ∈ sources, source + 3 < 0 ∧
        fault = .outsideImage (source + 3) state.space.image.size) := by
  induction sources generalizing state with
  | nil => exact .pure ⟨List.forall_mem_nil _, rfl⟩
  | cons first rest inductionHypothesis =>
      refine ((does_addExtraPointer profile first state).imp id
        fun failed => ⟨first, List.mem_cons_self, failed⟩).bind ?_
      rintro _ middle ⟨nonneg, left⟩
      have retained : middle.space.image = state.space.image := by
        rw [left]
        exact (Space.retains_addPointers _ _).image
      refine (inductionHypothesis middle).imp ?_ ?_
      · rintro _ space ⟨others, further⟩
        refine ⟨List.forall_mem_cons.2 ⟨nonneg, others⟩, ?_⟩
        rw [further, left, trusts_congr (Space.retains_addPointers _ _).image,
          ← Space.addPointers_append, ← List.filter_append]
        rfl
      · rintro fault ⟨source, member, below, same⟩
        rw [retained] at same
        exact ⟨source, List.mem_cons_of_mem _ member, below, same⟩

/-- The pointers that are listed for the game are added like this; for a game that is not
known none are listed. -/
theorem does_addListedPointers (profile : Profile) (code : String) (state : DiscoveryState) :
    Does (addExtraPointers profile code) state
      (fun _ space => (∀ source ∈ listedSources profile code, 0 ≤ source + 3) ∧
        space = state.space.addPointers
          ((listedSources profile code).filter (trusts profile state.space)))
      (fun fault => ∃ source ∈ listedSources profile code, source + 3 < 0 ∧
        fault = .outsideImage (source + 3) state.space.image.size) := by
  rw [addExtraPointers, listedSources]
  cases profile.game? code with
  | none => exact .pure ⟨List.forall_mem_nil _, rfl⟩
  | some game => exact does_addExtraPointers profile game.extraPointers state

/-- The aligned pointers are recorded if they are to be discovered in a space without
regions, and then those that are listed and trusted. -/
theorem does_recordPointers (profile : Profile) (code : String) (state : DiscoveryState) :
    Does (recordPointers profile code) state
      (fun _ space => ((state.space.regions.isEmpty && profile.pointers.discover) = true →
          ∀ fault, state.space.discoverPointers.outcome ≠ .error fault) ∧
        (∀ source ∈ listedSources profile code, 0 ≤ source + 3) ∧
        space = state.space.addPointers (pointerSources profile code state.space))
      (fun fault => ((state.space.regions.isEmpty && profile.pointers.discover) = true ∧
          state.space.discoverPointers.outcome = .error fault) ∨
        ∃ source ∈ listedSources profile code, source + 3 < 0 ∧
          fault = .outsideImage (source + 3) state.space.image.size) := by
  refine .inStep fun tracer _ => .get_bind ?_
  dsimp only
  split
  · rename_i discovers
    refine ((does_carryOut Space.discoverPointers _).imp id fun failed =>
      .inl ⟨discovers, failed⟩).bind ?_
    rintro count recorded ⟨found, left⟩
    refine (does_tell _ recorded _).bind ?_
    intro _ told same
    have reached : told.space =
        state.space.addPointers (state.space.alignedPointers.map Prod.fst) := by
      rw [same, left, Space.space_discoverPointers found]
    have retained := Space.retains_addPointers state.space
      (state.space.alignedPointers.map Prod.fst)
    refine (does_addListedPointers _ _ told).imp ?_ ?_
    · rintro _ space ⟨nonneg, further⟩
      refine ⟨fun _ fault failed => ?_, nonneg, ?_⟩
      · rw [found] at failed
        cases failed
      rw [further, reached, trusts_congr retained.image, ← Space.addPointers_append,
        pointerSources, if_pos discovers]
    · rintro fault ⟨source, member, below, same⟩
      rw [reached, retained.image] at same
      exact .inr ⟨source, member, below, same⟩
  · rename_i leaves
    refine (does_addListedPointers _ _ _).imp ?_ .inr
    rintro _ space ⟨nonneg, further⟩
    refine ⟨fun discovers => absurd discovers leaves, nonneg, ?_⟩
    rw [further, pointerSources, if_neg leaves]
    rfl

end Pointers

end Discovery

end ImageAtlas
