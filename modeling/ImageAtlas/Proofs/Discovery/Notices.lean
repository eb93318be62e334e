import ImageAtlas.Proofs.Discovery.Course
import ImageAtlas.Proofs.Discovery.Watching
import ImageAtlas.Proofs.Profile.Usable

/-!
# Searches with formats that are read

A search that is asked for a malformed schema gives a notice of it and looks at no candidate. No
other operation gives such a notice, and a search for the text of a schema does not either
(`Notice.NoneMalformed`). `AddsNoneMalformed` says what notices a part of a discovery adds to
those there were, be it that it passes or fails. In a discovery for a profile that was read,
every format is the text of a schema; so none of its searches is for a malformed one.
-/

namespace ImageAtlas

namespace Notice

/-- Whether a notice says that a search was asked for a malformed schema. -/
def isMalformed : Notice → Bool
  | searchMalformed _ => true
  | _ => false

/-- Notices none of which says so. -/
def NoneMalformed (notices : List Notice) : Prop :=
  ∀ notice ∈ notices, notice.isMalformed = false

variable {notice : Notice} {notices others : List Notice}

@[simp] theorem noneMalformed_nil : NoneMalformed [] :=
  List.forall_mem_nil _

@[simp] theorem noneMalformed_cons :
    NoneMalformed (notice :: notices) ↔ notice.isMalformed = false ∧ NoneMalformed notices :=
  List.forall_mem_cons

@[simp] theorem noneMalformed_append :
    NoneMalformed (notices ++ others) ↔ NoneMalformed notices ∧ NoneMalformed others :=
  List.forall_mem_append

end Notice

open Notice

namespace Space

variable {space : Space}

/-- Deriving a count gives no such notice. -/
theorem noneMalformed_anchoredCount (space : Space) (anchor : String) :
    NoneMalformed (space.anchoredCount anchor).notices := by
  rw [anchoredCount]
  split
  · simp [isMalformed]
  · split
    · simp
    · simp [isMalformed]

/-- Resolving a length gives none. -/
theorem noneMalformed_resolveLength (space : Space) (rule : LengthRule) (layout : Layout)
    (address : Int) : NoneMalformed (space.resolveLength rule layout address).notices := by
  cases rule with
  | fixed count => simp [resolveLength]
  | impliedByNextRun =>
      rw [resolveLength]
      split
      · simp
      · simp
  | derivedFromAnchor anchor => simp [resolveLength, noneMalformed_anchoredCount]
  | unsupported => simp [resolveLength]

/-- Placing a schema gives none. -/
theorem noneMalformed_parseAt (space : Space) (text : String) (address : Int)
    (backReferences : Option AddressSet) :
    NoneMalformed (space.parseAt text address backReferences).notices := by
  rw [parseAt]
  split
  · simp
  · rw [Noted.notices_bind, noneMalformed_append]
    refine ⟨noneMalformed_resolveLength _ _ _ _, ?_⟩
    split
    · simp
    · simp

/-- Passing counts on gives none. -/
theorem noneMalformed_follow (space : Space) (untouched : List String)
    (tasks : List FollowTask) : NoneMalformed (space.follow untouched tasks).notices := by
  fun_induction follow space untouched tasks with
  | case1 => exact noneMalformed_nil
  | case2 _ _ _ _ _ inductionHypothesis => exact inductionHypothesis
  | case3 _ _ _ _ _ inductionHypothesis => exact inductionHypothesis
  | case4 _ _ _ _ inductionHypothesis => exact inductionHypothesis
  | case5 _ _ _ _ _ _ _ _ inductionHypothesis => exact inductionHypothesis
  | case6 _ _ _ _ _ _ _ _ _ _ _ _ _ inductionHypothesis =>
      -- A dependent that cannot be placed anew is passed over without a notice.
      exact noneMalformed_append.2 ⟨noneMalformed_parseAt _ _ _ _, inductionHypothesis⟩
  | case7 => exact noneMalformed_parseAt _ _ _ _
  | case8 _ _ _ _ _ _ _ _ _ _ _ _ _ _ inductionHypothesis =>
      exact noneMalformed_append.2 ⟨noneMalformed_parseAt _ _ _ _, inductionHypothesis⟩
  | case9 _ _ _ _ _ _ _ _ _ _ _ _ _ _ _ _ inductionHypothesis =>
      exact noneMalformed_append.2 ⟨noneMalformed_parseAt _ _ _ _,
        noneMalformed_cons.2 ⟨rfl, inductionHypothesis⟩⟩

/-- Writing an anchor gives none. -/
theorem noneMalformed_writeAnchor (space : Space) (name : String) (region : Region) :
    NoneMalformed (space.writeAnchor name region).notices :=
  noneMalformed_cons.2 ⟨rfl, noneMalformed_follow _ _ _⟩

/-- Discovering pointers gives none. -/
theorem noneMalformed_discoverPointers (space : Space) :
    NoneMalformed space.discoverPointers.notices := by
  rw [discoverPointers]
  split
  · exact noneMalformed_nil
  · split
    · exact noneMalformed_nil
    · simp [isMalformed]

/-- A search gives one exactly if the text for which it searches is malformed. -/
theorem noneMalformed_search_iff {text : String} :
    NoneMalformed (space.search text).notices ↔
      ∀ malformation, Schema.read text ≠ .error (.malformed malformation) := by
  rw [search]
  split
  · rename_i malformation malformed
    simp [malformed, isMalformed]
  · rename_i refusal other refused
    refine iff_of_true noneMalformed_nil fun malformation malformed => ?_
    rw [refused] at malformed
    cases malformed
    exact other malformation rfl
  · rename_i schema accepted
    have read : ∀ malformation, Schema.read text ≠ .error (.malformed malformation) := by
      intro malformation malformed
      rw [accepted] at malformed
      cases malformed
    refine iff_of_true ?_ read
    split
    · exact noneMalformed_nil
    · dsimp only
      split
      · simp [isMalformed]
      · simp [isMalformed]

/-- A search for the text of a schema gives none. -/
theorem noneMalformed_search_of_read {text : String} {schema : Schema}
    (accepted : Schema.read text = .ok schema) (space : Space) :
    NoneMalformed (space.search text).notices := by
  refine noneMalformed_search_iff.2 fun malformation malformed => ?_
  rw [accepted] at malformed
  cases malformed

end Space

namespace Discovery

variable {α β : Type} {part : Discovery α} {state : DiscoveryState}

/-- What a part of a discovery leaves, be it that it passes or fails. -/
def leaves (part : Discovery α) (state : DiscoveryState) : DiscoveryState :=
  match part state with
  | .ok _ ended => ended
  | .error _ ended => ended

/-- What a part leaves that passes. -/
theorem leaves_of_ok {result : α} {ended : DiscoveryState} (ran : part state = .ok result ended) :
    leaves part state = ended := by
  rw [leaves, ran]

/-- What a part leaves that fails. -/
theorem leaves_of_error {fault : DiscoveryFault} {ended : DiscoveryState}
    (ran : part state = .error fault ended) : leaves part state = ended := by
  rw [leaves, ran]

/-- Beside the notices that there were, a part leaves only such as do not say that a schema was
malformed. -/
def AddsNoneMalformed (part : Discovery α) (state : DiscoveryState) : Prop :=
  ∃ given, (leaves part state).notices = state.notices ++ given ∧ NoneMalformed given

namespace AddsNoneMalformed

/-- A part that leaves other notices and goes on adds both. -/
theorem onward {other : Discovery β} {later : DiscoveryState} {given : List Notice}
    (adds : AddsNoneMalformed other later) (notices : later.notices = state.notices ++ given)
    (none : NoneMalformed given) (same : leaves part state = leaves other later) :
    AddsNoneMalformed part state := by
  obtain ⟨more, further, noneMore⟩ := adds
  refine ⟨given ++ more, ?_, noneMalformed_append.2 ⟨none, noneMore⟩⟩
  rw [same, further, notices, List.append_assoc]

/-- A result that is there already adds nothing. -/
theorem pure (result : α) (state : DiscoveryState) : AddsNoneMalformed (Pure.pure result) state :=
  ⟨[], (List.append_nil _).symm, noneMalformed_nil⟩

/-- A fault adds nothing. -/
theorem throw (fault : DiscoveryFault) (state : DiscoveryState) :
    AddsNoneMalformed (MonadExcept.throw fault : Discovery α) state :=
  ⟨[], (List.append_nil _).symm, noneMalformed_nil⟩

/-- Parts in a row add what each of them adds. -/
theorem bind {next : α → Discovery β} (first : AddsNoneMalformed part state)
    (second : ∀ result middle, AddsNoneMalformed (next result) middle) :
    AddsNoneMalformed (part >>= next) state := by
  obtain ⟨given, notices, none⟩ := first
  cases ran : part state with
  | ok result middle =>
      rw [leaves_of_ok ran] at notices
      refine (second result middle).onward notices none ?_
      rw [leaves, leaves, bind_apply ran]
  | error fault middle =>
      have failed : (part >>= next) state = .error fault middle := by
        simp [Bind.bind, EStateM.bind, ran]
      rw [leaves_of_error ran] at notices
      exact ⟨given, by rw [leaves_of_error failed, notices], none⟩

/-- Looking at the state adds nothing. -/
theorem get_bind {next : DiscoveryState → Discovery α}
    (adds : AddsNoneMalformed (next state) state) : AddsNoneMalformed (get >>= next) state :=
  adds

/-- A state with more notices adds those. -/
theorem set_bind {next : Unit → Discovery α} {later : DiscoveryState} {given : List Notice}
    (adds : AddsNoneMalformed (next ()) later) (notices : later.notices = state.notices ++ given)
    (none : NoneMalformed given) : AddsNoneMalformed (set later >>= next) state :=
  adds.onward notices none rfl

/-- A step of the trace adds what is added in it. -/
theorem inStep {context : String} (adds : ∀ state, AddsNoneMalformed part state) :
    AddsNoneMalformed (Discovery.inStep context part) state := by
  obtain ⟨given, notices, none⟩ :=
    adds { state with tracer := state.tracer.enter (.text context) }
  refine ⟨given, ?_, none⟩
  rw [← notices]
  cases ran : part { state with tracer := state.tracer.enter (.text context) } with
  | ok result ended => rw [leaves, Discovery.inStep, ran, leaves_of_ok ran]
  | error fault ended => rw [leaves, Discovery.inStep, ran, leaves_of_error ran]

end AddsNoneMalformed

/-- A notice that does not say so may be given. -/
theorem adds_note {notice : Notice} (other : notice.isMalformed = false)
    (state : DiscoveryState) : AddsNoneMalformed (note notice) state :=
  ⟨[notice], rfl, by simpa using other⟩

/-- Telling the tracer adds nothing. -/
theorem adds_tell (happening : Happening) (state : DiscoveryState) :
    AddsNoneMalformed (tell happening) state := by
  cases recorded : state.tracer.trace state.clock.now happening.type happening.data with
  | ok tracer =>
      obtain ⟨clock, told⟩ := exists_tell_of_ok recorded
      exact ⟨[], by rw [leaves_of_ok told, List.append_nil], noneMalformed_nil⟩
  | error fault =>
      obtain ⟨clock, told⟩ := exists_tell_of_error recorded
      exact ⟨[], by rw [leaves_of_error told, List.append_nil], noneMalformed_nil⟩

/-- Several things are done one after the other. -/
theorem adds_forM {action : β → Discovery Unit}
    (adds : ∀ thing state, AddsNoneMalformed (action thing) state) (things : List β)
    (state : DiscoveryState) : AddsNoneMalformed (things.forM action) state := by
  induction things generalizing state with
  | nil => exact .pure () state
  | cons thing rest inductionHypothesis =>
      exact (adds thing state).bind fun _ middle => inductionHypothesis middle

/-- An operation that is carried out adds its notices. -/
theorem adds_carryOut {operation : Space → Change α}
    (none : ∀ space, NoneMalformed (operation space).notices) (state : DiscoveryState) :
    AddsNoneMalformed (carryOut operation) state := by
  refine ⟨(operation state.space).notices, ?_, none state.space⟩
  cases outcome : (operation state.space).outcome with
  | ok result => rw [leaves_of_ok (carryOut_of_ok outcome)]
  | error fault => rw [leaves_of_error (carryOut_of_error outcome)]

/-- Anchoring gives no notice that a schema was malformed. -/
theorem adds_anchor (name : String) (region : Region) (state : DiscoveryState) :
    AddsNoneMalformed (anchor name region) state :=
  (adds_carryOut (fun space => space.noneMalformed_writeAnchor name region) state).bind
    fun _ written => (adds_tell _ written).bind fun _ told => (adds_note rfl told).bind .pure

/-- Adding a listed pointer gives none. -/
theorem adds_addExtraPointer (profile : Profile) (source : Int) (state : DiscoveryState) :
    AddsNoneMalformed (addExtraPointer profile source) state := by
  refine .get_bind ?_
  dsimp only
  split
  · exact .pure _ _
  · split
    · exact .throw _ _
    · split
      · exact .pure _ _
      · refine .set_bind ?_ (List.append_nil _).symm noneMalformed_nil
        split
        · exact adds_note rfl _
        · exact .pure _ _

/-- Recording the pointers gives none. -/
theorem adds_recordPointers (profile : Profile) (code : String) (state : DiscoveryState) :
    AddsNoneMalformed (recordPointers profile code) state := by
  have listed : ∀ state, AddsNoneMalformed (addExtraPointers profile code) state := by
    intro state
    rw [addExtraPointers]
    split
    · exact .pure _ _
    · exact adds_forM (adds_addExtraPointer profile) _ _
  refine .inStep fun state => .get_bind ?_
  dsimp only
  split
  · exact (adds_carryOut Space.noneMalformed_discoverPointers state).bind fun _ discovered =>
      (adds_tell _ discovered).bind fun _ told => listed told
  · exact listed state

/-- Anchoring header fields gives none. -/
theorem adds_anchorFields (found : Found) (fields : List HeaderField) (state : DiscoveryState) :
    AddsNoneMalformed (anchorFields found fields) state := by
  induction fields generalizing found state with
  | nil => exact .pure found state
  | cons field rest inductionHypothesis =>
      exact (adds_anchor _ _ state).bind fun _ anchored => inductionHypothesis _ anchored

/-- A search for the text of a schema gives none. -/
theorem adds_findArray {array : NameArray} {schema : Schema}
    (accepted : Schema.read array.format = .ok schema) (state : DiscoveryState) :
    AddsNoneMalformed (findArray array) state := by
  refine .inStep fun state => (adds_tell _ state).bind fun _ told => .get_bind ?_
  refine .set_bind ?_ rfl (Space.noneMalformed_search_of_read accepted told.space)
  split
  · exact .throw _ _
  · refine (adds_forM (fun run => adds_tell _) _ _).bind fun _ counted => ?_
    split
    · exact (adds_note rfl counted).bind fun _ noted => (adds_tell _ noted).bind fun _ => .pure _
    · exact (adds_tell _ counted).bind fun _ told =>
        (adds_anchor _ _ told).bind fun _ => .pure _

/-- Searches for the texts of schemas give none. -/
theorem adds_findArrays {arrays : List NameArray}
    (readable : ∀ array ∈ arrays, ∃ schema, Schema.read array.format = .ok schema)
    (found : Found) (state : DiscoveryState) :
    AddsNoneMalformed (findArrays found arrays) state := by
  induction arrays generalizing found state with
  | nil => exact .pure found state
  | cons array rest inductionHypothesis =>
      obtain ⟨⟨schema, accepted⟩, others⟩ := List.forall_mem_cons.1 readable
      refine (adds_findArray accepted state).bind fun result sought => ?_
      cases result with
      | none => exact inductionHypothesis others found sought
      | some region => exact inductionHypothesis others _ sought

/-- A discovery for a profile with readable formats gives none. -/
theorem adds_run {profile : Profile} (readable : profile.Readable) (code : String)
    (state : DiscoveryState) : AddsNoneMalformed (run profile code) state := by
  have sought : ∀ array ∈ profile.arraysFor code, ∃ schema,
      Schema.read array.format = .ok schema :=
    fun array member => readable array (List.mem_filter.1 member).1
  unfold run
  split
  · exact (adds_note rfl state).bind fun _ => .pure _
  · refine (adds_recordPointers profile code state).bind fun _ recorded => ?_
    refine AddsNoneMalformed.bind (.inStep (adds_anchorFields [] _)) fun _ decoded => ?_
    refine (adds_findArrays sought [] decoded).bind fun _ searched => ?_
    exact (adds_note rfl searched).bind fun _ => .pure _

variable {value : Value} {profile : Profile}

/-- Validating a profile is idempotent and leaves only usable profiles. Whatever value a profile
was read from, with parts left out, given in another form or unknown, what is written of the
profile is read as the same profile. The format of each of its arrays is the text of a schema of
at least one segment, each at least one byte wide. So a search for it in any space is for no
malformed schema, and none of the searches of a discovery for the profile is, for whatever game
and from whatever state, be it that the discovery passes or fails. -/
theorem validated_profile_is_read_back_and_searched (passed : Profile.ofValue value = .ok profile) :
    Profile.ofValue profile.toValue = .ok profile ∧
    (∀ array ∈ profile.arrays, ∃ schema, Schema.read array.format = .ok schema ∧
      schema.layout ≠ [] ∧ (∀ segment ∈ schema.layout, 1 ≤ segment.length) ∧
      ∀ space : Space, ∀ notice ∈ (space.search array.format).notices,
        notice.isMalformed = false) ∧
    ∀ code state, ∃ given, (leaves (run profile code) state).notices = state.notices ++ given ∧
      ∀ notice ∈ given, notice.isMalformed = false := by
  have usable := Profile.gives_usable _ _ passed
  refine ⟨usable.readsBack, fun array member => ?_, adds_run usable.readable⟩
  obtain ⟨schema, accepted⟩ := usable.readable array member
  have plain := Schema.plain_of_read accepted
  refine ⟨schema, accepted, plain.ne_nil, plain.one_le_length, fun space => ?_⟩
  exact Space.noneMalformed_search_of_read accepted space

/-- A profile with many of its parts in other forms: numbers as texts, as a truth value and as a
floating-point number, a truth value as a word, unknown keys and parts left out. -/
def looseValue : Value :=
  .table
    [("game_code_address", .text " +172 "),
      ("pointers", .table [("base", .bool true),
        ("earliest_allowed_anchor", .real (.ofInt 512)), ("discover", .text "No")]),
      ("games", .list [.table [("region", .null), ("code", .text "AAAA"),
        ("extra_pointers", .list [.text "-4", .integer 8])]]),
      ("arrays", .list [.table [("anchor", .text "names"), ("format", .text "[n\"\"2]")]]),
      ("comment", .text "for testing")]

/-- The profile that it stands for. -/
def looseProfile : Profile where
  gameCodeAddress := 172
  pointers := { base := 1, earliestAnchor := 512, discover := false }
  games := [{ code := "AAAA", extraPointers := [-4, 8] }]
  arrays := [{ anchor := "names", format := "[n\"\"2]" }]

/-- The profile is read from its loose form. -/
theorem ofValue_looseValue : Profile.ofValue looseValue = .ok looseProfile := by
  have address : Profile.integer (.text " +172 ") = .ok 172 := by
    cbv
  have pointers : Profile.pointerRules (.table [("base", .bool true),
      ("earliest_allowed_anchor", .real (.ofInt 512)), ("discover", .text "No")]) =
        .ok { base := 1, earliestAnchor := 512, discover := false } := rfl
  have games : Profile.listOf Profile.game (.list [.table [("region", .null),
      ("code", .text "AAAA"), ("extra_pointers", .list [.text "-4", .integer 8])]]) =
        .ok [{ code := "AAAA", extraPointers := [-4, 8] }] := by
    cbv
  have arrays : Profile.listOf Profile.nameArray (.list [.table [("anchor", .text "names"),
      ("format", .text "[n\"\"2]")]]) = .ok [{ anchor := "names", format := "[n\"\"2]" }] := by
    cbv
  rw [looseValue, Profile.ofValue, Profile.model, if_pos (by rfl)]
  refine Checked.map_eq_ok_iff.2 ⟨(172, looseProfile.pointers, looseProfile.games,
      looseProfile.header, looseProfile.arrays),
    Checked.both_eq_ok_iff.2 ⟨Profile.optional_of_given rfl address,
      Checked.both_eq_ok_iff.2 ⟨Profile.optional_of_given rfl pointers,
        Checked.both_eq_ok_iff.2 ⟨Profile.optional_of_given rfl games,
          Checked.both_eq_ok_iff.2 ⟨?_, Profile.optional_of_given rfl arrays⟩⟩⟩⟩, rfl⟩
  -- The header fields are left out.
  rfl

/-- The profile is read back, and no search of a discovery for it is for a malformed schema. -/
theorem looseProfile_is_read_back_and_searched :
    Profile.ofValue looseValue = .ok looseProfile ∧
      Profile.ofValue looseProfile.toValue = .ok looseProfile ∧
      ∃ given, (leaves (run looseProfile "AAAA") titledState).notices =
          titledState.notices ++ given ∧
        ∀ notice ∈ given, notice.isMalformed = false := by
  obtain ⟨readBack, -, searched⟩ := validated_profile_is_read_back_and_searched ofValue_looseValue
  exact ⟨ofValue_looseValue, readBack, searched "AAAA" titledState⟩

end Discovery

end ImageAtlas
