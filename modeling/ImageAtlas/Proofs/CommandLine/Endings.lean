import ImageAtlas.Proofs.CommandLine.Parts
import ImageAtlas.Proofs.Discovery.Hits
import ImageAtlas.Proofs.Space.Anchoring

/-!
# How the program ends

A command ends with status zero or one, but for the faults in `Escapes`, which are not
reported: a profile or an image that is a directory or whose name is too long, and a
profile under a file (`FileFault.BarsProfile`, `FileFault.BarsImage`); a base of the
pointers that fits no word; a pointer that is listed for the game and lies before the
image; and operands or options that were given without a value. `Settles` says of each
part of a command that it ends with such a status unless one of these is met, and by an
unreported fault if it is.
-/

namespace ImageAtlas.CommandLine

/-- The pointers of an image with a word cannot be discovered, for the base fits no
word. -/
def Overflows (space : Space) : Prop :=
  4 ≤ space.image.size ∧ wordBound ≤ space.pointers.base

/-- The space in which a schema is placed. -/
def prepared (profile : Profile) (space : Space) : Space :=
  if profile.pointers.discover then space.discoverPointers.space else space

/-- What is met where a schema is to be placed: there is no schema, no address for one that
is read, or no value for the offset that is asked for where an array has been printed. -/
inductive Unplaced (space : Space) : Option String → Setting Nat → Setting Nat → Prop where
  | no_schema {address offset : Setting Nat} : Unplaced space none address offset
  | no_address {text : String} {schema : Schema} {address offset : Setting Nat}
      (accepted : Schema.read text = .ok schema) (blank : address.value? = none) :
      Unplaced space (some text) address offset
  | no_offset {text : String} {address : Nat} {region : ArrayRegion}
      (placed : (space.parseAt text address none).value = .ok region)
      (printable : Command.Printable region) :
      Unplaced space (some text) (.value address) .blank

/-- What a task meets that is not reported. -/
inductive Task.Escapes (profile : Profile) (space : Space) : Task → Prop where
  | parse_overflow {schema : Option String} {address offset : Setting Nat} {dump : Bool}
      (discovers : profile.pointers.discover = true) (overflows : Overflows space) :
      Escapes profile space (.parse schema address offset dump)
  | parse_unplaced {schema : Option String} {address offset : Setting Nat} {dump : Bool}
      (unplaced : Unplaced (prepared profile space) schema address offset) :
      Escapes profile space (.parse schema address offset dump)
  | search_overflow {schema : Option String} {dump : Bool} (overflows : Overflows space) :
      Escapes profile space (.search schema dump)
  | search_no_schema {dump : Bool} : Escapes profile space (.search none dump)
  | discover_overflow {trace : Setting String} {dump : Bool}
      (supported : Discovery.isSupported profile space = true)
      (discovers : profile.pointers.discover = true) (overflows : Overflows space) :
      Escapes profile space (.discover trace dump)
  | discover_outside {trace : Setting String} {dump : Bool} {source : Int}
      (supported : Discovery.isSupported profile space = true)
      (listed : source ∈ Discovery.listedSources profile (Discovery.gameCode profile space))
      (before : source + 3 < 0) : Escapes profile space (.discover trace dump)

/-- The path at which a task saves its trace. An empty one asks for none. -/
def Task.tracePath? : Task → Option String
  | .discover trace _ => trace.value?.filter (· ≠ "")
  | _ => none

/-- The profile that a setting chooses, if there is one that can be read. -/
def chosenProfile (files : FileTree) : Setting String → Option Profile
  | .unset => some {}
  | .blank => none
  | .value path => do
      let content ← (files.read (.ofPath path)).toOption
      let text ← (Text.readUtf8 content.toList).toOption
      let value ← (Toml.read text).toOption
      (Profile.ofValue value).toOption

/-- What is in the way of a profile and is not reported. -/
def FileFault.BarsProfile (fault : FileFault) : Prop :=
  fault = .isDirectory ∨ fault = .nameTooLong ∨ fault = .notDirectory

/-- What is in the way of an image and is not reported. An image under a file counts as
missing. -/
def FileFault.BarsImage (fault : FileFault) : Prop :=
  fault = .isDirectory ∨ fault = .nameTooLong

/-- What an invocation meets that is not reported: it asks for a profile without naming
one, its profile or its image is barred, or its task meets something with both. A file that
is missing and a path with a null byte are reported. -/
inductive Escapes (files : FileTree) (profileSetting : Setting String) (image : String)
    (task : Task) : Prop where
  | profile_blank (blank : profileSetting = .blank)
  | profile_unreadable {path : String} {fault : FileFault}
      (named : profileSetting = .value path)
      (unread : files.read (.ofPath path) = .error fault)
      (barred : fault.BarsProfile)
  | image_unreadable {profile : Profile} {fault : FileFault}
      (chosen : chosenProfile files profileSetting = some profile)
      (unread : files.read (.ofPath image) = .error fault)
      (barred : fault.BarsImage)
  | task {profile : Profile} {content : Array UInt8}
      (chosen : chosenProfile files profileSetting = some profile)
      (read : files.read (.ofPath image) = .ok content)
      (escapes : task.Escapes profile { image := content, pointers := profile.pointers })

namespace Command

variable {α : Type} {escapes : Prop} {part : Command Nat} {progress : Progress}

/-- A part of a command ends with status zero or one unless it meets something, and by a
fault that is not reported if it does. -/
def Settles (escapes : Prop) (part : Command Nat) (progress : Progress) : Prop :=
  Ends part progress (fun status _ => (status = 0 ∨ status = 1) ∧ ¬ escapes)
    fun fault => fault.isReported = false ↔ escapes

/-- A fault that is reported, where nothing is met. -/
theorem unreported_iff {fault : CommandFault} (reported : fault.isReported = true)
    (unmet : ¬ escapes) : fault.isReported = false ↔ escapes := by
  refine iff_of_false ?_ unmet
  rw [reported]
  exact Bool.noConfusion

/-- A fault that is met here is not reported. -/
theorem Settles.escape {fault : CommandFault} (unreported : fault.isReported = false)
    (met : escapes) : Settles escapes (throw fault) progress :=
  Ends.error rfl (iff_of_true unreported met)

/-- A command fails by a fault that is reported, where nothing is met. -/
theorem Settles.report {fault : CommandFault} (reported : fault.isReported = true)
    (unmet : ¬ escapes) : Settles escapes (throw fault) progress :=
  Ends.error rfl (unreported_iff reported unmet)

/-- A command ends with a status, where nothing is met. -/
theorem Settles.status {status : Nat} (among : status = 0 ∨ status = 1) (unmet : ¬ escapes) :
    Settles escapes (pure status) progress :=
  Ends.ok rfl ⟨among, unmet⟩

/-- Looking at the progress meets nothing. -/
theorem Settles.get_bind {next : Progress → Command Nat}
    (settles : Settles escapes (next progress) progress) :
    Settles escapes (get >>= next) progress :=
  Ends.congr settles rfl

/-- A progress that is put in place of another is gone on from there. -/
theorem Settles.set_bind {next : PUnit → Command Nat} {later : Progress}
    (settles : Settles escapes (next ⟨⟩) later) :
    Settles escapes (set later >>= next) progress :=
  Ends.congr settles rfl

/-- A part that leaves the files, and then the rest of a command. -/
theorem Gives.settles {first : Command α} {fine : α → Prop} {fails : CommandFault → Prop}
    {next : α → Command Nat} (gives : Gives first progress fine fails)
    (fault : ∀ {fault}, fails fault → (fault.isReported = false ↔ escapes))
    (rest : ∀ {result} {middle : Progress}, fine result → middle.files = progress.files →
      Settles escapes (next result) middle) : Settles escapes (first >>= next) progress := by
  refine Ends.bind (Ends.imp gives (fun ended => ended) fault) ?_
  rintro result middle ⟨holds, same⟩
  exact rest holds same

/-- A part that succeeds or is reported, where nothing is met, and then the rest. -/
theorem Gives.settles_unmet {first : Command α} {fine : α → Prop} {next : α → Command Nat}
    (gives : Gives first progress fine fun fault => fault.isReported = true)
    (unmet : ¬ escapes)
    (rest : ∀ {result} {middle : Progress}, fine result → middle.files = progress.files →
      Settles escapes (next result) middle) : Settles escapes (first >>= next) progress :=
  gives.settles (fun reported => unreported_iff reported unmet) rest

/-- Printing a line, and then the rest of a command. -/
theorem settles_print {line : String} {next : Command Nat}
    (rest : ∀ {middle : Progress}, middle.files = progress.files → Settles escapes next middle) :
    Settles escapes (print line >>= fun _ => next) progress :=
  (gives_print line progress fun _ => False).settles False.elim fun _ same => rest same

/-- Pointers are recorded unless the base fits no word. -/
theorem gives_recordPointers (space : Space) (progress : Progress) :
    Gives (recordPointers space) progress
      (fun result => result.1 = space.discoverPointers.space ∧ ¬ Overflows space)
      (fun fault => fault = .space .overflow ∧ Overflows space) := by
  refine (gives_note _ progress _).bind fun _ _ => ?_
  have counted : ∀ middle : Progress,
      Gives (orFail .space space.discoverPointers.outcome) middle (fun _ => ¬ Overflows space)
        (fun fault => fault = .space .overflow ∧ Overflows space) := by
    intro middle
    refine .orFail ?_ ?_
    · rintro count discovered ⟨whole, large⟩
      rw [Space.discoverPointers_eq_error_iff.2 ⟨whole, large, rfl⟩] at discovered
      cases discovered
    · intro cause failed
      obtain ⟨whole, large, rfl⟩ := Space.discoverPointers_eq_error_iff.1 failed
      exact ⟨rfl, whole, large⟩
  exact (counted _).bind fun fine _ => .pure ⟨rfl, fine⟩

/-- The space in which a schema is placed is prepared unless its pointers cannot be
discovered. -/
theorem gives_prepared (profile : Profile) (space : Space) (progress : Progress) :
    Gives (if profile.pointers.discover then Prod.fst <$> recordPointers space else pure space)
      progress
      (fun result => result = prepared profile space ∧
        ¬ (profile.pointers.discover = true ∧ Overflows space))
      (fun fault => fault = .space .overflow ∧ profile.pointers.discover = true ∧
        Overflows space) := by
  rw [prepared]
  cases profile.pointers.discover with
  | false => exact .pure ⟨rfl, fun overflow => Bool.noConfusion overflow.1⟩
  | true =>
      rw [if_pos rfl, if_pos rfl, map_eq_pure_bind]
      refine ((gives_recordPointers space progress).imp id ?_).bind ?_
      · rintro fault ⟨same, overflows⟩
        exact ⟨same, rfl, overflows⟩
      · rintro result middle ⟨left, fits⟩ _
        exact .pure ⟨left, fun overflow => fits overflow.2⟩

/-- Preparing keeps a space well formed. -/
theorem wellFormed_prepared (profile : Profile) {space : Space} (wellFormed : space.WellFormed) :
    (prepared profile space).WellFormed := by
  rw [prepared]
  split
  · exact wellFormed.after .discoverPointers
  · exact wellFormed

/-- Where a text that is no schema is to be placed, nothing is met. -/
theorem not_unplaced_of_refused {space : Space} {text : String} {refusal : Schema.Refusal}
    {address offset : Setting Nat} (refused : Schema.read text = .error refusal) :
    ¬ Unplaced space (some text) address offset := by
  rintro (_ | ⟨accepted, -⟩ | ⟨placed, -⟩)
  · rw [refused] at accepted
    cases accepted
  · obtain ⟨schema, accepted, -⟩ := Space.exists_of_parseAt placed
    rw [refused] at accepted
    cases accepted

/-- Where a schema is placed, nothing is met unless its numbers can be printed and an
offset is asked for without a value. -/
theorem not_unplaced_of_placed {space : Space} {text : String} {address : Nat}
    {offset : Setting Nat} {region : ArrayRegion}
    (placed : (space.parseAt text address none).value = .ok region)
    (unmet : ¬ (Printable region ∧ offset = .blank)) :
    ¬ Unplaced space (some text) (.value address) offset := by
  rintro (_ | ⟨-, blank⟩ | ⟨other, printable⟩)
  · cases blank
  · rw [placed] at other
    cases other
    exact unmet ⟨printable, rfl⟩

/-- Printing the elements of an array, if that is asked for, ends with status zero. -/
theorem settles_dump {region : ArrayRegion} (plain : region.layout.Plain)
    (nonneg : 0 ≤ region.start) (unmet : ¬ escapes) (space : Space) (dump : Bool)
    (progress : Progress) :
    Settles escapes (if dump then printElements space region >>= fun _ => pure 0 else pure 0)
      progress := by
  cases dump with
  | false => exact .status (.inl rfl) unmet
  | true =>
      refine (gives_printElements plain nonneg space progress fun _ => False).settles
        False.elim fun _ _ => ?_
      exact .status (.inl rfl) unmet

/-- An array that has been placed has a plain layout and begins where it was placed. -/
theorem plain_of_parseAt {space : Space} {text : String} {address : Nat} {region : ArrayRegion}
    (placed : (space.parseAt text address none).value = .ok region) :
    region.layout.Plain ∧ 0 ≤ region.start := by
  obtain ⟨schema, accepted, -, shape⟩ := Space.exists_of_parseAt placed
  constructor
  · rw [shape]
    exact Schema.plain_of_read accepted
  · rw [Space.start_of_parseAt placed]
    exact Int.natCast_nonneg address

/-- The text of a schema that is placed gives its array. -/
theorem gives_parseAt {space : Space} {text : String} {address : Nat} {region : ArrayRegion}
    (placed : (space.parseAt text address none).value = .ok region) (progress : Progress) :
    Gives (noted (space.parseAt text address none)) progress (fun taken => taken = region)
      fun _ => False := by
  refine gives_noted ?_ ?_ progress
  · intro taken ok
    rw [placed] at ok
    exact (Except.ok.inj ok).symm
  · intro cause error
    rw [placed] at error
    cases error

/-- Placing a schema settles where no pointers are discovered. -/
theorem settles_place {profile : Profile} (leaves : profile.pointers.discover = false)
    {space : Space} (wellFormed : space.WellFormed) (schema : Option String)
    (address offset : Setting Nat) (dump : Bool) (progress : Progress) :
    Settles (Unplaced space schema address offset)
      (parse profile space schema address offset dump) progress := by
  simp only [parse, leaves, Bool.false_eq_true, if_false, pure_bind]
  cases schema with
  | none => exact .escape rfl .no_schema
  | some text =>
      dsimp only
      cases accepted : Schema.read text with
      | error refusal =>
          have unmet : ¬ Unplaced space (some text) address offset :=
            not_unplaced_of_refused accepted
          cases refusal with
          | malformed malformation => exact settles_print fun _ => .status (.inr rfl) unmet
          | numeralTooLong characters => exact .report rfl unmet
      | ok schema =>
          cases address with
          | unset => exact .escape rfl (.no_address accepted rfl)
          | blank => exact .escape rfl (.no_address accepted rfl)
          | value address =>
              obtain ⟨region, placed⟩ := wellFormed.exists_parseAt accepted address none
              refine (gives_parseAt placed progress).settles False.elim ?_
              rintro region told rfl _
              obtain ⟨plain, nonneg⟩ := plain_of_parseAt placed
              refine (gives_printArray region told).settles ?_ ?_
              · rintro fault ⟨rfl, unprintable⟩
                refine unreported_iff rfl ?_
                exact not_unplaced_of_placed placed fun met => unprintable met.1
              · intro _ printed printable _
                cases offset with
                | unset =>
                    have unmet : ¬ Unplaced space (some text) (.value address) .unset :=
                      not_unplaced_of_placed placed fun met => nomatch met.2
                    exact settles_dump plain nonneg unmet space dump printed
                | blank => exact .escape rfl (.no_offset placed printable)
                | value place =>
                    have unmet : ¬ Unplaced space (some text) (.value address) (.value place) :=
                      not_unplaced_of_placed placed fun met => nomatch met.2
                    dsimp only
                    split
                    · exact settles_print fun _ => .status (.inr rfl) unmet
                    · exact (gives_printOffset region place printed).settles_unmet unmet
                        fun _ _ => settles_dump plain nonneg unmet space dump _

/-- Placing a schema is preparing the space and placing the schema there. -/
theorem parse_eq_prepared (profile : Profile) (space : Space) (schema : Option String)
    (address offset : Setting Nat) (dump : Bool) :
    parse profile space schema address offset dump =
      (if profile.pointers.discover then Prod.fst <$> recordPointers space else pure space) >>=
        fun ready => parse { profile with pointers := { profile.pointers with discover := false } }
          ready schema address offset dump := by
  cases discovers : profile.pointers.discover <;> simp [parse, discovers]

/-- Placing a schema settles. -/
theorem settles_parse (profile : Profile) {space : Space} (wellFormed : space.WellFormed)
    (schema : Option String) (address offset : Setting Nat) (dump : Bool)
    (progress : Progress) :
    Settles (Task.Escapes profile space (.parse schema address offset dump))
      (parse profile space schema address offset dump) progress := by
  rw [parse_eq_prepared]
  refine (gives_prepared profile space progress).settles ?_ ?_
  · rintro fault ⟨rfl, discovers, overflows⟩
    exact iff_of_true rfl (.parse_overflow discovers overflows)
  · rintro _ ready ⟨rfl, fits⟩ _
    have same : Unplaced (prepared profile space) schema address offset ↔
        Task.Escapes profile space (.parse schema address offset dump) := by
      refine ⟨.parse_unplaced, ?_⟩
      rintro (⟨discovers, overflows⟩ | ⟨unplaced⟩)
      · exact absurd ⟨discovers, overflows⟩ fits
      · exact unplaced
    rw [← same]
    exact settles_place rfl (wellFormed_prepared profile wellFormed) _ _ _ _ _

/-- A search settles. -/
theorem settles_search {space : Space} (wellFormed : space.WellFormed) (profile : Profile)
    (schema : Option String) (dump : Bool) (progress : Progress) :
    Settles (Task.Escapes profile space (.search schema dump)) (search space schema dump)
      progress := by
  refine (gives_recordPointers space progress).settles ?_ ?_
  · rintro fault ⟨rfl, overflows⟩
    exact iff_of_true rfl (.search_overflow overflows)
  rintro ⟨_, count⟩ recorded ⟨rfl, fits⟩ _
  refine settles_print fun _ => ?_
  have ready := wellFormed.after .discoverPointers
  cases schema with
  | none => exact .escape rfl .search_no_schema
  | some text =>
      have unmet : ¬ Task.Escapes profile space (.search (some text) dump) := by
        rintro (_ | _ | ⟨overflows⟩)
        exact fits overflows
      have searched : ∀ middle : Progress,
          Gives (noted (space.discoverPointers.space.search text)) middle
            (fun report => (space.discoverPointers.space.search text).value = .ok report)
            fun fault => fault.isReported = true := by
        refine gives_noted id ?_
        intro cause failed
        obtain ⟨refusal, -, rfl⟩ := Space.refusal_of_search failed
        rfl
      refine (searched _).settles_unmet unmet ?_
      intro report told found _
      cases hit : report.hit with
      | none => exact settles_print fun _ => .status (.inr rfl) unmet
      | some region =>
          obtain ⟨schema, counted, accepted, longest⟩ := ready.exists_earliestLongest found hit
          have plain : region.layout.Plain := by
            rw [longest.layout]
            exact Schema.plain_of_read accepted
          have printed : Gives (printArray region) told (fun _ => Printable region)
              fun fault => fault.isReported = true := by
            refine (gives_printArray region told).imp id ?_
            rintro fault ⟨rfl, -⟩
            rfl
          refine printed.settles_unmet unmet fun _ _ => ?_
          exact settles_dump plain longest.inside.1 unmet _ dump _

/-- A discovery goes its course or fails as it can. The tracer has been started, so that
times can be told. -/
theorem gives_runDiscovery {profile : Profile} {code : String} {space : Space}
    (supported : code ∈ profile.supportedCodes) (wellFormed : space.WellFormed)
    (empty : space.regions.isEmpty = true) (tracer : Tracer) (now : Binary64)
    (progress : Progress) :
    Gives (runDiscovery profile space (tracer.start now) code) progress
      (fun result => ∃ searches,
        Discovery.Course profile code space searches result.1 result.2.space)
      (fun fault => ∃ cause, Discovery.Refuses profile code space cause ∧
        fault = .space cause) := by
  refine .get_bind ?_
  have settled : ∀ (clock : Clock) (notices : List Notice) (middle : Progress)
      (fails : CommandFault → Prop),
      Gives (do modify fun progress => { progress with clock }; note notices) middle
        (fun _ => True) fails :=
    fun _ _ _ _ => Ends.ok rfl ⟨trivial, rfl⟩
  have went := Discovery.does_run
    { space, tracer := tracer.start now, clock := progress.clock } supported wellFormed empty
  dsimp only
  cases ran : Discovery.run profile code
      { space, tracer := tracer.start now, clock := progress.clock } with
  | ok found state =>
      exact (settled _ _ _ _).bind fun _ _ => .pure (went.of_ok ran).1
  | error fault state =>
      have failed := went.of_error ran
      cases fault with
      | space cause => exact (settled _ _ _ _).bind fun _ _ => .throw ⟨cause, failed, rfl⟩
      | trace fault => exact absurd ⟨now, rfl⟩ failed

/-- Saving a trace where a file can be written succeeds, or a number with too many digits
is reported. -/
theorem settles_saveTrace {tracer : Tracer} {path : String}
    (writable : ∀ content, ∃ files,
      progress.files.write (.ofPath path) content = .ok files) (unmet : ¬ escapes) :
    Settles escapes (saveTrace tracer path >>= fun _ => pure 0) progress := by
  have saved : Gives (orFail .trace tracer.save) progress (fun _ => True)
      fun fault => fault.isReported = true := by
    refine .orFail (fun _ => trivial) ?_
    intro cause failed
    rw [Tracer.save] at failed
    split at failed
    · cases failed
    · cases failed
      rfl
  simp only [saveTrace, bind_assoc]
  refine saved.settles_unmet unmet ?_
  rintro content ready - same
  obtain ⟨files, written⟩ := writable content.toUTF8.data
  rw [← same] at written
  refine .get_bind ?_
  have wrote : Gives (orFail (.file · (Location.ofPath path).path)
      (ready.files.write (.ofPath path) content.toUTF8.data)) ready (fun _ => True)
      fun _ => False := by
    rw [written]
    exact .pure trivial
  refine wrote.settles False.elim fun _ _ => .set_bind ?_
  exact settles_print fun _ => .status (.inl rfl) unmet

/-- What a discovery found is printed, each array with its elements if that is asked for,
unless a number with too many digits is reported. -/
theorem gives_listing {profile : Profile} {code : String} {space : Space} {found : Found}
    {searches : List (NameArray × SearchReport)} {state : DiscoveryState}
    (course : Discovery.Course profile code space searches found state.space)
    (wellFormed : space.WellFormed) (empty : space.regions.isEmpty = true) (dump : Bool)
    (progress : Progress) :
    Gives (forIn found PUnit.unit fun entry _ => do
        printAnchored entry.1 entry.2
        match entry.2 with
        | .array region =>
            if dump then
              printElements state.space region
              pure (ForInStep.yield PUnit.unit)
            else pure (ForInStep.yield PUnit.unit)
        | .known _ => pure (ForInStep.yield PUnit.unit)) progress (fun _ => True)
      fun fault => fault.isReported = true := by
  refine .forIn found ?_
  rintro ⟨name, region⟩ member ready
  refine (gives_printAnchored name region ready).bind fun _ _ => ?_
  cases region with
  | known known => exact .pure rfl
  | array array =>
      have present := course.present wellFormed empty member
      cases dump with
      | false => exact .pure rfl
      | true =>
          refine (gives_printElements present.plain present.inside.1 state.space _ _).bind ?_
          exact fun _ _ => .pure rfl

/-- A discovery meets nothing if the pointers for the game can be recorded. -/
theorem not_escapes_of_records {profile : Profile} {space : Space} {trace : Setting String}
    {dump : Bool}
    (records : Discovery.Records profile (Discovery.gameCode profile space) space) :
    ¬ Task.Escapes profile space (.discover trace dump) := by
  rintro (_ | _ | _ | _ | ⟨-, discovers, whole, large⟩ | ⟨-, listed, before⟩)
  · exact absurd (records.fits discovers whole) (Int.not_lt.2 large)
  · exact absurd (records.inside _ listed) (Int.not_le.2 before)

/-- A discovery settles. -/
theorem settles_discover (profile : Profile) {space : Space} (wellFormed : space.WellFormed)
    (empty : space.regions.isEmpty = true) (trace : Setting String) (dump : Bool)
    (progress : Progress)
    (writable : ∀ path, trace.value?.filter (· ≠ "") = some path → ∀ content,
      ∃ files, progress.files.write (.ofPath path) content = .ok files) :
    Settles (Task.Escapes profile space (.discover trace dump))
      (discover profile space trace dump) progress := by
  refine .get_bind (.set_bind ?_)
  cases supported : Discovery.isSupported profile space with
  | false =>
      have unmet : ¬ Task.Escapes profile space (.discover trace dump) := by
        rintro (_ | _ | _ | _ | ⟨other, -, -⟩ | ⟨other, -, -⟩)
        · rw [supported] at other
          cases other
        · rw [supported] at other
          cases other
      exact settles_print fun _ => .status (.inr rfl) unmet
  | true =>
      have among : Discovery.gameCode profile space ∈ profile.supportedCodes :=
        List.contains_iff_mem.1 supported
      refine (gives_runDiscovery among wellFormed empty _ _ _).settles ?_ ?_
      · rintro fault ⟨cause, refused, rfl⟩
        cases refused with
        | overflow discovers whole large =>
            exact iff_of_true rfl (.discover_overflow supported discovers ⟨whole, large⟩)
        | outside listed before =>
            exact iff_of_true rfl (.discover_outside supported listed before)
        | format records sought refused =>
            exact unreported_iff rfl (not_escapes_of_records records)
      · rintro ⟨found, state⟩ ran ⟨searches, course⟩ same
        have unmet : ¬ Task.Escapes profile space (.discover trace dump) :=
          not_escapes_of_records course.records
        refine settles_print fun named => settles_print fun counted => ?_
        refine (gives_listing course wellFormed empty dump _).settles_unmet unmet ?_
        intro _ shown _ kept
        cases asked : trace.value?.filter (· ≠ "") with
        | none => exact .status (.inl rfl) unmet
        | some path =>
            have untouched : shown.files = progress.files := by
              rw [kept, counted, named, same]
            have room : ∀ content, ∃ files,
                shown.files.write (.ofPath path) content = .ok files := by
              rw [untouched]
              exact writable path asked
            exact settles_saveTrace room unmet

/-- The profile under a path is loaded, or what is in the way is reported unless it bars
profiles. -/
theorem gives_readProfile (path : String) (progress : Progress) :
    Gives (loadProfile (.value path)) progress
      (fun profile => chosenProfile progress.files (.value path) = some profile)
      (fun fault => chosenProfile progress.files (.value path) = none ∧
        (fault.isReported = false ↔ ∃ cause,
          progress.files.read (.ofPath path) = .error cause ∧ cause.BarsProfile)) := by
  refine .get_bind ((Gives.orFail (fun read => read) ?_).bind ?_)
  · intro cause unread
    refine ⟨by simp [chosenProfile, unread, Except.toOption], ?_⟩
    rw [unread]
    cases cause <;> simp [CommandFault.isReported, FileFault.BarsProfile]
  intro content _ read _
  -- A profile that can be read meets nothing more that is not reported.
  have reports : ∀ {fault : CommandFault}, fault.isReported = true →
      (fault.isReported = false ↔ ∃ cause,
        progress.files.read (.ofPath path) = .error cause ∧ cause.BarsProfile) := by
    intro fault reported
    refine unreported_iff reported ?_
    rintro ⟨cause, unread, -⟩
    rw [read] at unread
    cases unread
  refine (Gives.orFail (fun decoded => decoded) ?_).bind ?_
  · intro cause undecoded
    exact ⟨by simp [chosenProfile, read, undecoded, Except.toOption], reports rfl⟩
  intro text _ decoded _
  refine (Gives.orFail (fun parsed => parsed) ?_).bind ?_
  · intro cause unparsed
    exact ⟨by simp [chosenProfile, read, decoded, unparsed, Except.toOption], reports rfl⟩
  intro value _ parsed _
  refine .orFail ?_ ?_
  · intro profile valid
    simp [chosenProfile, read, decoded, parsed, valid, Except.toOption]
  · intro cause invalid
    exact ⟨by simp [chosenProfile, read, decoded, parsed, invalid, Except.toOption], reports rfl⟩

/-- The image is loaded, or what is in the way is reported unless it bars images. -/
theorem gives_loadSpace (path : String) (profile : Profile) (progress : Progress) :
    Gives (loadSpace path profile) progress
      (fun space => ∃ content, progress.files.read (.ofPath path) = .ok content ∧
        space = { image := content, pointers := profile.pointers })
      (fun fault => ∃ cause, progress.files.read (.ofPath path) = .error cause ∧
        (fault.isReported = false ↔ cause.BarsImage)) := by
  refine .get_bind ?_
  cases read : progress.files.read (.ofPath path) with
  | error cause =>
      cases cause with
      | isDirectory => exact .throw ⟨_, rfl, iff_of_true rfl (.inl rfl)⟩
      | nameTooLong => exact .throw ⟨_, rfl, iff_of_true rfl (.inr rfl)⟩
      | missing => exact .throw ⟨_, rfl, by simp [CommandFault.isReported, FileFault.BarsImage]⟩
      | notDirectory =>
          exact .throw ⟨_, rfl, by simp [CommandFault.isReported, FileFault.BarsImage]⟩
      | nullByte => exact .throw ⟨_, rfl, by simp [CommandFault.isReported, FileFault.BarsImage]⟩
  | ok content => exact (gives_note _ _ _).bind fun _ _ => .pure ⟨content, rfl, rfl⟩

/-- Where a profile is chosen and the image cannot be read, something is met exactly if the
image is barred. -/
theorem escapes_unread_iff {files : FileTree} {setting : Setting String} {image : String}
    {task : Task} {profile : Profile} {cause : FileFault}
    (chosen : chosenProfile files setting = some profile)
    (unread : files.read (.ofPath image) = .error cause) :
    Escapes files setting image task ↔ cause.BarsImage := by
  constructor
  · rintro (⟨rfl⟩ | ⟨rfl, profileUnread, -⟩ | ⟨-, other, barred⟩ | ⟨-, read, -⟩)
    · cases chosen
    · simp [chosenProfile, profileUnread, Except.toOption] at chosen
    · rw [unread] at other
      cases other
      exact barred
    · rw [unread] at read
      cases read
  · exact .image_unreadable chosen unread

/-- Where a profile is chosen and the image can be read, something is met exactly if the task
meets it. -/
theorem escapes_read_iff {files : FileTree} {setting : Setting String} {image : String}
    {task : Task} {profile : Profile} {content : Array UInt8}
    (chosen : chosenProfile files setting = some profile)
    (read : files.read (.ofPath image) = .ok content) :
    Escapes files setting image task ↔
      task.Escapes profile { image := content, pointers := profile.pointers } := by
  constructor
  · rintro (⟨rfl⟩ | ⟨rfl, profileUnread, -⟩ | ⟨-, unread, -⟩ | ⟨other, otherRead, escapes⟩)
    · cases chosen
    · simp [chosenProfile, profileUnread, Except.toOption] at chosen
    · rw [read] at unread
      cases unread
    · rw [chosen] at other
      rw [read] at otherRead
      cases other
      cases otherRead
      exact escapes
  · exact .task chosen read

/-- Where no profile can be read under a path, something is met exactly if the profile is
barred. -/
theorem escapes_unchosen_iff {files : FileTree} {path image : String} {task : Task}
    (unchosen : chosenProfile files (.value path) = none) :
    Escapes files (.value path) image task ↔
      ∃ cause, files.read (.ofPath path) = .error cause ∧ cause.BarsProfile := by
  constructor
  · rintro (⟨⟨⟩⟩ | ⟨⟨⟩, unread, barred⟩ | ⟨chosen, -, -⟩ | ⟨chosen, -, -⟩)
    · exact ⟨_, unread, barred⟩
    · rw [unchosen] at chosen
      cases chosen
    · rw [unchosen] at chosen
      cases chosen
  · rintro ⟨cause, unread, barred⟩
    exact .profile_unreadable rfl unread barred

/-- The image is loaded under a profile and the task is carried out there, which settles. -/
theorem settles_task {profile : Profile} {setting : Setting String} {image : String}
    (task : Task) (chosen : chosenProfile progress.files setting = some profile)
    (traceWritable : ∀ path, task.tracePath? = some path → ∀ content,
      ∃ files, progress.files.write (.ofPath path) content = .ok files) :
    Settles (Escapes progress.files setting image task)
      (do
        let space ← loadSpace image profile
        match task with
        | .parse schema address offset dump => parse profile space schema address offset dump
        | .search schema dump => search space schema dump
        | .discover trace dump => discover profile space trace dump) progress := by
  refine (gives_loadSpace image profile progress).settles ?_ ?_
  · rintro fault ⟨cause, unread, unreported⟩
    exact unreported.trans (escapes_unread_iff chosen unread).symm
  · rintro _ loaded ⟨content, read, rfl⟩ same
    have wellFormed := Space.WellFormed.empty content .ascii profile.pointers
    rw [escapes_read_iff chosen read]
    cases task with
    | parse schema address offset dump => exact settles_parse profile wellFormed _ _ _ _ loaded
    | search schema dump => exact settles_search wellFormed profile _ _ loaded
    | discover trace dump =>
        refine settles_discover profile wellFormed rfl trace dump loaded ?_
        rw [same]
        exact traceWritable

/-- A command settles. -/
theorem settles_perform {setting : Setting String} {image : String} {task : Task}
    (traceWritable : ∀ path, task.tracePath? = some path → ∀ content,
      ∃ files, progress.files.write (.ofPath path) content = .ok files) :
    Settles (Escapes progress.files setting image task) (perform setting image task)
      progress := by
  rw [perform]
  cases setting with
  | unset =>
      rw [loadProfile, pure_bind]
      exact settles_task task rfl traceWritable
  | blank => exact .escape rfl (.profile_blank rfl)
  | value path =>
      refine (gives_readProfile path progress).settles ?_ ?_
      · rintro fault ⟨unchosen, unreported⟩
        exact unreported.trans (escapes_unchosen_iff unchosen).symm
      · intro profile loaded chosen same
        rw [← same] at chosen traceWritable ⊢
        exact settles_task task chosen traceWritable

/-- A fault that is reported becomes status one, and others stay faults. -/
theorem reporting_of_error {fault : CommandFault} {ended : Progress}
    (ran : part progress = .error fault ended) :
    (fault.isReported = true → ∃ told, reporting part progress = .ok 1 told) ∧
      (fault.isReported = false → reporting part progress = .error fault ended) := by
  have caught : reporting part progress =
      (if fault.isReported then print ("Error: " ++ fault.message) >>= fun _ => pure 1
        else throw fault : Command Nat) ended := by
    simp only [reporting, tryCatch, tryCatchThe, MonadExceptOf.tryCatch, EStateM.tryCatch, ran]
    rfl
  rw [caught]
  constructor
  · intro reported
    rw [reported]
    exact ⟨_, rfl⟩
  · intro unreported
    rw [unreported]
    rfl

/-- A result stays. -/
theorem reporting_of_ok {status : Nat} {ended : Progress}
    (ran : part progress = .ok status ended) : reporting part progress = .ok status ended := by
  simp only [reporting, tryCatch, tryCatchThe, MonadExceptOf.tryCatch, EStateM.tryCatch, ran]

/-- What settles ends with status zero or one when its faults are reported, unless it
meets something; then it fails by a fault that is not reported. -/
theorem reporting_of_settles (settles : Settles escapes part progress) :
    (¬ escapes → ∃ status ended, reporting part progress = .ok status ended ∧
      (status = 0 ∨ status = 1)) ∧
    (escapes → ∃ fault ended, reporting part progress = .error fault ended ∧
      fault.isReported = false) := by
  cases ran : part progress with
  | ok status ended =>
      obtain ⟨among, unmet⟩ := settles.of_ok ran
      exact ⟨fun _ => ⟨status, ended, reporting_of_ok ran, among⟩, fun met => absurd met unmet⟩
  | error fault ended =>
      have met := settles.of_error ran
      obtain ⟨reports, fails⟩ := reporting_of_error ran
      constructor
      · intro unmet
        have reported : fault.isReported = true :=
          Bool.not_eq_false _ ▸ mt met.1 unmet
        obtain ⟨told, becomes⟩ := reports reported
        exact ⟨1, told, becomes, .inr rfl⟩
      · intro escaped
        exact ⟨fault, ended, fails (met.2 escaped), met.2 escaped⟩

end Command

/-- A command whose trace can be written ends with status zero or one unless it meets
something that is not reported. If it does, it ends by a fault. -/
theorem run_ends_by_status_unless_escaping {files : FileTree} {arguments : List String}
    {invocation : Invocation} {image : String} {task : Task} (clock : Clock)
    (accepted : readInvocation arguments = .ok invocation)
    (asked : invocation.task = some (image, task))
    (traceWritable : ∀ path, task.tracePath? = some path → ∀ content,
      ∃ written, files.write (.ofPath path) content = .ok written) :
    (¬ Escapes files invocation.profile image task →
      (run files clock arguments).ending = .ok 0 ∨ (run files clock arguments).ending = .ok 1) ∧
    (Escapes files invocation.profile image task →
      ∃ fault, (run files clock arguments).ending = .error fault ∧ fault.isReported = false) := by
  have settles : Command.Settles (Escapes files invocation.profile image task)
      (Command.perform invocation.profile image task) { files, clock } :=
    Command.settles_perform traceWritable
  obtain ⟨ends, fails⟩ := Command.reporting_of_settles settles
  constructor
  · intro unmet
    obtain ⟨status, ended, ran, among⟩ := ends unmet
    simp only [run, accepted, asked, ran]
    rcases among with rfl | rfl
    · exact .inl rfl
    · exact .inr rfl
  · intro met
    obtain ⟨fault, ended, ran, unreported⟩ := fails met
    simp only [run, accepted, asked, ran]
    exact ⟨fault, rfl, unreported⟩

/-- A profile of one game, for which a pointer before the image is listed. -/
def outlyingText : String :=
  "game_code_address=0\n[[games]]\ncode=\"AAAA\"\nextra_pointers=[-9]"

/-- The bytes of its file. -/
def outlyingContent : Array UInt8 :=
  (outlyingText.toList.map fun mark => mark.toNat.toUInt8).toArray

/-- The values of its keys. -/
def outlyingValue : Value :=
  .table [("game_code_address", .integer 0), ("games",
    .list [.table [("code", .text "AAAA"), ("extra_pointers", .list [.integer (-9)])]])]

/-- The profile that it is. -/
def outlying : Profile where
  gameCodeAddress := 0
  games := [{ code := "AAAA", extraPointers := [-9] }]

/-- The profile beside an image. -/
def outlyingFiles (image : Array UInt8) : FileTree where
  entries := [(.ofPath "p", .file outlyingContent), (.ofPath "r", .file image)]

/-- A discovery in the image under the profile. -/
def outlyingArguments : List String := ["--profile", "p", "discover", "r"]

/-- What the arguments ask for. -/
def outlyingInvocation : Invocation where
  verbose := false
  profile := .value "p"
  task := some ("r", .discover .unset false)

/-- The arguments are accepted. -/
theorem readInvocation_outlying :
    readInvocation outlyingArguments = .ok outlyingInvocation := by
  cbv

/-- Both files are there. -/
theorem read_outlyingFiles (image : Array UInt8) :
    (outlyingFiles image).read (.ofPath "p") = .ok outlyingContent ∧
      (outlyingFiles image).read (.ofPath "r") = .ok image :=
  ⟨by cbv, by cbv⟩

/-- The file holds the text. -/
theorem readUtf8_outlyingContent : Text.readUtf8 outlyingContent.toList = .ok outlyingText := by
  cbv

/-- The text has these values. -/
theorem read_outlyingText : Toml.read outlyingText = .ok outlyingValue := by
  cbv

/-- The profile is valid. -/
theorem chosenProfile_outlying (image : Array UInt8) :
    chosenProfile (outlyingFiles image) (.value "p") = some outlying := by
  have decoded := readUtf8_outlyingContent
  have parsed := read_outlyingText
  have valid : Profile.ofValue outlyingValue = .ok outlying := by cbv
  simp [chosenProfile, (read_outlyingFiles image).1, decoded, parsed, valid, Except.toOption]

/-- Under this profile the image of another game is turned away with a status. -/
theorem run_outlying_other_game :
    (run (outlyingFiles #[66, 66, 66, 66]) .counting outlyingArguments).ending = .ok 0 ∨
      (run (outlyingFiles #[66, 66, 66, 66]) .counting outlyingArguments).ending = .ok 1 := by
  have imageRead := (read_outlyingFiles #[66, 66, 66, 66]).2
  refine (run_ends_by_status_unless_escaping .counting readInvocation_outlying rfl ?_).1 ?_
  · intro path traced
    cases traced
  · intro met
    have escapes := (Command.escapes_read_iff (chosenProfile_outlying _) imageRead).1 met
    have unsupported : Discovery.isSupported outlying
        { image := #[66, 66, 66, 66], pointers := outlying.pointers } = false := by cbv
    rcases escapes with _ | _ | _ | _ | ⟨supported, -⟩ | ⟨supported, -⟩
    · rw [unsupported] at supported
      cases supported
    · rw [unsupported] at supported
      cases supported

/-- In an image of the game the pointer before the image lets a fault out. -/
theorem run_outlying_fails :
    readInvocation outlyingArguments = .ok outlyingInvocation ∧
      ∃ fault, (run (outlyingFiles #[65, 65, 65, 65]) .counting outlyingArguments).ending =
        .error fault := by
  have imageRead := (read_outlyingFiles #[65, 65, 65, 65]).2
  refine ⟨readInvocation_outlying, ?_⟩
  have supported : Discovery.isSupported outlying
      { image := #[65, 65, 65, 65], pointers := outlying.pointers } = true := by cbv
  have coded : Discovery.gameCode outlying
      { image := #[65, 65, 65, 65], pointers := outlying.pointers } = "AAAA" := by cbv
  have met : Escapes (outlyingFiles #[65, 65, 65, 65]) (.value "p") "r"
      (.discover .unset false) := by
    have listed : (-9 : Int) ∈ Discovery.listedSources outlying "AAAA" := by decide
    rw [← coded] at listed
    exact .task (chosenProfile_outlying _) imageRead
      (.discover_outside supported listed (by decide))
  have settles : Command.Settles
      (Escapes (outlyingFiles #[65, 65, 65, 65]) (.value "p") "r" (.discover .unset false))
      (Command.perform (.value "p") "r" (.discover .unset false))
      { files := outlyingFiles #[65, 65, 65, 65], clock := .counting } := by
    refine Command.settles_perform ?_
    intro path traced
    cases traced
  obtain ⟨fault, ended, failed, -⟩ := (Command.reporting_of_settles settles).2 met
  refine ⟨fault, ?_⟩
  simp only [run, readInvocation_outlying, outlyingInvocation, failed]

end ImageAtlas.CommandLine
