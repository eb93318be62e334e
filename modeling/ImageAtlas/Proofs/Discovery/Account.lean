import ImageAtlas.Proofs.Discovery.Hits
import ImageAtlas.Proofs.Discovery.Watching
import ImageAtlas.Proofs.Profile.Readable

/-!
# The account of a discovery

What a discovery tells the tracer that watches it, told from what it does to the space:
`Account` says of the whole of a discovery what is told of the pointers, of the header
fields and of each search, which begins in the space that the ones before it left. A trace
is this account when its capacity suffices, and no other tracer would have made the
discovery end differently.
-/

namespace ImageAtlas

namespace Space

variable {space : Space} {name : String} {region recorded : Region}

/-- Writing an anchor gives the region as it was recorded. -/
theorem eq_inheriting_of_writeAnchor
    (written : (space.writeAnchor name region).outcome = .ok recorded) :
    recorded = space.inheriting region := by
  simp only [writeAnchor] at written
  generalize (follow _ _ _).outcome = followed at written
  cases followed with
  | error fault => cases written
  | ok _ =>
      cases written
      rfl

/-- A region is recorded as a region of its kind. -/
theorem kind_inheriting (space : Space) (region : Region) :
    (space.inheriting region).kind = region.kind := by
  obtain ⟨backReferences, recorded⟩ := space.exists_inheriting_eq region
  rw [recorded]
  cases region <;> rfl

/-- The space in which header fields have been written one after the other. -/
def withFields (space : Space) : List HeaderField → Space
  | [] => space
  | field :: rest => (space.writeAnchor field.name field.region).space.withFields rest

/-- Writing header fields keeps a space well formed. -/
theorem WellFormed.withFields (wellFormed : space.WellFormed) (fields : List HeaderField) :
    (space.withFields fields).WellFormed := by
  induction fields generalizing space with
  | nil => exact wellFormed
  | cons field rest inductionHypothesis =>
      exact inductionHypothesis (wellFormed.writeAnchor field.name field.region)

end Space

namespace Discovery

variable {profile : Profile} {code : String} {space last : Space} {array : NameArray}
  {told : List Told}

/-- What is told of the pointers: how many were discovered, if they were to be and nothing
was known yet. -/
inductive PointersTold (profile : Profile) (space : Space) : List Told → Prop where
  | discovered {count : Nat}
      (discovers : (space.regions.isEmpty && profile.pointers.discover) = true)
      (counted : space.discoverPointers.outcome = .ok count) :
      PointersTold profile space [⟨.text "pointers", .pointers (.integer count)⟩]
  | left (leaves : (space.regions.isEmpty && profile.pointers.discover) = false) :
      PointersTold profile space []

/-- What is told of a header field. -/
def fieldTold (context : Value) (field : HeaderField) : Told :=
  ⟨context, .anchor (.text field.name) (.integer field.address) (.text "ascii")⟩

/-- What is told of a candidate. -/
def candidateTold (array : NameArray) (counted : Int → Nat) (candidate : Region) : Told :=
  ⟨.text array.anchor, .candidate (.integer candidate.start) (.integer (counted candidate.start))⟩

/-- What is told of a search before it ends: that it starts, and how many elements were
counted at each candidate. -/
def scanTold (array : NameArray) (candidates : List Region) (counted : Int → Nat) : List Told :=
  ⟨.text array.anchor, .searchStart (.text array.format)⟩ ::
    candidates.map (candidateTold array counted)

/-- A search for an array counts the elements of its format at the candidates, which lie in
ascending order. -/
structure Scans (space : Space) (array : NameArray) (schema : Schema) (counted : Int → Nat) :
    Prop where
  read : Schema.read array.format = .ok schema
  counts : space.Counts schema.layout counted
  ascending : space.candidates.Pairwise fun candidate other => candidate.start < other.start

/-- What is told of a search, and the space that it leaves. If nothing fits at any candidate
the search is exhausted. Otherwise the first of the candidates with the greatest count is
found, and anchored. -/
inductive SearchTold (space : Space) (array : NameArray) : List Told → Space → Prop where
  | exhausted {schema : Schema} {counted : Int → Nat} (scans : Scans space array schema counted)
      (none : ∀ candidate ∈ space.candidates, counted candidate.start = 0) :
      SearchTold space array
        (scanTold array space.candidates counted ++
          [⟨.text array.anchor, .exhausted (.text array.format)⟩])
        space
  | found {schema : Schema} {counted : Int → Nat} {before after : List Region} {best : Region}
      (scans : Scans space array schema counted)
      (candidates : space.candidates = before ++ best :: after)
      (some : 1 ≤ counted best.start)
      (fewer : ∀ earlier ∈ before, counted earlier.start < counted best.start)
      (notMore : ∀ later ∈ after, counted later.start ≤ counted best.start) :
      SearchTold space array
        (scanTold array space.candidates counted ++
          [⟨.text array.anchor, .found (.text array.format) (.integer best.start)
              (.integer (counted best.start))⟩,
            ⟨.text array.anchor, .anchor (.text array.anchor) (.integer best.start)
              (.text "array")⟩])
        (space.writeAnchor array.anchor
          (.array (Space.placement schema best (counted best.start)))).space

/-- What is told of searches one after the other, each in the space that the one before it
left. -/
inductive SearchesTold : Space → List NameArray → List Told → Space → Prop where
  | done {space : Space} : SearchesTold space [] [] space
  | next {space middle last : Space} {array : NameArray} {rest : List NameArray}
      {told more : List Told} (search : SearchTold space array told middle)
      (further : SearchesTold middle rest more last) :
      SearchesTold space (array :: rest) (told ++ more) last

/-- What is told of a whole discovery for a game, and the space that it leaves. -/
inductive Account (profile : Profile) (code : String) (space : Space) :
    List Told → Space → Prop where
  | told {pointersTold searchesTold : List Told} {last : Space}
      (pointers : PointersTold profile space pointersTold)
      (searches : SearchesTold
        ((space.addPointers (pointerSources profile code space)).withFields
          (profile.headerFor code)) (profile.arraysFor code) searchesTold last) :
      Account profile code space
        (pointersTold ++ (profile.headerFor code).map (fieldTold (.text "header")) ++ searchesTold)
        last

/-- Anchoring tells of the anchor. -/
theorem steady_anchor (name : String) (region : Region) (space : Space) (context : Value) :
    Steady (anchor name region) space (some context) fun _ last told =>
      last = (space.writeAnchor name region).space ∧
        told = [⟨context,
          .anchor (.text name) (.integer region.start) (.text region.kind.name)⟩] := by
  refine (steady_carryOut (fun space => space.writeAnchor name region) space _).bind ?_
  rintro recorded written _ ⟨outcome, rfl, rfl⟩
  obtain rfl := Space.eq_inheriting_of_writeAnchor outcome
  refine (steady_tell _ _ context).bind ?_
  rintro _ _ _ ⟨rfl, rfl⟩
  refine (steady_note _ _ _).bind ?_
  rintro _ _ _ ⟨rfl, rfl⟩
  refine .pure ⟨rfl, ?_⟩
  simp [Space.start_inheriting, Space.kind_inheriting]

/-- Adding a listed pointer tells nothing. -/
theorem steady_addExtraPointer (profile : Profile) (source : Int) (space : Space)
    (step : Option Value) :
    Steady (addExtraPointer profile source) space step fun _ _ told => told = [] := by
  have nothing : Steady (Pure.pure ()) space step fun _ _ told => told = [] := .pure rfl
  by_cases beyond : space.image.size ≤ source + 3
  · refine nothing.congr fun state here => ?_
    simp only [addExtraPointer, get_bind_apply, here, if_pos beyond]
  · cases highest : space.image.byteAt (source + 3) with
    | error fault =>
        refine .fails fun state here _ => ?_
        simp only [Fails, addExtraPointer, get_bind_apply, here, if_neg beyond, highest]
        exact ⟨_, _, rfl⟩
    | ok byte =>
        by_cases trusted : byte.toNat = profile.pointers.base / 0x1000000 % 0x100
        · have noted : Steady (if (space.addPointer source).2 then note (.extraPointerAdded source)
              else Pure.pure ()) (space.addPointer source).1 step fun _ _ told => told = [] := by
            split
            · exact (steady_note _ _ _).imp And.right
            · exact .pure rfl
          refine noted.moved [] fun state here => ?_
          simp only [addExtraPointer, get_bind_apply, here, if_neg beyond, highest,
            if_neg (not_not.2 trusted), List.append_nil]
          rfl
        · refine nothing.congr fun state here => ?_
          simp only [addExtraPointer, get_bind_apply, here, if_neg beyond, highest, if_pos trusted]

/-- Adding the listed pointers tells nothing. -/
theorem steady_addExtraPointers (profile : Profile) (code : String) (space : Space)
    (step : Option Value) :
    Steady (addExtraPointers profile code) space step fun _ _ told => told = [] := by
  have each : ∀ (sources : List Int) (space : Space),
      Steady (sources.forM (addExtraPointer profile)) space step fun _ _ told => told = [] := by
    intro sources
    induction sources with
    | nil => exact fun space => .pure rfl
    | cons source rest inductionHypothesis =>
        intro space
        refine (steady_addExtraPointer profile source space step).bind ?_
        rintro _ middle _ rfl
        exact (inductionHypothesis middle).imp id
  rw [addExtraPointers]
  split
  · exact .pure rfl
  · exact each _ space

/-- Recording the pointers tells how many were discovered. -/
theorem steady_recordPointers (profile : Profile) (code : String) (space : Space)
    (step : Option Value) :
    Steady (recordPointers profile code) space step fun _ last told =>
      PointersTold profile space told ∧
        last = space.addPointers (pointerSources profile code space) := by
  have told : Steady (recordPointers profile code) space step fun _ _ told =>
      PointersTold profile space told := by
    refine .inStep ?_
    by_cases discovers : (space.regions.isEmpty && profile.pointers.discover) = true
    · have goes : Steady (do
          let count ← carryOut Space.discoverPointers
          tell (.pointers (.integer count))
          addExtraPointers profile code) space (some (.text "pointers")) fun _ _ told =>
            PointersTold profile space told := by
        refine (steady_carryOut _ space _).bind ?_
        rintro count _ _ ⟨counted, rfl, rfl⟩
        refine (steady_tell _ _ _).bind ?_
        rintro _ _ _ ⟨rfl, rfl⟩
        refine (steady_addExtraPointers profile code _ _).imp ?_
        rintro _ _ _ rfl
        exact .discovered discovers counted
      refine goes.congr fun state here => ?_
      simp only [get_bind_apply, here, if_pos discovers]
    · refine Steady.congr ((steady_addExtraPointers profile code space _).imp ?_)
        fun state here => ?_
      · rintro _ _ _ rfl
        exact .left (Bool.eq_false_of_not_eq_true discovers)
      · simp only [get_bind_apply, here, if_neg discovers]
  have reached := told.and_does fun state here => here ▸ does_recordPointers profile code state
  exact reached.imp fun fine => ⟨fine.1, fine.2.2.2⟩

/-- Anchoring header fields tells of each. -/
theorem steady_anchorFields (fields : List HeaderField) (found : Found) (space : Space)
    (context : Value) :
    Steady (anchorFields found fields) space (some context) fun _ last told =>
      last = space.withFields fields ∧ told = fields.map (fieldTold context) := by
  induction fields generalizing found space with
  | nil => exact .pure ⟨rfl, rfl⟩
  | cons field rest inductionHypothesis =>
      refine (steady_anchor field.name field.region space context).bind ?_
      rintro region _ _ ⟨rfl, rfl⟩
      refine (inductionHypothesis (Found.put field.name region found) _).imp ?_
      rintro _ _ _ ⟨rfl, rfl⟩
      exact ⟨rfl, rfl⟩

/-- What follows a search: it is told what was counted, and what was found is anchored. -/
def conclude (array : NameArray) (report : SearchReport) : Discovery (Option Region) := do
  report.progress.forM fun run => tell (.candidate (.integer run.1) (.integer run.2))
  match report.hit with
  | none => do
      note (.arrayMissing array.anchor array.format)
      tell (.exhausted (.text array.format))
      pure none
  | some hit => do
      tell (.found (.text array.format) (.integer hit.start) (.integer hit.count))
      let region ← anchor array.anchor (.array hit)
      pure (some region)

/-- A search that found nothing is told to be exhausted. -/
theorem steady_conclude_missed {report : SearchReport} (missed : report.hit = none)
    (array : NameArray) (space : Space) (context : Value) :
    Steady (conclude array report) space (some context) fun _ last told =>
      last = space ∧ told =
        report.progress.map (fun run => ⟨context, .candidate (.integer run.1) (.integer run.2)⟩) ++
          [⟨context, .exhausted (.text array.format)⟩] := by
  rw [conclude, missed]
  refine (steady_tellEach _ report.progress space context).bind ?_
  rintro _ _ _ ⟨rfl, rfl⟩
  refine (steady_note _ _ _).bind ?_
  rintro _ _ _ ⟨rfl, rfl⟩
  refine (steady_tell _ _ context).bind ?_
  rintro _ _ _ ⟨rfl, rfl⟩
  exact .pure ⟨rfl, by simp⟩

/-- What a search found is told and anchored. -/
theorem steady_conclude_found {report : SearchReport} {hit : ArrayRegion}
    (found : report.hit = some hit) (array : NameArray) (space : Space) (context : Value) :
    Steady (conclude array report) space (some context) fun _ last told =>
      last = (space.writeAnchor array.anchor (.array hit)).space ∧ told =
        report.progress.map (fun run => ⟨context, .candidate (.integer run.1) (.integer run.2)⟩) ++
          [⟨context, .found (.text array.format) (.integer hit.start) (.integer hit.count)⟩,
            ⟨context, .anchor (.text array.anchor) (.integer hit.start) (.text "array")⟩] := by
  rw [conclude, found]
  refine (steady_tellEach _ report.progress space context).bind ?_
  rintro _ _ _ ⟨rfl, rfl⟩
  refine (steady_tell _ _ context).bind ?_
  rintro _ _ _ ⟨rfl, rfl⟩
  refine (steady_anchor array.anchor (.array hit) _ context).bind ?_
  rintro _ _ _ ⟨rfl, rfl⟩
  exact .pure ⟨rfl, by simp [Region.start, Region.kind, RegionKind.name]⟩

/-- The counts of a search are those that it reports. -/
theorem Scans.map_counted {schema : Schema} {counted : Int → Nat} {report : SearchReport}
    (scans : Scans space array schema counted)
    (searched : (space.search array.format).value = .ok report) :
    space.candidates.map (fun candidate => (candidate.start, counted candidate.start)) =
      report.progress := by
  rw [scans.counts.search_eq scans.read, Except.ok.injEq] at searched
  rw [← searched]

/-- What is told of the candidates is what a search reports. -/
theorem Scans.map_candidateTold {schema : Schema} {counted : Int → Nat} {report : SearchReport}
    (scans : Scans space array schema counted)
    (searched : (space.search array.format).value = .ok report) :
    space.candidates.map (candidateTold array counted) = report.progress.map fun run =>
      ⟨.text array.anchor, .candidate (.integer run.1) (.integer run.2)⟩ := by
  rw [← scans.map_counted searched, List.map_map]
  rfl

/-- What is told when a search has started is what is told of it. -/
theorem Scans.steady_conclude {schema : Schema} {counted : Int → Nat}
    (scans : Scans space array schema counted) {report : SearchReport}
    (searched : (space.search array.format).value = .ok report) :
    Steady (conclude array report) space (some (.text array.anchor)) fun _ last told =>
      SearchTold space array
        (⟨.text array.anchor, .searchStart (.text array.format)⟩ :: told) last := by
  have longest := longestOf_longestRun (space.candidates.map (Space.runAt counted))
  have told := scans.map_candidateTold searched
  rw [scans.counts.search_eq scans.read] at searched
  generalize longestRun _ = best at longest searched
  cases searched
  cases longest with
  | none empty =>
      refine (steady_conclude_missed rfl array space _).imp ?_
      rintro _ _ _ ⟨rfl, rfl⟩
      rw [← told]
      exact .exhausted scans (List.forall_mem_map.1 empty)
  | some split some fewer notMore =>
      obtain ⟨before, others, candidates, rfl, behind⟩ := List.map_eq_append_iff.1 split
      obtain ⟨best, after, rfl, rfl, rfl⟩ := List.map_eq_cons_iff.1 behind
      refine (steady_conclude_found rfl array space _).imp ?_
      rintro _ _ _ ⟨rfl, rfl⟩
      rw [← told]
      exact .found scans candidates some (List.forall_mem_map.1 fewer)
        (List.forall_mem_map.1 notMore)

/-- A search tells what it counts and what it finds. -/
theorem steady_findArray (wellFormed : space.WellFormed) {schema : Schema}
    (accepted : Schema.read array.format = .ok schema) (step : Option Value) :
    Steady (findArray array) space step fun _ last told =>
      SearchTold space array told last := by
  obtain ⟨counted, counts⟩ := Space.exists_counts (Schema.plain_of_read accepted) space
  have scans : Scans space array schema counted :=
    ⟨accepted, counts, wellFormed.pairwise_candidates⟩
  obtain ⟨report, searched⟩ : ∃ report, (space.search array.format).value = .ok report :=
    ⟨_, counts.search_eq accepted⟩
  refine .inStep ((steady_tell _ space _).bind ?_)
  rintro _ space _ ⟨rfl, rfl⟩
  refine (scans.steady_conclude searched).moved (space.search array.format).notices
    fun state here => ?_
  simp only [get_bind_apply, here, searched]
  rfl

/-- A search keeps a space well formed. -/
theorem SearchTold.wellFormed (search : SearchTold space array told last)
    (wellFormed : space.WellFormed) : last.WellFormed := by
  cases search with
  | exhausted => exact wellFormed
  | found => exact wellFormed.writeAnchor _ _

/-- Searches one after the other tell what each of them counts and finds. -/
theorem steady_findArrays (wellFormed : space.WellFormed) {arrays : List NameArray}
    (readable : ∀ array ∈ arrays, ∃ schema, Schema.read array.format = .ok schema)
    (found : Found) (step : Option Value) :
    Steady (findArrays found arrays) space step fun _ last told =>
      SearchesTold space arrays told last := by
  induction arrays generalizing found space with
  | nil => exact .pure .done
  | cons array rest inductionHypothesis =>
      obtain ⟨⟨schema, accepted⟩, others⟩ := List.forall_mem_cons.1 readable
      refine (steady_findArray wellFormed accepted step).bind ?_
      rintro result middle told search
      have onward := fun found =>
        (inductionHypothesis (search.wellFormed wellFormed) others found).imp
          fun further => SearchesTold.next search further
      cases result with
      | none => exact onward found
      | some region => exact onward (Found.put array.anchor region found)

/-- A whole discovery tells its account, if it is for a supported game, and else nothing. -/
theorem steady_run (wellFormed : space.WellFormed) (readable : profile.Readable) (code : String)
    (step : Option Value) :
    Steady (run profile code) space step fun _ last told =>
      code ∈ profile.supportedCodes → Account profile code space told last := by
  unfold run
  split
  · rename_i unsupported
    refine (steady_note _ space step).bind ?_
    rintro _ _ _ ⟨rfl, rfl⟩
    refine .pure fun supported => ?_
    simp [supported] at unsupported
  · refine (steady_recordPointers profile code space step).bind ?_
    rintro _ _ _ ⟨pointers, rfl⟩
    have fields := steady_anchorFields (profile.headerFor code) []
      (space.addPointers (pointerSources profile code space)) (.text "header")
    refine fields.inStep.bind ?_
    rintro header _ _ ⟨rfl, rfl⟩
    have ready := (wellFormed.addPointers (pointerSources profile code space)).withFields
      (profile.headerFor code)
    have sought : ∀ array ∈ profile.arraysFor code, ∃ schema,
        Schema.read array.format = .ok schema :=
      fun array member => readable array (List.mem_filter.1 member).1
    refine (steady_findArrays ready sought [] step).bind ?_
    rintro arrays last _ searches
    refine (steady_note _ last step).bind ?_
    rintro _ _ _ ⟨rfl, rfl⟩
    refine .pure fun _ => ?_
    simpa using Account.told pointers searches

variable {state ended : DiscoveryState} {found : Found}

/-- When a discovery has a result in a reachable space, with formats that are the texts of
schemas, it has the same result under every other tracer that can tell times, whether that is
enabled and however many events it keeps, and leaves the same space. If the game is supported
and the tracer enabled and of sufficient capacity, the events of the discovery are its
account, one after the other: how many pointers were discovered, if they were; the anchor of
each header field; and for each array the start of the search, the count at each candidate in
ascending order, and either that nothing fits at any of them or the first candidate with the
greatest count, and its anchor. -/
theorem run_tells_account (reachable : Space.Reachable Space.anyOperation state.space)
    (readable : profile.Readable) (ran : run profile code state = .ok found ended) :
    (∀ (tracer : Tracer) (clock : Clock), tracer.KeepsTime →
      ∃ other, run profile code { state with tracer, clock } = .ok found other ∧
        other.space = ended.space ∧ other.notices = ended.notices) ∧
    (code ∈ profile.supportedCodes → state.tracer.enabled = true →
      ∃ told, Account profile code state.space told ended.space ∧
        ((∀ capacity, state.tracer.capacity = some capacity →
            state.tracer.recorded.length + told.length ≤ capacity) →
          ∃ events, ended.tracer.events = state.tracer.events ++ events ∧
            List.Forall₂ TraceEvent.Tells events told)) := by
  cases steady_run reachable.wellFormed readable code none with
  | fails watched =>
      obtain ⟨fault, stopped, failed⟩ := watched state rfl (fun _ none => nomatch none)
      rw [ran] at failed
      cases failed
  | passes result notices account watched =>
      rcases watched state rfl (fun _ none => nomatch none) with
        ⟨tracer, clock, passed, heard⟩ | ⟨⟨fault, stopped, failed⟩, -⟩
      · rw [ran] at passed
        cases passed
        refine ⟨fun tracer clock keeps => ?_, fun supported enabled => ?_⟩
        · rcases watched { state with tracer, clock } rfl (fun _ none => nomatch none) with
            ⟨later, time, other, -⟩ | ⟨-, timeless⟩
          · exact ⟨_, other, rfl, rfl⟩
          · exact absurd keeps timeless
        · exact ⟨_, account supported, heard.exists_events enabled⟩
      · rw [ran] at failed
        cases failed

/-- What is told of the discovery of the title and the names. -/
def titledTold : List Told :=
  [⟨.text "pointers", .pointers (.integer 3)⟩,
    ⟨.text "header", .anchor (.text "Title") (.integer 4) (.text "ascii")⟩,
    ⟨.text "names", .searchStart (.text "[n\"\"2]")⟩,
    ⟨.text "names", .candidate (.integer 4) (.integer 0)⟩,
    ⟨.text "names", .candidate (.integer 8) (.integer 2)⟩,
    ⟨.text "names", .found (.text "[n\"\"2]") (.integer 8) (.integer 2)⟩,
    ⟨.text "names", .anchor (.text "names") (.integer 8) (.text "array")⟩]

/-- The title is recorded by writing it, for nothing follows its name. -/
theorem withFields_titled {space : Space} (independent : space.Independent) :
    space.withFields (titled.headerFor "AAAA") = space.withHeader (titled.headerFor "AAAA") := by
  have fields : titled.headerFor "AAAA" = [{ name := "Title", address := 4, length := 4 }] := by
    decide
  have underived := HeaderField.underived_region { name := "Title", address := 4, length := 4 }
  rw [fields, Space.withFields, Space.withFields, Space.withHeader, Space.withHeader,
    independent.wellFormed.anchoring_inheriting]
  exact (independent.writeAnchor "Title" underived).2

/-- It is the account of this discovery. -/
theorem eq_titledTold (account : Account titled "AAAA" titledState.space told last) :
    told = titledTold := by
  obtain ⟨reachable, empty, -⟩ := titled_ready
  have independent := (Space.Independent.of_isEmpty reachable.wellFormed empty).addPointers
    (pointerSources titled "AAAA" titledState.space)
  have arrays : titled.arraysFor "AAAA" = [{ anchor := "names", format := "[n\"\"2]" }] := by
    decide
  have discovered : titledState.space.discoverPointers.outcome = .ok 3 := by
    have three : titledState.space.alignedPointers.length = 3 := by decide +kernel
    rw [Space.discoverPointers, if_neg (by decide +kernel), if_neg (by decide)]
    exact congrArg Except.ok three
  obtain ⟨pointers, searches⟩ := account
  rw [withFields_titled independent, arrays] at searches
  generalize headed : (titledState.space.addPointers _).withHeader _ = space at searches
  have searched := headed ▸ search_titled
  obtain _ | ⟨search, further⟩ := searches
  cases further
  cases pointers with
  | left leaves =>
      rw [empty] at leaves
      cases leaves
  | discovered discovers counted =>
      rw [discovered] at counted
      cases counted
      cases search with
      | exhausted scans none =>
          have counts : _ = [((4 : Int), 0), (8, 2)] := scans.map_counted searched
          have zero : ∀ run ∈ [((4 : Int), 0), (8, 2)], run.2 = 0 := by
            rw [← counts]
            simpa using none
          exact absurd (zero (8, 2) (by simp)) (by decide)
      | @found schema counted before after best scans candidates some =>
          have counts : _ = [((4 : Int), 0), (8, 2)] := scans.map_counted searched
          have member : (best.start, counted best.start) ∈ [((4 : Int), 0), (8, 2)] := by
            rw [← counts, candidates]
            simp
          rw [scanTold, scans.map_candidateTold searched]
          rw [List.mem_pair, Prod.mk.injEq, Prod.mk.injEq] at member
          rcases member with ⟨-, zero⟩ | ⟨start, count⟩
          · rw [zero] at some
            cases some
          · rw [count, start]
            rfl

/-- The same state with a tracer that keeps all events. -/
def watchedTitledState : DiscoveryState :=
  { titledState with tracer := { capacity := none } }

/-- The title and the names are found whether or not this is watched, and all that happens is
told. -/
theorem run_titled_tells_account :
    ∃ found ended, run titled "AAAA" watchedTitledState = .ok found ended ∧
      (∃ other, run titled "AAAA" titledState = .ok found other ∧ other.space = ended.space) ∧
      List.Forall₂ TraceEvent.Tells ended.tracer.events titledTold := by
  obtain ⟨reachable, empty, supported⟩ := titled_ready
  have readable : titled.Readable := List.forall_mem_singleton.2 ⟨_, read_titled⟩
  obtain ⟨found, ended, ran⟩ : ∃ found ended, run titled "AAAA" watchedTitledState =
      .ok found ended :=
    exists_run supported reachable.wellFormed empty ⟨_, rfl⟩ titled_accepts
  have watched : Space.Reachable Space.anyOperation watchedTitledState.space := reachable
  obtain ⟨alike, tells⟩ := run_tells_account watched readable ran
  obtain ⟨other, unwatched, same, -⟩ :=
    alike titledState.tracer titledState.clock (fun enabled => nomatch enabled)
  obtain ⟨told, account, events⟩ := tells supported rfl
  obtain ⟨events, recorded, each⟩ := events (fun _ bound => nomatch bound)
  obtain rfl := eq_titledTold account
  exact ⟨found, ended, ran, ⟨other, unwatched, same⟩, recorded ▸ each⟩

end Discovery

end ImageAtlas
