import ImageAtlas.Proofs.Discovery.Effects
import ImageAtlas.Proofs.Discovery.Found

/-!
# The course of a discovery

A discovery starts from a space without regions, and none of the arrays it anchors
derives its length from a name. So anchors pass nothing on (`Space.Independent`), and
everything behind the pointers is anchoring one region after the other (`Written`).
Each of these regions has the back-references that are known at its start: a header
field is recorded with them, and what a search finds has those of its candidate. So
none of them changes which back-references are known anywhere.

`Searches` tells the searches in their order, each in the space that the ones before it
left, independently of the discovery that makes them. `does_run` says that a discovery
adds pointers, writes the header fields and makes these searches.
-/

namespace ImageAtlas

/-- A region that derives its length from no name. -/
def Region.Underived (region : Region) : Prop :=
  ∀ array name, region = .array array → array.lengthRule ≠ .derivedFromAnchor name

namespace Space

variable {space last : Space} {name : String} {region : Region}

/-- A space without regions holds none at any address. -/
theorem regionAt_of_isEmpty (empty : space.regions.isEmpty = true) (address : Int) :
    space.regionAt address = none := by
  rw [RegionTable.isEmpty, Std.TreeMap.isEmpty_iff_forall_not_mem] at empty
  exact getElem?_neg _ _ (empty address)

/-- No recorded array derives its length from a name, so that anchors pass nothing on. -/
structure Independent (space : Space) : Prop where
  wellFormed : space.WellFormed
  unfollowed : ∀ name, space.Unfollowed name

namespace Independent

/-- Writing an anchor is anchoring the region as it is recorded, and succeeds. -/
theorem writeAnchor (independent : space.Independent) (name : String)
    (underived : region.Underived) :
    (space.writeAnchor name region).outcome = .ok (space.inheriting region) ∧
      (space.writeAnchor name region).space = space.anchoring name region :=
  independent.wellFormed.writeAnchor_unfollowed (independent.unfollowed name)
    fun array same => underived array name same

/-- Anchors pass nothing on when one more region has been anchored. -/
theorem anchoring (independent : space.Independent) (name : String)
    (underived : region.Underived) : (space.anchoring name region).Independent where
  wellFormed := independent.wellFormed.anchoring name region
  unfollowed followed := (independent.unfollowed followed).anchoring
    fun array same => underived array followed same

/-- In a space without regions nothing derives its length. -/
theorem of_isEmpty (wellFormed : space.WellFormed) (empty : space.regions.isEmpty = true) :
    space.Independent where
  wellFormed := wellFormed
  unfollowed name address array found := by
    rw [regionAt_of_isEmpty empty] at found
    cases found

/-- Pointers make no array that derives its length from a name. -/
theorem addPointers (independent : space.Independent) (sources : List Int) :
    (space.addPointers sources).Independent where
  wellFormed := independent.wellFormed.addPointers sources
  unfollowed name address array found := by
    rw [independent.wellFormed.regionAt_addPointers] at found
    obtain ⟨backReferences, given, recorded, rfl⟩ := exists_array_of_pointed found
    exact independent.unfollowed name address given recorded

end Independent

/-- Regions that are anchored one after the other. Each of them derives its length from
no name and has the back-references that are known at its start. -/
inductive Written : Space → List (String × Region) → Space → Prop where
  | done {space : Space} : Written space [] space
  | anchor {space last : Space} {name : String} {region : Region}
      {rest : List (String × Region)} (underived : region.Underived)
      (references : region.backReferences = space.backReferencesAt region.start)
      (further : Written (space.anchoring name region) rest last) :
      Written space ((name, region) :: rest) last

/-- Anchoring a region with the back-references that are known at its start changes
those that are known nowhere. -/
theorem WellFormed.backReferencesAt_anchoring (wellFormed : space.WellFormed)
    (references : region.backReferences = space.backReferencesAt region.start)
    (address : Int) :
    (space.anchoring name region).backReferencesAt address = space.backReferencesAt address := by
  rw [(wellFormed.anchoring name region).backReferencesAt_eq, regionAt_anchoring,
    wellFormed.inheriting_of_references references]
  split
  · rename_i here
    rw [← here]
    exact references
  · exact (wellFormed.backReferencesAt_eq address).symm

namespace Written

variable {entries others : List (String × Region)} {middle : Space}

/-- Regions are anchored after others. -/
theorem append (written : Written space entries middle) (further : Written middle others last) :
    Written space (entries ++ others) last := by
  induction written with
  | done => exact further
  | anchor underived references _ inductionHypothesis =>
      exact .anchor underived references (inductionHypothesis further)

/-- Anchors pass nothing on when regions have been anchored. -/
theorem independent (written : Written space entries last) (before : space.Independent) :
    last.Independent := by
  induction written with
  | done => exact before
  | anchor underived _ _ inductionHypothesis =>
      exact inductionHypothesis (before.anchoring _ underived)

/-- Anchoring regions loses nothing. -/
theorem retains (written : Written space entries last) : Retains space last := by
  induction written with
  | done => exact .refl _
  | @anchor space last name region rest _ _ _ inductionHypothesis =>
      exact ((retains_observe space region).trans
        (retains_bind _ name region.start)).trans inductionHypothesis

/-- The same back-references are known everywhere as before. -/
theorem backReferencesAt_eq (written : Written space entries last) (before : space.WellFormed)
    (address : Int) : last.backReferencesAt address = space.backReferencesAt address := by
  induction written with
  | done => rfl
  | @anchor space last name region rest _ references _ inductionHypothesis =>
      rw [inductionHypothesis (before.anchoring name region)]
      exact before.backReferencesAt_anchoring references address

/-- Names lead to what was put under them while it was anchored. -/
theorem tells (written : Written space entries last) {found : Found}
    (before : found.Tells space) : (found.update entries).Tells last := by
  induction written generalizing found with
  | done => exact before
  | anchor _ _ _ inductionHypothesis => exact inductionHypothesis (before.put _ _)

end Written

/-- Searches for arrays one after the other, with what each of them reports. What is
found is written before the next search. -/
inductive Searches : Space → List (NameArray × SearchReport) → Space → Prop where
  | done {space : Space} : Searches space [] space
  | missed {space last : Space} {array : NameArray} {report : SearchReport}
      {rest : List (NameArray × SearchReport)}
      (searched : (space.search array.format).value = .ok report) (none : report.hit = none)
      (further : Searches space rest last) : Searches space ((array, report) :: rest) last
  | found {space last : Space} {array : NameArray} {report : SearchReport} {hit : ArrayRegion}
      {rest : List (NameArray × SearchReport)}
      (searched : (space.search array.format).value = .ok report)
      (found : report.hit = some hit)
      (further : Searches (space.writeAnchor array.anchor (.array hit)).space rest last) :
      Searches space ((array, report) :: rest) last

/-- What was found in searches, under the names for which it was searched. -/
def hitsOf (searches : List (NameArray × SearchReport)) : List (String × ArrayRegion) :=
  searches.filterMap fun search => search.2.hit.map fun hit => (search.1.anchor, hit)

/-- What was found in searches, as it is written. -/
def hitEntries (searches : List (NameArray × SearchReport)) : List (String × Region) :=
  (hitsOf searches).map fun entry => (entry.1, .array entry.2)

variable {searches : List (NameArray × SearchReport)} {text : String} {report : SearchReport}
  {hit : ArrayRegion} {array : NameArray}

/-- A search that finds nothing adds nothing to what was found. -/
theorem hitsOf_missed (none : report.hit = none) :
    hitsOf ((array, report) :: searches) = hitsOf searches := by
  rw [hitsOf, List.filterMap_cons_none (by rw [none]; rfl), ← hitsOf]

/-- What a search finds stands before what later ones find. -/
theorem hitsOf_found (found : report.hit = some hit) :
    hitsOf ((array, report) :: searches) = (array.anchor, hit) :: hitsOf searches := by
  rw [hitsOf, List.filterMap_cons_some (by rw [found]; rfl), ← hitsOf]

/-- A search that finds nothing writes nothing. -/
theorem hitEntries_missed (none : report.hit = none) :
    hitEntries ((array, report) :: searches) = hitEntries searches := by
  rw [hitEntries, hitsOf_missed none, ← hitEntries]

/-- What a search finds is written before what later ones find. -/
theorem hitEntries_found (found : report.hit = some hit) :
    hitEntries ((array, report) :: searches) =
      (array.anchor, .array hit) :: hitEntries searches := by
  rw [hitEntries, hitsOf_found found, List.map_cons, ← hitEntries]

/-- What a search finds derives its length from no name. -/
theorem WellFormed.underived_of_search (wellFormed : space.WellFormed)
    (searched : (space.search text).value = .ok report) (found : report.hit = some hit) :
    (Region.array hit).Underived := by
  obtain ⟨schema, counted, -, longest⟩ := wellFormed.exists_earliestLongest searched found
  rintro _ name ⟨⟩ derived
  rw [longest.lengthRule] at derived
  cases derived

/-- What a search finds has the back-references that are known at its start. -/
theorem WellFormed.references_of_search (wellFormed : space.WellFormed)
    (searched : (space.search text).value = .ok report) (found : report.hit = some hit) :
    hit.backReferences = space.backReferencesAt hit.start := by
  obtain ⟨schema, counted, -, longest⟩ := wellFormed.exists_earliestLongest searched found
  exact (longest.backReferencesAt_eq wellFormed).symm

/-- What searches find is anchored, and nothing else. -/
theorem Searches.written (made : Searches space searches last)
    (independent : space.Independent) : Written space (hitEntries searches) last := by
  induction made with
  | done => exact .done
  | missed searched none _ inductionHypothesis =>
      rw [hitEntries_missed none]
      exact inductionHypothesis independent
  | @found space last array report hit rest searched found _ inductionHypothesis =>
      have wellFormed := independent.wellFormed
      have underived := wellFormed.underived_of_search searched found
      rw [(independent.writeAnchor _ underived).2] at inductionHypothesis
      have further := inductionHypothesis (independent.anchoring _ underived)
      rw [hitEntries_found found]
      exact .anchor underived (wellFormed.references_of_search searched found) further

end Space

/-- A header field as a region. -/
def HeaderField.region (field : HeaderField) : Region :=
  .known { start := field.address, length := field.length, kind := .ascii }

/-- A header field derives its length from no name. -/
theorem HeaderField.underived_region (field : HeaderField) : field.region.Underived := by
  rintro array name ⟨⟩

namespace Space

variable {space : Space}

/-- Header fields as they are recorded one after the other. -/
def headerEntries (space : Space) : List HeaderField → List (String × Region)
  | [] => []
  | field :: rest =>
      (field.name, space.inheriting field.region) ::
        headerEntries (space.anchoring field.name (space.inheriting field.region)) rest

/-- The space in which header fields have been recorded one after the other. -/
def withHeader (space : Space) : List HeaderField → Space
  | [] => space
  | field :: rest =>
      withHeader (space.anchoring field.name (space.inheriting field.region)) rest

/-- A header field takes over the back-references that are known at its address. -/
theorem WellFormed.backReferences_inheriting_field (wellFormed : space.WellFormed)
    (field : HeaderField) :
    (space.inheriting field.region).backReferences = space.backReferencesAt field.address := by
  rw [HeaderField.region, inheriting_bare space rfl, wellFormed.backReferencesAt_eq]
  rfl

/-- Another region than an array stays none when it takes over back-references. -/
theorem underived_inheriting (space : Space) {region : Region} (underived : region.Underived) :
    (space.inheriting region).Underived := by
  obtain ⟨backReferences, recorded⟩ := space.exists_inheriting_eq region
  rintro array name same derived
  rw [recorded] at same
  cases region with
  | known known => cases same
  | array given =>
      cases same
      exact underived given name rfl derived

/-- Header fields are anchored one after the other. -/
theorem Independent.written_headerEntries (independent : space.Independent)
    (fields : List HeaderField) :
    Written space (space.headerEntries fields) (space.withHeader fields) := by
  induction fields generalizing space with
  | nil => exact .done
  | cons field rest inductionHypothesis =>
      have underived := space.underived_inheriting field.underived_region
      have references := independent.wellFormed.backReferences_inheriting_field field
      refine .anchor underived ?_ (inductionHypothesis (independent.anchoring _ underived))
      rw [start_inheriting]
      exact references

/-- Anchors pass nothing on when header fields have been recorded. -/
theorem Independent.withHeader (independent : space.Independent) (fields : List HeaderField) :
    (space.withHeader fields).Independent :=
  (independent.written_headerEntries fields).independent independent

/-- Anchoring a region as it is recorded is anchoring it. -/
theorem WellFormed.anchoring_inheriting (wellFormed : space.WellFormed) (field : HeaderField) :
    space.anchoring field.name (space.inheriting field.region) =
      space.anchoring field.name field.region := by
  have again : space.inheriting (space.inheriting field.region) =
      space.inheriting field.region := by
    refine wellFormed.inheriting_of_references ?_
    rw [start_inheriting]
    exact wellFormed.backReferences_inheriting_field field
  simp only [Space.anchoring, Space.observe, start_inheriting, again]

end Space

namespace Discovery

variable {state : DiscoveryState} {found : Found}

/-- Anchoring a region without a derived length records it with the references that are
there, and does not fail. -/
theorem does_anchor_underived {region : Region} (independent : state.space.Independent)
    (underived : region.Underived) (name : String) (kind : Fault → Prop) :
    Does (anchor name region) state
      (fun recorded space => recorded = state.space.inheriting region ∧
        space = (state.space.writeAnchor name region).space) kind := by
  obtain ⟨outcome, -⟩ := independent.writeAnchor name underived
  refine (does_anchor name region state).imp ?_ ?_
  · rintro recorded space ⟨written, left⟩
    rw [outcome] at written
    exact ⟨(Except.ok.inj written).symm, left⟩
  · intro fault failed
    rw [outcome] at failed
    cases failed

/-- Header fields are written one after the other. -/
theorem does_anchorFields (fields : List HeaderField) (found : Found) (state : DiscoveryState)
    (independent : state.space.Independent) :
    Does (anchorFields found fields) state
      (fun result space => result = found.update (state.space.headerEntries fields) ∧
        space = state.space.withHeader fields) fun _ => False := by
  induction fields generalizing found state with
  | nil => exact .pure ⟨rfl, rfl⟩
  | cons field rest inductionHypothesis =>
      refine (does_anchor_underived independent field.underived_region _ _).bind ?_
      rintro _ middle ⟨rfl, left⟩
      rw [(independent.writeAnchor _ field.underived_region).2,
        ← independent.wellFormed.anchoring_inheriting] at left
      have onward : middle.space.Independent := by
        rw [left]
        exact independent.anchoring _ (state.space.underived_inheriting field.underived_region)
      refine (inductionHypothesis (Found.put field.name _ found) middle onward).imp ?_ id
      rintro result space ⟨rfl, rfl⟩
      rw [left]
      exact ⟨rfl, rfl⟩

/-- Telling several things does nothing to the space. -/
theorem does_tellEach {α : Type} (happening : α → Happening) (things : List α)
    (state : DiscoveryState) (kind : Fault → Prop) :
    Does (things.forM fun thing => tell (happening thing)) state
      (fun _ space => space = state.space) kind := by
  induction things generalizing state with
  | nil => exact .pure rfl
  | cons thing rest inductionHypothesis =>
      refine (does_tell (happening thing) state kind).bind ?_
      intro _ middle same
      refine (inductionHypothesis middle).imp ?_ id
      intro _ space unchanged
      rw [unchanged, same]

/-- What one search does: it leaves the space when it finds nothing and writes what it
finds. It fails only by a refusal of its text. -/
theorem does_findArray (array : NameArray) (independent : state.space.Independent) :
    Does (findArray array) state
      (fun result space => ∃ report, (state.space.search array.format).value = .ok report ∧
        result = report.hit.map .array ∧
        space = match report.hit with
          | none => state.space
          | some hit => (state.space.writeAnchor array.anchor (.array hit)).space)
      (fun fault => ∃ refusal, Schema.read array.format = .error refusal ∧
        fault = .schema refusal) := by
  refine .inStep fun tracer _ => (does_tell _ _ _).bind ?_
  rintro _ started unchanged
  refine .get_bind (.set_bind rfl ?_)
  rw [unchanged]
  cases searched : (state.space.search array.format).value with
  | error fault => exact .throw (Space.refusal_of_search searched)
  | ok report =>
      refine (does_tellEach _ report.progress _ _).bind ?_
      rintro _ counted same
      cases found : report.hit with
      | none =>
          refine (does_note _ counted _).bind ?_
          rintro _ noted left
          refine (does_tell _ noted _).bind ?_
          rintro _ told kept
          refine .pure ⟨report, rfl, ?_, ?_⟩
          · rw [found, Option.map_none]
          · rw [kept, left, same, found]
      | some hit =>
          refine (does_tell _ counted _).bind ?_
          rintro _ told kept
          have reached : told.space = state.space := by
            rw [kept, same]
          have wellFormed := independent.wellFormed
          have inheriting : state.space.inheriting (.array hit) = .array hit :=
            wellFormed.inheriting_of_references (wellFormed.references_of_search searched found)
          have underived := wellFormed.underived_of_search searched found
          rw [← reached] at independent
          refine (does_anchor_underived independent underived array.anchor _).bind ?_
          rintro recorded written ⟨rfl, left⟩
          refine .pure ⟨report, rfl, ?_, ?_⟩
          · rw [reached, inheriting, found, Option.map_some]
          · rw [left, reached, found]

/-- Arrays are searched one after the other, and what is found is written before the next
search. A search fails only by a refusal of its text. -/
theorem does_findArrays (arrays : List NameArray) (found : Found)
    (independent : state.space.Independent) :
    Does (findArrays found arrays) state
      (fun result space => ∃ searches, searches.map Prod.fst = arrays ∧
        Space.Searches state.space searches space ∧
        result = found.update (Space.hitEntries searches))
      (fun fault => ∃ array ∈ arrays, ∃ refusal, Schema.read array.format = .error refusal ∧
        fault = .schema refusal) := by
  induction arrays generalizing found state with
  | nil => exact .pure ⟨[], rfl, .done, rfl⟩
  | cons array rest inductionHypothesis =>
      refine ((does_findArray array independent).imp id
        fun refused => ⟨array, List.mem_cons_self, refused⟩).bind ?_
      rintro result middle ⟨report, searched, rfl, left⟩
      have later : ∀ {fault : Fault}, (∃ other ∈ rest, ∃ refusal,
          Schema.read other.format = .error refusal ∧ fault = .schema refusal) →
          ∃ other ∈ array :: rest, ∃ refusal,
            Schema.read other.format = .error refusal ∧ fault = .schema refusal := by
        rintro fault ⟨other, member, refused⟩
        exact ⟨other, List.mem_cons_of_mem _ member, refused⟩
      cases hit? : report.hit with
      | none =>
          rw [hit?] at left
          dsimp only at left
          have onward : middle.space.Independent := left ▸ independent
          refine (inductionHypothesis found onward).imp ?_ later
          rintro result space ⟨searches, rfl, made, rfl⟩
          rw [left] at made
          refine ⟨(array, report) :: searches, rfl, .missed searched hit? made, ?_⟩
          rw [Space.hitEntries_missed hit?]
      | some hit =>
          rw [hit?] at left
          dsimp only at left
          have underived := independent.wellFormed.underived_of_search searched hit?
          have onward : middle.space.Independent := by
            rw [left, (independent.writeAnchor array.anchor underived).2]
            exact independent.anchoring array.anchor underived
          refine (inductionHypothesis (Found.put array.anchor (.array hit) found)
            onward).imp ?_ later
          rintro result space ⟨searches, rfl, made, rfl⟩
          rw [left] at made
          refine ⟨(array, report) :: searches, rfl, .found searched hit? made, ?_⟩
          rw [Space.hitEntries_found hit?]
          rfl

/-- The pointers for a game can be recorded: the base fits a word if pointers are to be
discovered in an image with a word, and no listed pointer lies before the image. -/
structure Records (profile : Profile) (code : String) (space : Space) : Prop where
  fits : profile.pointers.discover = true → 4 ≤ space.image.size →
    space.pointers.base < wordBound
  inside : ∀ source ∈ listedSources profile code, 0 ≤ source + 3

/-- How a discovery for a game goes in a space without regions: it adds pointers, writes
the header fields, makes the searches and keeps what it has written by name. -/
structure Course (profile : Profile) (code : String) (space : Space)
    (searches : List (NameArray × SearchReport)) (found : Found) (ended : Space) : Prop where
  records : Records profile code space
  arrays : searches.map Prod.fst = profile.arraysFor code
  made : Space.Searches ((space.addPointers (pointerSources profile code space)).withHeader
    (profile.headerFor code)) searches ended
  found_eq : found = Found.update []
    ((space.addPointers (pointerSources profile code space)).headerEntries
      (profile.headerFor code) ++ Space.hitEntries searches)

/-- The faults by which a discovery for a game can fail in a space without regions: the
base of the pointers fits no word, a listed pointer lies before the image, or, when the
pointers have been recorded, the format of an array is refused. -/
inductive Refuses (profile : Profile) (code : String) (space : Space) : Fault → Prop where
  | overflow (discovers : profile.pointers.discover = true) (whole : 4 ≤ space.image.size)
      (large : wordBound ≤ space.pointers.base) : Refuses profile code space .overflow
  | outside {source : Int} (listed : source ∈ listedSources profile code)
      (before : source + 3 < 0) :
      Refuses profile code space (.outsideImage (source + 3) space.image.size)
  | format {array : NameArray} {refusal : Schema.Refusal} (records : Records profile code space)
      (sought : array ∈ profile.arraysFor code)
      (refused : Schema.read array.format = .error refusal) :
      Refuses profile code space (.schema refusal)

/-- Decoding the header anchors its fields and fails by no fault of the space. -/
theorem does_decodeHeader (profile : Profile) (code : String) (kind : Fault → Prop)
    (independent : state.space.Independent) :
    Does (decodeHeader profile code) state
      (fun result space =>
        result = Found.update [] (state.space.headerEntries (profile.headerFor code)) ∧
          space = state.space.withHeader (profile.headerFor code)) kind := by
  refine .inStep fun tracer _ => ?_
  have anchored := does_anchorFields (profile.headerFor code) [] { state with tracer } independent
  exact anchored.imp id False.elim

/-- A discovery for a supported game in a space without regions goes its course, or it
fails by one of the faults for which it can. -/
theorem does_run {profile : Profile} {code : String} (state : DiscoveryState)
    (supported : code ∈ profile.supportedCodes) (wellFormed : state.space.WellFormed)
    (empty : state.space.regions.isEmpty = true) :
    Does (run profile code) state
      (fun found space => ∃ searches, Course profile code state.space searches found space)
      (Refuses profile code state.space) := by
  have independent := Space.Independent.of_isEmpty wellFormed empty
  have among : profile.supportedCodes.contains code = true :=
    List.contains_iff_mem.2 supported
  simp only [run, among, Bool.not_true, Bool.false_eq_true, if_false]
  refine ((does_recordPointers profile code state).imp id ?_).bind ?_
  · rintro fault (⟨discovers, failed⟩ | listed)
    · obtain ⟨whole, large, rfl⟩ := Space.discoverPointers_eq_error_iff.1 failed
      exact .overflow (Bool.and_eq_true_iff.1 discovers).2 whole large
    · obtain ⟨source, member, before, rfl⟩ := listed
      exact .outside member before
  · rintro _ pointed ⟨succeeds, inside, reached⟩
    have fits : profile.pointers.discover = true → 4 ≤ state.space.image.size →
        state.space.pointers.base < wordBound := by
      intro discovers whole
      by_contra large
      refine succeeds (Bool.and_eq_true_iff.2 ⟨empty, discovers⟩) .overflow ?_
      exact Space.discoverPointers_eq_error_iff.2 ⟨whole, Int.not_lt.1 large, rfl⟩
    have ready : pointed.space.Independent := reached ▸ independent.addPointers _
    refine (does_decodeHeader profile code _ ready).bind ?_
    rintro _ headed ⟨rfl, written⟩
    have onward : headed.space.Independent := by
      rw [written]
      exact ready.withHeader _
    refine ((does_findArrays (profile.arraysFor code) [] onward).imp id ?_).bind ?_
    · rintro fault ⟨array, sought, refusal, refused, rfl⟩
      exact .format ⟨fits, inside⟩ sought refused
    rintro _ searched ⟨searches, arrays, made, rfl⟩
    refine (does_note _ searched _).bind ?_
    intro _ noted same
    refine .pure ⟨searches, ⟨fits, inside⟩, arrays, ?_, ?_⟩
    · rw [same, ← reached, ← written]
      exact made
    · rw [← reached, Found.update_update, Found.update, Found.update, Found.update,
        List.foldl_append]

/-- A discovery for a supported game in a space without regions goes its course when it
has a result. -/
theorem exists_course_of_run {profile : Profile} {code : String}
    (supported : code ∈ profile.supportedCodes)
    (wellFormed : state.space.WellFormed) (empty : state.space.regions.isEmpty = true)
    {ended : DiscoveryState} (ran : run profile code state = .ok found ended) :
    ∃ searches, Course profile code state.space searches found ended.space :=
  ((does_run state supported wellFormed empty).of_ok ran).1

/-- A discovery for a supported game in a space without regions has a result if it does
not refuse what it is given. -/
theorem exists_run {profile : Profile} {code : String}
    (supported : code ∈ profile.supportedCodes)
    (wellFormed : state.space.WellFormed) (empty : state.space.regions.isEmpty = true)
    (timed : state.Timed) (accepts : ∀ fault, ¬ Refuses profile code state.space fault) :
    ∃ found ended, run profile code state = .ok found ended := by
  have never : ∀ fault, ¬ FailsBy state (Refuses profile code state.space) fault := by
    intro fault
    cases fault with
    | space fault => exact accepts fault
    | trace fault => exact not_not.2 timed
  obtain ⟨found, ended, ran, -⟩ := (does_run state supported wellFormed empty).exists_ok never
  exact ⟨found, ended, ran⟩

namespace Course

variable {profile : Profile} {code : String} {space ended : Space}
  {searches : List (NameArray × SearchReport)}

/-- Behind the pointers of a discovery, its regions are written one after the other. -/
theorem written (course : Course profile code space searches found ended)
    (independent : space.Independent) :
    Space.Written (space.addPointers (pointerSources profile code space))
      ((space.addPointers (pointerSources profile code space)).headerEntries
        (profile.headerFor code) ++ Space.hitEntries searches) ended := by
  have pointed := independent.addPointers (pointerSources profile code space)
  exact (pointed.written_headerEntries _).append (course.made.written (pointed.withHeader _))

/-- A discovery loses nothing. -/
theorem retains (course : Course profile code space searches found ended)
    (independent : space.Independent) : Space.Retains space ended :=
  (Space.retains_addPointers space _).trans (course.written independent).retains

/-- Anchors pass nothing on after a discovery either. -/
theorem independent (course : Course profile code space searches found ended)
    (independent : space.Independent) : ended.Independent :=
  (course.written independent).independent (independent.addPointers _)

end Course

/-- A game with a title at 4 and names, whose pointers may lead anywhere. -/
def titled : Profile where
  pointers := { earliestAnchor := 0 }
  games := [{ code := "AAAA" }]
  header := [{ name := "Title", address := 4, length := 4 }]
  arrays := [{ anchor := "names", format := "[n\"\"2]" }]

/-- Pointers from 0 and from 4 to 4, where the title is, and from 12 to the names at 8. -/
def titledState : DiscoveryState where
  space := { image := #[4, 0, 0, 8, 4, 0, 0, 8, 65, 0xFF, 66, 0xFF, 8, 0, 0, 8],
             pointers := titled.pointers }
  tracer := { enabled := false }
  clock := .counting

/-- Nothing is known there yet, and the game is supported. -/
theorem titled_ready :
    Space.Reachable Space.anyOperation titledState.space ∧
      titledState.space.regions.isEmpty = true ∧ "AAAA" ∈ titled.supportedCodes :=
  ⟨.initial _ .ascii _, rfl, by decide⟩

/-- The format of the names is read. -/
theorem read_titled : Schema.read "[n\"\"2]" =
    .ok ⟨[⟨"n", .delimitedText, 2⟩], .impliedByNextRun, "[n\"\"2]", by decide⟩ := by
  cbv

/-- Nothing in this game is refused. -/
theorem titled_accepts (fault : Fault) : ¬ Refuses titled "AAAA" titledState.space fault := by
  rintro (⟨-, -, large⟩ | ⟨listed, -⟩ | ⟨-, sought, refused⟩)
  · exact absurd large (by decide)
  · cases listed
  · obtain rfl : _ = ({ anchor := "names", format := "[n\"\"2]" } : NameArray) :=
      List.mem_singleton.1 sought
    rw [read_titled] at refused
    cases refused

end Discovery

end ImageAtlas
