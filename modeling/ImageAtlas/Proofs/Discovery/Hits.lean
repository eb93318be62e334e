import ImageAtlas.Proofs.Discovery.Course

/-!
# What a discovery finds

An array that a search found is made up of as many elements as fit there, and something
leads to it. It stays where it was written: a candidate is no array, so no later search
can find anything at its start, and the header fields were written before. So what was
found is still there at the end, and no two searches find arrays at one address, even
if they search for the same format or the same name.
-/

namespace ImageAtlas

namespace Space

variable {space last : Space} {hit array : ArrayRegion} {text name : String}
  {report : SearchReport} {searches : List (NameArray × SearchReport)} {address : Int}

/-- An array is really there: it has as many elements as fit where it lies in the image,
each of them made up of texts, something leads to it, and it is recorded. -/
structure Present (space : Space) (array : ArrayRegion) : Prop where
  plain : array.layout.Plain
  lengthRule : array.lengthRule = .fixed array.count
  one_le_count : 1 ≤ array.count
  inside : 0 ≤ array.start ∧ array.stop ≤ space.image.size
  fits : ∀ index < array.count,
    array.layout.fits space.codec space.image (array.elementAddress index) = .ok true
  ends : array.layout.fits space.codec space.image (array.elementAddress array.count) = .ok false
  referenced : ∃ source, source ∈ array.backReferences
  recorded : space.regionAt array.start = some (.array array)

/-- The arrays that are recorded in one space are still recorded in another one. -/
def KeepsEveryArray (space last : Space) : Prop :=
  ∀ address array, space.regionAt address = some (.array array) →
    last.regionAt address = some (.array array)

/-- What is really there stays while nothing is lost and every array is kept. -/
theorem Present.kept (present : Present space array) (retains : Retains space last)
    (keeps : KeepsEveryArray space last) : Present last array where
  plain := present.plain
  lengthRule := present.lengthRule
  one_le_count := present.one_le_count
  inside := by
    rw [retains.image]
    exact present.inside
  fits index before := by
    rw [retains.image, retains.codec]
    exact present.fits index before
  ends := by
    rw [retains.image, retains.codec]
    exact present.ends
  referenced := present.referenced
  recorded := keeps _ _ present.recorded

/-- No array is recorded where a search finds something. -/
theorem WellFormed.no_array_at_hit (wellFormed : space.WellFormed)
    (searched : (space.search text).value = .ok report) (found : report.hit = some hit) :
    space.regionAt hit.start ≠ some (.array array) := by
  obtain ⟨schema, counted, -, longest⟩ := wellFormed.exists_earliestLongest searched found
  obtain ⟨candidate, member, start, -⟩ := longest.candidate
  have noArray := (wellFormed.mem_candidates_iff.1 member).2.1
  rw [← start, wellFormed.regionAt_candidate member]
  rintro ⟨rfl⟩
  cases noArray

/-- What a search finds is really there once it is anchored. -/
theorem WellFormed.present_of_search (wellFormed : space.WellFormed)
    (searched : (space.search text).value = .ok report) (found : report.hit = some hit)
    (name : String) : Present (space.anchoring name (.array hit)) hit := by
  obtain ⟨schema, counted, accepted, counts, longest⟩ :=
    wellFormed.exists_counted searched found
  obtain ⟨-, -, -, -, referenced⟩ := longest.candidate
  have plain := Schema.plain_of_read accepted
  have run := counts.isRun plain hit.start
  rw [← longest.count_eq, ← longest.layout] at run
  rw [← longest.layout] at plain
  have retains : Retains space (space.anchoring name (.array hit)) :=
    (retains_observe space _).trans (retains_bind _ name _)
  refine
    { plain := plain
      lengthRule := longest.lengthRule
      one_le_count := longest.one_le_count
      inside := ?_
      fits := ?_
      ends := ?_
      referenced := ?_
      recorded := ?_ }
  · rw [retains.image]
    exact longest.inside
  · intro index before
    rw [retains.image, retains.codec]
    exact run.before before
  · rw [retains.image, retains.codec]
    exact run.here
  · by_contra none
    have empty := AddressSet.isEmpty_iff.2 (not_exists.1 none)
    rw [referenced] at empty
    cases empty
  · have asGiven : space.inheriting (.array hit) = .array hit :=
      wellFormed.inheriting_of_references (wellFormed.references_of_search searched found)
    have recorded := space.regionAt_anchoring name (.array hit) hit.start
    rw [asGiven] at recorded
    exact recorded.trans (if_pos rfl)

/-- What writing something that was found leaves: anchors that pass nothing on, the array
where it was found, and every array that was recorded. -/
structure Wrote (space : Space) (hit : ArrayRegion) (after : Space) : Prop where
  independent : after.Independent
  present : Present after hit
  keeps : KeepsEveryArray space after

/-- Something that was found is written at a place where no array was. -/
theorem Independent.wrote (independent : space.Independent)
    (searched : (space.search text).value = .ok report) (found : report.hit = some hit)
    (name : String) : Wrote space hit (space.writeAnchor name (.array hit)).space := by
  have wellFormed := independent.wellFormed
  have underived := wellFormed.underived_of_search searched found
  rw [(independent.writeAnchor name underived).2]
  refine ⟨independent.anchoring name underived,
    wellFormed.present_of_search searched found name, ?_⟩
  intro address array recorded
  rw [regionAt_anchoring]
  split
  · rename_i here
    rw [← here] at recorded
    exact absurd recorded (wellFormed.no_array_at_hit searched found)
  · exact recorded

/-- Every array is kept while searches are made. -/
theorem Searches.keepsEveryArray (made : Searches space searches last)
    (independent : space.Independent) : KeepsEveryArray space last := by
  induction made with
  | done => exact fun _ _ recorded => recorded
  | missed searched none _ inductionHypothesis => exact inductionHypothesis independent
  | @found space last sought report hit rest searched found _ inductionHypothesis =>
      have wrote := independent.wrote searched found sought.anchor
      intro address array recorded
      exact inductionHypothesis wrote.independent address array
        (wrote.keeps address array recorded)

/-- What searches find is really there when all of them have been made. -/
theorem Searches.present (made : Searches space searches last)
    (independent : space.Independent) {entry : String × ArrayRegion}
    (member : entry ∈ hitsOf searches) : Present last entry.2 := by
  induction made with
  | done => cases member
  | missed searched none _ inductionHypothesis =>
      rw [hitsOf_missed none] at member
      exact inductionHypothesis independent member
  | @found space last sought report hit rest searched found further inductionHypothesis =>
      have wrote := independent.wrote searched found sought.anchor
      rw [hitsOf_found found] at member
      rcases List.mem_cons.1 member with rfl | behind
      · exact wrote.present.kept (further.written wrote.independent).retains
          (further.keepsEveryArray wrote.independent)
      · exact inductionHypothesis wrote.independent behind

/-- Where something is found in searches, no array was recorded before. -/
theorem Searches.no_array_before (made : Searches space searches last)
    (independent : space.Independent) {entry : String × ArrayRegion}
    (member : entry ∈ hitsOf searches) :
    space.regionAt entry.2.start ≠ some (.array array) := by
  induction made with
  | done => cases member
  | missed searched none _ inductionHypothesis =>
      rw [hitsOf_missed none] at member
      exact inductionHypothesis independent member
  | @found space last sought report hit rest searched found _ inductionHypothesis =>
      have wrote := independent.wrote searched found sought.anchor
      rw [hitsOf_found found] at member
      rcases List.mem_cons.1 member with rfl | behind
      · exact independent.wellFormed.no_array_at_hit searched found
      · intro recorded
        exact inductionHypothesis wrote.independent behind (wrote.keeps _ _ recorded)

/-- No two searches find something at the same address. -/
theorem Searches.pairwise_starts (made : Searches space searches last)
    (independent : space.Independent) :
    (hitsOf searches).Pairwise fun first later => first.2.start ≠ later.2.start := by
  induction made with
  | done => exact .nil
  | missed searched none _ inductionHypothesis =>
      rw [hitsOf_missed none]
      exact inductionHypothesis independent
  | @found space last sought report hit rest searched found further inductionHypothesis =>
      have wrote := independent.wrote searched found sought.anchor
      rw [hitsOf_found found]
      refine .cons ?_ (inductionHypothesis wrote.independent)
      intro later member same
      have recorded := wrote.present.recorded
      rw [same] at recorded
      exact further.no_array_before wrote.independent member recorded

/-- Header fields are no arrays. -/
theorem array_notMem_headerEntries (space : Space) (fields : List HeaderField) :
    (name, .array array) ∉ space.headerEntries fields := by
  induction fields generalizing space with
  | nil => exact List.not_mem_nil
  | cons field rest inductionHypothesis =>
      intro member
      rcases List.mem_cons.1 member with same | behind
      · obtain ⟨backReferences, recorded⟩ := space.exists_inheriting_eq field.region
        rw [recorded] at same
        cases same
      · exact inductionHypothesis _ behind

end Space

open Space

namespace Discovery

variable {profile : Profile} {code : String} {space ended : Space} {found : Found}
  {searches : List (NameArray × SearchReport)} {state : DiscoveryState}

/-- At the end of a discovery every name leads to what was found under it, and nothing
else is named. -/
theorem Course.tells (course : Course profile code space searches found ended)
    (wellFormed : space.WellFormed) (empty : space.regions.isEmpty = true) :
    found.Tells ended := by
  have nothing : Found.Tells [] (space.addPointers (pointerSources profile code space)) := by
    intro name
    rw [resolve, wellFormed.anchors_addPointers, ← resolve]
    cases leads : space.resolve name with
    | none => rfl
    | some address =>
        have known := wellFormed.recorded leads
        rw [regionAt_of_isEmpty empty] at known
        cases known
  rw [course.found_eq]
  exact (course.written (.of_isEmpty wellFormed empty)).tells nothing

/-- The arrays among what was found were found in searches. -/
theorem Course.mem_hitsOf (course : Course profile code space searches found ended)
    {name : String} {array : ArrayRegion} (member : (name, .array array) ∈ found) :
    (name, array) ∈ hitsOf searches := by
  rw [course.found_eq] at member
  rcases Found.mem_of_mem_update member with nothing | written
  · cases nothing
  · rcases List.mem_append.1 written with header | hit
    · exact absurd header (array_notMem_headerEntries _ _)
    · obtain ⟨⟨other, found⟩, among, same⟩ := List.mem_map.1 hit
      cases same
      exact among

/-- The arrays among what was found are really there at the end. -/
theorem Course.present (course : Course profile code space searches found ended)
    (wellFormed : space.WellFormed) (empty : space.regions.isEmpty = true) {name : String}
    {array : ArrayRegion} (member : (name, .array array) ∈ found) : Present ended array := by
  have pointed := (Independent.of_isEmpty wellFormed empty).addPointers
    (pointerSources profile code space)
  exact course.made.present (pointed.withHeader _) (course.mem_hitsOf member)

/-- When a discovery for a supported game has a result in a reachable space without
regions, each name under which something was found leads to its start. Each array among
what was found is really there: it has as many elements as fit where it lies in the
image, something leads to it, and it is still recorded at the end. It is what one of the
searches found that were made for the arrays of the game, one after the other and each in
the space that the ones before it left, and no two of these found something at the same
address. -/
theorem run_found_present (reachable : Reachable anyOperation state.space)
    (empty : state.space.regions.isEmpty = true)
    (supported : code ∈ profile.supportedCodes)
    {ended : DiscoveryState} (ran : run profile code state = .ok found ended) :
    (∀ name region, (name, region) ∈ found →
      ended.space.resolve name = some region.start) ∧
    (∀ name array, (name, .array array) ∈ found → Present ended.space array) ∧
    ∃ searches, searches.map Prod.fst = profile.arraysFor code ∧
      Searches ((state.space.addPointers (pointerSources profile code state.space)).withHeader
        (profile.headerFor code)) searches ended.space ∧
      (∀ name array, (name, .array array) ∈ found → (name, array) ∈ hitsOf searches) ∧
      (hitsOf searches).Pairwise fun first later => first.2.start ≠ later.2.start := by
  have wellFormed := reachable.wellFormed
  obtain ⟨searches, course⟩ := exists_course_of_run supported wellFormed empty ran
  have onward := ((Independent.of_isEmpty wellFormed empty).addPointers
    (pointerSources profile code state.space)).withHeader (profile.headerFor code)
  refine ⟨?_, ?_, searches, course.arrays, course.made, ?_, ?_⟩
  · intro name region member
    have distinct : found.Distinct := by
      rw [course.found_eq]
      exact Found.Distinct.nil.update _
    rw [course.tells wellFormed empty name, distinct.get?_of_mem member]
    rfl
  · exact fun name array member => course.present wellFormed empty member
  · exact fun name array member => course.mem_hitsOf member
  · exact course.made.pairwise_starts onward

/-- The format of the names has a segment. -/
theorem titledLayout_ne_nil : ([⟨"n", .delimitedText, 2⟩] : Layout) ≠ [] :=
  List.cons_ne_nil _ _

/-- The names at 8. -/
def titledNames : ArrayRegion where
  start := 8
  schemaText := "[n\"\"2]2"
  layout := [⟨"n", .delimitedText, 2⟩]
  lengthRule := .fixed 2
  count := 2
  backReferences := .ofList [12]
  layout_ne_nil := titledLayout_ne_nil

/-- The only search finds the names behind the title. -/
theorem search_titled :
    (((titledState.space.addPointers
        (pointerSources titled "AAAA" titledState.space)).withHeader
          (titled.headerFor "AAAA")).search "[n\"\"2]").value =
      .ok { hit := some titledNames, progress := [(4, 0), (8, 2)] } := by
  have sources : pointerSources titled "AAAA" titledState.space = [0, 4, 12] := by
    decide +kernel
  rw [sources]
  cbv

/-- The names are found, are really there and lead to their start. -/
theorem run_titled_finds_names :
    ∃ found ended, run titled "AAAA" titledState = .ok found ended ∧
      ("names", .array titledNames) ∈ found ∧ ended.space.resolve "names" = some 8 ∧
      Present ended.space titledNames := by
  obtain ⟨reachable, empty, supported⟩ := titled_ready
  obtain ⟨found, ended, ran⟩ :=
    exists_run supported reachable.wellFormed empty ⟨_, rfl⟩ titled_accepts
  obtain ⟨leads, present, -⟩ := run_found_present reachable empty supported ran
  obtain ⟨searches, course⟩ :=
    exists_course_of_run supported reachable.wellFormed empty ran
  have listed : ("names", .array titledNames) ∈ found := by
    obtain ⟨⟨array, report⟩, rest, rfl, rfl, none⟩ := List.map_eq_cons_iff.1 course.arrays
    obtain rfl := List.map_eq_nil_iff.1 none
    have made := course.made
    rw [course.found_eq]
    cases made with
    | missed searched missing _ =>
        rw [search_titled] at searched
        cases searched
        cases missing
    | found searched hit _ =>
        rw [search_titled] at searched
        cases searched
        decide +kernel
  exact ⟨found, ended, ran, listed, leads _ _ listed, present _ _ listed⟩

end Discovery

end ImageAtlas
