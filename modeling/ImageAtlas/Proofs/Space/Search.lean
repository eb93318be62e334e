import ImageAtlas.Proofs.Element
import ImageAtlas.Proofs.Schema.Reading
import ImageAtlas.Proofs.Space.Walk

/-!
# What a search finds

A search counts how many elements follow one another at each candidate and keeps
the longest run, the earliest of several. `LongestOf` says which run that is;
`longestOf_longestRun` says that going through the runs finds it. The layout of a
schema that was read is plain, so that every run comes to an end, and candidates
are met in ascending order, so that the first of the longest runs is the one with
the least start.
-/

namespace ImageAtlas

/-- The layout of a schema that was read is plain. -/
theorem Schema.plain_of_read {text : String} {schema : Schema}
    (accepted : read text = .ok schema) : schema.layout.Plain where
  ne_nil := schema.layout_ne_nil
  kind segment member := (segments_of_read accepted segment member).1
  one_le_length segment member := (segments_of_read accepted segment member).2

/-- The first of the longest runs in a list, none if no run has elements. -/
inductive LongestOf (runs : List (Region × Nat)) : Option (Region × Nat) → Prop where
  | none (empty : ∀ run ∈ runs, run.2 = 0) : LongestOf runs none
  | some {before after : List (Region × Nat)} {run : Region × Nat}
      (split : runs = before ++ run :: after) (one_le : 1 ≤ run.2)
      (shorter : ∀ earlier ∈ before, earlier.2 < run.2)
      (notLonger : ∀ later ∈ after, later.2 ≤ run.2) : LongestOf runs (some run)

/-- With one run more, the longest is that one if it is longer than all before it. -/
theorem LongestOf.append_singleton {runs : List (Region × Nat)} {best : Option (Region × Nat)}
    (longest : LongestOf runs best) (run : Region × Nat) :
    LongestOf (runs ++ [run]) (longerRun best run) := by
  cases longest with
  | none empty =>
      simp only [longerRun]
      split
      · rename_i some
        refine .some rfl some ?_ (List.forall_mem_nil _)
        intro earlier member
        rw [empty earlier member]
        exact some
      · rename_i none
        refine .none (List.forall_mem_append.2 ⟨empty, List.forall_mem_singleton.2 ?_⟩)
        omega
  | @some before after first split one_le shorter notLonger =>
      have upTo : ∀ other ∈ runs, other.2 ≤ first.2 := by
        rw [split]
        refine List.forall_mem_append.2 ⟨?_, List.forall_mem_cons.2 ⟨Nat.le_refl _, notLonger⟩⟩
        exact fun earlier member => Nat.le_of_lt (shorter earlier member)
      simp only [longerRun]
      split
      · rename_i longer
        refine .some rfl (by omega) ?_ (List.forall_mem_nil _)
        intro earlier member
        have known := upTo earlier member
        omega
      · -- An equally long run does not take the place of an earlier one.
        rename_i notLongerNow
        have whole : runs ++ [run] = before ++ first :: (after ++ [run]) := by
          rw [split, List.append_assoc, List.cons_append]
        refine .some whole one_le shorter ?_
        exact List.forall_mem_append.2
          ⟨notLonger, List.forall_mem_singleton.2 (Nat.not_lt.1 notLongerNow)⟩

/-- There is no longest run exactly if no run has elements. -/
theorem LongestOf.eq_none_iff {runs : List (Region × Nat)} {best : Option (Region × Nat)}
    (longest : LongestOf runs best) : best = Option.none ↔ ∀ run ∈ runs, run.2 = 0 := by
  cases longest with
  | none empty => exact iff_of_true rfl empty
  | @some before after run split one_le _ _ =>
      refine iff_of_false (Option.some_ne_none run) fun empty => ?_
      have zero : run.2 = 0 := by
        apply empty
        rw [split]
        exact List.mem_append_right _ List.mem_cons_self
      omega

/-- Going through runs finds the first of the longest. -/
theorem longestOf_longestRun (runs : List (Region × Nat)) :
    LongestOf runs (longestRun runs) := by
  induction runs using List.reverseRecOn with
  | nil => exact .none (List.forall_mem_nil _)
  | append_singleton runs run inductionHypothesis =>
      rw [longestRun, List.foldl_append]
      exact inductionHypothesis.append_singleton run

/-- A walk keeps some of the regions it goes over, in their order. -/
theorem walkCandidates_sublist (floor : Int) (regions : List Region) :
    (walkCandidates floor regions).Sublist regions := by
  induction regions generalizing floor with
  | nil => exact .refl _
  | cons region rest inductionHypothesis =>
      rw [walkCandidates]
      split
      · exact (inductionHypothesis floor).cons region
      · split
        · exact (inductionHypothesis _).cons_cons region
        · exact (inductionHypothesis _).cons region

namespace Space

variable {space : Space} {text : String} {schema : Schema} {counted : Int → Nat}

/-- Candidates are met in ascending order. -/
theorem WellFormed.pairwise_candidates (wellFormed : space.WellFormed) :
    space.candidates.Pairwise fun region other => region.start < other.start :=
  wellFormed.pairwise_ascending.sublist (walkCandidates_sublist 0 space.ascending)

/-- The number of elements that follow one another from each address on. -/
def Counts (space : Space) (layout : Layout) (counted : Int → Nat) : Prop :=
  ∀ address, layout.count space.codec space.image address none = .ok (counted address)

/-- Elements of a plain layout are counted everywhere. -/
theorem exists_counts {layout : Layout} (plain : layout.Plain) (space : Space) :
    ∃ counted, space.Counts layout counted := by
  choose counted run found using plain.exists_isRun space.codec space.image
  exact ⟨counted, found⟩

/-- A candidate with the number of elements that follow one another there. -/
def runAt (counted : Int → Nat) (candidate : Region) : Region × Nat :=
  (candidate, counted candidate.start)

/-- All candidates are counted. -/
theorem Counts.candidateRuns_eq {layout : Layout} (counts : space.Counts layout counted) :
    space.candidateRuns layout = .ok (space.candidates.map (runAt counted)) := by
  rw [candidateRuns]
  induction space.candidates with
  | nil => rfl
  | cons candidate rest inductionHypothesis =>
      rw [List.mapM_cons, inductionHypothesis, counts candidate.start]
      rfl

/-- What a search of a schema finds, by the longest run. -/
theorem Counts.search_eq (counts : space.Counts schema.layout counted)
    (accepted : Schema.read text = .ok schema) :
    (space.search text).value = .ok
      { hit := (longestRun (space.candidates.map (runAt counted))).map fun run =>
          placement schema run.1 run.2
        progress := space.candidates.map fun candidate =>
          (candidate.start, counted candidate.start) } := by
  have progress : (space.candidates.map (runAt counted)).map (fun run => (run.1.start, run.2)) =
      space.candidates.map fun candidate => (candidate.start, counted candidate.start) := by
    rw [List.map_map]
    rfl
  simp only [search, accepted, counts.candidateRuns_eq, progress]
  cases longestRun (space.candidates.map (runAt counted)) <;> rfl

/-- An array is placed at the first of the candidates with the greatest count, and
is made up of the elements counted there. -/
structure EarliestLongest (space : Space) (schema : Schema) (counted : Int → Nat)
    (hit : ArrayRegion) : Prop where
  candidate : ∃ candidate ∈ space.candidates, candidate.start = hit.start ∧
    candidate.backReferences = hit.backReferences ∧ hit.backReferences.isEmpty = false
  count_eq : hit.count = counted hit.start
  one_le_count : 1 ≤ hit.count
  longest : ∀ other ∈ space.candidates, counted other.start ≤ hit.count
  earliest : ∀ other ∈ space.candidates, counted other.start = hit.count →
    hit.start ≤ other.start
  lengthRule : hit.lengthRule = .fixed hit.count
  layout : hit.layout = schema.layout
  schemaText : hit.schemaText = Schema.withSuffix schema.text (Text.decimal hit.count)
  inside : 0 ≤ hit.start ∧ hit.stop ≤ space.image.size

/-- What is counted at an address is the run there. -/
theorem Counts.isRun {layout : Layout} (counts : space.Counts layout counted)
    (plain : layout.Plain) (address : Int) :
    layout.IsRun space.codec space.image address (counted address) := by
  obtain ⟨count, run, found⟩ := plain.exists_isRun space.codec space.image address
  rw [counts address] at found
  cases found
  exact run

/-- The first of the longest runs at the candidates is where an array is placed. -/
theorem WellFormed.earliestLongest (wellFormed : space.WellFormed)
    (counts : space.Counts schema.layout counted) (plain : schema.layout.Plain)
    {run : Region × Nat}
    (longest : LongestOf (space.candidates.map (runAt counted)) (some run)) :
    space.EarliestLongest schema counted (placement schema run.1 run.2) := by
  cases longest with
  | @some runsBefore runsAfter _ split one_le shorter notLonger =>
      obtain ⟨before, others, candidates, rfl, behind⟩ := List.map_eq_append_iff.1 split
      obtain ⟨candidate, after, rfl, rfl, rfl⟩ := List.map_eq_cons_iff.1 behind
      have member : candidate ∈ space.candidates := by
        rw [candidates]
        exact List.mem_append_right _ List.mem_cons_self
      obtain ⟨-, -, pointedTo⟩ := wellFormed.mem_candidates_iff.1 member
      have ordered := wellFormed.pairwise_candidates
      rw [candidates, List.pairwise_append, List.pairwise_cons] at ordered
      refine
        { candidate := ⟨candidate, member, rfl, rfl, pointedTo⟩
          count_eq := rfl
          one_le_count := one_le
          longest := ?_
          earliest := ?_
          lengthRule := rfl
          layout := rfl
          schemaText := rfl
          inside := plain.inside_of_isRun (counts.isRun plain candidate.start) one_le }
      · rw [candidates]
        refine List.forall_mem_append.2 ⟨?_, List.forall_mem_cons.2 ⟨Nat.le_refl _, ?_⟩⟩
        · exact fun other earlier => Nat.le_of_lt (shorter _ (List.mem_map_of_mem earlier))
        · exact fun other later => notLonger _ (List.mem_map_of_mem later)
      · rw [candidates]
        refine List.forall_mem_append.2 ⟨?_, List.forall_mem_cons.2 ⟨fun _ => Int.le_refl _, ?_⟩⟩
        · intro other earlier same
          exact absurd same (Nat.ne_of_lt (shorter _ (List.mem_map_of_mem earlier)))
        · intro other later _
          exact Int.le_of_lt (ordered.2.1.1 other later)

/-- In every reachable space, a search of a malformed text finds nothing. Any other
text that is read has its elements counted at each candidate, in ascending order.
Nothing is found exactly if nothing fits at any of them, and what is found lies at
the first of the candidates with the greatest count. Texts that state the same
element find the same, whatever length they state. -/
theorem Reachable.search_finds_earliest_longest (reachable : Reachable anyOperation space)
    (text : String) :
    (∀ malformation, Schema.read text = .error (.malformed malformation) →
      (space.search text).value = .ok { hit := none }) ∧
    ∀ schema, Schema.read text = .ok schema →
      ∃ counted, space.Counts schema.layout counted ∧
        ∃ report, (space.search text).value = .ok report ∧
          (report.progress = space.candidates.map (fun candidate =>
              (candidate.start, counted candidate.start)) ∧
            (report.progress.map Prod.fst).Pairwise (· < ·)) ∧
          (report.hit = none ↔ ∀ candidate ∈ space.candidates, counted candidate.start = 0) ∧
          (∀ hit, report.hit = some hit → space.EarliestLongest schema counted hit) ∧
          ∀ otherText other, Schema.read otherText = .ok other → other.layout = schema.layout →
            ∃ otherReport, (space.search otherText).value = .ok otherReport ∧
              otherReport.progress = report.progress ∧
              otherReport.hit.map (fun hit => { hit with schemaText := text }) =
                report.hit.map fun hit => { hit with schemaText := text } := by
  have wellFormed := reachable.wellFormed
  constructor
  · intro malformation malformed
    simp only [search, malformed, Noted.value_note]
  · intro schema accepted
    have plain := Schema.plain_of_read accepted
    obtain ⟨counted, counts⟩ := exists_counts plain space
    have longest := longestOf_longestRun (space.candidates.map (runAt counted))
    refine ⟨counted, counts, _, counts.search_eq accepted, ⟨rfl, ?_⟩, ?_, ?_, ?_⟩
    · rw [List.map_map, List.pairwise_map]
      exact wellFormed.pairwise_candidates
    · rw [Option.map_eq_none_iff, longest.eq_none_iff, List.forall_mem_map]
      rfl
    · intro hit found
      obtain ⟨run, chosen, rfl⟩ := Option.map_eq_some_iff.1 found
      rw [chosen] at longest
      exact wellFormed.earliestLongest counts plain longest
    · intro otherText other otherAccepted same
      have otherCounts : space.Counts other.layout counted := same ▸ counts
      refine ⟨_, otherCounts.search_eq otherAccepted, rfl, ?_⟩
      rw [Option.map_map, Option.map_map]
      refine Option.map_congr fun run _ => ?_
      simp only [Function.comp_apply, placement, same]

/-- Texts of two bytes: one at address zero, two at 3 and two at 8, with a stray byte
behind each of the first two rows. A pointer leads to every row. -/
def rows : Space :=
  ((({ image := #[65, 0xFF, 5, 66, 0xFF, 67, 0xFF, 5, 68, 0xFF, 69, 0xFF] } : Space).after
    (.observe (pointed 8))).after (.observe (pointed 3))).after (.observe (pointed 0))

/-- Of the two rows that are equally long, the earlier one is found. -/
theorem search_rows_finds_earlier :
    Reachable anyOperation rows ∧
      ∃ report hit, (rows.search "[n\"\"2]").value = .ok report ∧
        report.progress = [(0, 1), (3, 2), (8, 2)] ∧ report.hit = some hit ∧
        hit.start = 3 ∧ hit.count = 2 := by
  have reachable : Reachable anyOperation rows :=
    .step (.step (.step (.initial _ .ascii {}) trivial) trivial) trivial
  have candidates : rows.candidates = [pointed 0, pointed 3, pointed 8] := by
    cbv
  have accepted : Schema.read "[n\"\"2]" =
      .ok ⟨[⟨"n", .delimitedText, 2⟩], .impliedByNextRun, "[n\"\"2]", by decide⟩ := by
    cbv
  obtain ⟨-, found⟩ := reachable.search_finds_earliest_longest "[n\"\"2]"
  obtain ⟨counted, counts, report, result, ⟨progress, -⟩, none_iff, placed, -⟩ :=
    found _ accepted
  have number : ∀ {address count}, Layout.count [⟨"n", .delimitedText, 2⟩] rows.codec
      rows.image address none = .ok count → counted address = count := by
    intro address count run
    exact Except.ok.inj ((counts address).symm.trans run)
  have first : counted 0 = 1 := number (by decide +kernel)
  have second : counted 3 = 2 := number (by decide +kernel)
  have third : counted 8 = 2 := number (by decide +kernel)
  have middle : pointed 3 ∈ rows.candidates := by
    rw [candidates]
    exact List.mem_cons_of_mem _ List.mem_cons_self
  obtain ⟨hit, chosen⟩ : ∃ hit, report.hit = some hit := by
    refine Option.ne_none_iff_exists'.1 fun none => ?_
    have empty := none_iff.1 none _ middle
    exact absurd (second.symm.trans empty) (by decide)
  obtain ⟨⟨candidate, member, start, -⟩, count_eq, -, longest, earliest, -⟩ := placed hit chosen
  have two_le : counted 3 ≤ hit.count := longest _ middle
  have upTo : counted 3 = hit.count → hit.start ≤ 3 := earliest _ middle
  have starts : hit.start = 0 ∨ hit.start = 3 ∨ hit.start = 8 := by
    rw [candidates] at member
    rw [← start]
    simp only [List.mem_cons, List.not_mem_nil, or_false] at member
    rcases member with rfl | rfl | rfl
    · exact .inl rfl
    · exact .inr (.inl rfl)
    · exact .inr (.inr rfl)
  have least : hit.start = 3 := by
    rcases starts with here | here | here
    · rw [here, first] at count_eq
      omega
    · exact here
    · rw [here, third] at count_eq
      omega
  rw [least, second] at count_eq
  rw [candidates] at progress
  simp only [List.map_cons, List.map_nil, pointed, Region.start, first, second, third] at progress
  exact ⟨reachable, report, hit, result, progress, chosen, least, count_eq⟩

end Space

end ImageAtlas
