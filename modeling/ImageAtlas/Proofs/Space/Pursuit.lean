import ImageAtlas.Proofs.Space.WellFormed

/-!
# Passing on a count, step by step

`Space.follow` works off a list of tasks. Here each of its moves is a step
between states of that work, labelled with the name that is taken up in it, if
any: taking up a name is the moment at which the arrays that derive from it are
looked for. `Space.follow_reaches` says that following is a run of these steps
to a state in which nothing more is done, and `Steps.perm_untouched` that a run
takes up each name at most once. Where no array derives its length from the written
name there is nothing to pass on (`WellFormed.writeAnchor_unfollowed`).
-/

namespace ImageAtlas

/-- Where the work of passing on a count stands. -/
structure Pursuit where
  space : Space
  untouched : List String
  tasks : List FollowTask

namespace Pursuit

/-- One move, and the name that is taken up in it. -/
inductive Step : Pursuit → Option String → Pursuit → Prop where
  | takeUp {space untouched anchor rest} (fresh : anchor ∈ untouched) :
      Step ⟨space, untouched, .takeUp anchor :: rest⟩ (some anchor)
        ⟨space, untouched.erase anchor, .goThrough anchor space.regions.inOrder :: rest⟩
  | discard {space untouched anchor rest} (stale : anchor ∉ untouched) :
      Step ⟨space, untouched, .takeUp anchor :: rest⟩ none ⟨space, untouched, rest⟩
  | finish {space untouched anchor rest} :
      Step ⟨space, untouched, .goThrough anchor [] :: rest⟩ none ⟨space, untouched, rest⟩
  | pass {space untouched anchor region regions rest}
      (independent : Space.dependent? anchor region = none) :
      Step ⟨space, untouched, .goThrough anchor (region :: regions) :: rest⟩ none
        ⟨space, untouched, .goThrough anchor regions :: rest⟩
  | leave {space untouched anchor region regions rest array malformation}
      (dependent : Space.dependent? anchor region = some array)
      (placed : (space.parseAt array.schemaText array.start (some array.backReferences)).value =
        .error (.schema (.malformed malformation))) :
      Step ⟨space, untouched, .goThrough anchor (region :: regions) :: rest⟩ none
        ⟨space, untouched, .goThrough anchor regions :: rest⟩
  | keep {space untouched anchor region regions rest array refreshed}
      (dependent : Space.dependent? anchor region = some array)
      (placed : (space.parseAt array.schemaText array.start (some array.backReferences)).value =
        .ok refreshed)
      (same : refreshed.count = array.count) :
      Step ⟨space, untouched, .goThrough anchor (region :: regions) :: rest⟩ none
        ⟨space, untouched, .goThrough anchor regions :: rest⟩
  | renew {space untouched anchor region regions rest array refreshed}
      (dependent : Space.dependent? anchor region = some array)
      (placed : (space.parseAt array.schemaText array.start (some array.backReferences)).value =
        .ok refreshed)
      (changed : refreshed.count ≠ array.count) :
      Step ⟨space, untouched, .goThrough anchor (region :: regions) :: rest⟩ none
        ⟨space.store (.array refreshed), untouched,
          (space.anchorsAt array.start).map .takeUp ++ .goThrough anchor regions :: rest⟩

/-- Any number of moves, and the names that are taken up in them. -/
inductive Steps : Pursuit → List String → Pursuit → Prop where
  | refl {pursuit} : Steps pursuit [] pursuit
  | step {pursuit name next names last} (first : Step pursuit name next)
      (further : Steps next names last) : Steps pursuit (name.toList ++ names) last

/-- The states in which nothing more is done, and how the work ends there. -/
inductive Ended : Pursuit → Except Fault Unit → Prop where
  | done {space untouched} : Ended ⟨space, untouched, []⟩ (.ok ())
  | fault {space untouched anchor region regions rest array fault}
      (dependent : Space.dependent? anchor region = some array)
      (placed : (space.parseAt array.schemaText array.start (some array.backReferences)).value =
        .error fault)
      (grave : ∀ malformation, fault ≠ .schema (.malformed malformation)) :
      Ended ⟨space, untouched, .goThrough anchor (region :: regions) :: rest⟩ (.error fault)

/-- A move leaves the names that it does not take up. -/
theorem Step.perm_untouched {pursuit next : Pursuit} {name : Option String}
    (move : Step pursuit name next) :
    pursuit.untouched.Perm (name.toList ++ next.untouched) := by
  cases move with
  | takeUp fresh => exact List.perm_cons_erase fresh
  | discard | finish | pass | leave | keep | renew => exact List.Perm.refl _

/-- The names that were untouched are those taken up and those left. -/
theorem Steps.perm_untouched {pursuit last : Pursuit} {names : List String}
    (moves : Steps pursuit names last) :
    pursuit.untouched.Perm (names ++ last.untouched) := by
  induction moves with
  | refl => exact List.Perm.refl _
  | step first further inductionHypothesis =>
      rw [List.append_assoc]
      exact first.perm_untouched.trans (inductionHypothesis.append_left _)

/-- What every move preserves holds at the end of a run if it held before. -/
theorem Steps.preserve (property : Pursuit → Prop)
    (preserved : ∀ {pursuit name next}, Step pursuit name next → property pursuit →
      property next)
    {pursuit last : Pursuit} {names : List String} (moves : Steps pursuit names last)
    (holds : property pursuit) : property last := by
  induction moves with
  | refl => exact holds
  | step first further inductionHypothesis =>
      exact inductionHypothesis (preserved first holds)

end Pursuit

open Pursuit

/-- Following is a run of moves to an ending. -/
theorem Space.follow_reaches (space : Space) (untouched : List String)
    (tasks : List FollowTask) :
    ∃ names last, Steps ⟨space, untouched, tasks⟩ names last ∧
      last.space = (space.follow untouched tasks).space ∧
      Ended last (space.follow untouched tasks).outcome := by
  fun_induction Space.follow space untouched tasks with
  | case1 space untouched => exact ⟨[], _, .refl, rfl, .done⟩
  | case2 space untouched anchor rest fresh inductionHypothesis =>
      obtain ⟨names, last, moves, reached, ended⟩ := inductionHypothesis
      exact ⟨_, last, .step (.takeUp fresh) moves, reached, ended⟩
  | case3 space untouched anchor rest stale inductionHypothesis =>
      obtain ⟨names, last, moves, reached, ended⟩ := inductionHypothesis
      exact ⟨_, last, .step (.discard stale) moves, reached, ended⟩
  | case4 space untouched anchor rest inductionHypothesis =>
      obtain ⟨names, last, moves, reached, ended⟩ := inductionHypothesis
      exact ⟨_, last, .step .finish moves, reached, ended⟩
  | case5 space untouched anchor region regions rest onward independent inductionHypothesis =>
      obtain ⟨names, last, moves, reached, ended⟩ := inductionHypothesis
      exact ⟨_, last, .step (.pass independent) moves, reached, ended⟩
  | case6 space untouched anchor region regions rest onward array dependent placed malformation
      malformed change inductionHypothesis =>
      obtain ⟨names, last, moves, reached, ended⟩ := inductionHypothesis
      exact ⟨_, last, .step (.leave dependent malformed) moves, reached, ended⟩
  | case7 space untouched anchor region regions rest array dependent placed fault grave failed =>
      exact ⟨[], _, .refl, rfl, .fault dependent failed grave⟩
  | case8 space untouched anchor region regions rest onward array dependent placed refreshed
      succeeded same change inductionHypothesis =>
      obtain ⟨names, last, moves, reached, ended⟩ := inductionHypothesis
      exact ⟨_, last, .step (.keep dependent succeeded same) moves, reached, ended⟩
  | case9 space untouched anchor region regions rest onward array dependent placed refreshed
      succeeded changed names change notice inductionHypothesis =>
      obtain ⟨names, last, moves, reached, ended⟩ := inductionHypothesis
      exact ⟨_, last, .step (.renew dependent succeeded changed) moves, reached, ended⟩

/-- The work that begins when a region is anchored under a name: the regions are
gone through for that name, all others are untouched. -/
def Pursuit.ofAnchor (space : Space) (name : String) (region : Region) : Pursuit where
  space := space.anchoring name region
  untouched := ((space.anchoring name region).anchors.map Prod.fst).filter (· ≠ name)
  tasks := [.goThrough name (space.anchoring name region).regions.inOrder]

/-- Writing an anchor is a run of moves to an ending. -/
theorem Space.writeAnchor_reaches (space : Space) (name : String) (region : Region) :
    ∃ names last outcome, Steps (.ofAnchor space name region) names last ∧
      last.space = (space.writeAnchor name region).space ∧ Ended last outcome ∧
      (space.writeAnchor name region).outcome = outcome.map fun _ => space.inheriting region := by
  obtain ⟨names, last, moves, reached, ended⟩ := (space.anchoring name region).follow_reaches
    (Pursuit.ofAnchor space name region).untouched (Pursuit.ofAnchor space name region).tasks
  refine ⟨names, last, _, moves, ?_, ended, ?_⟩
  · rw [reached]
    simp only [writeAnchor, start_inheriting, Space.anchoring, Pursuit.ofAnchor]
  · simp only [writeAnchor, start_inheriting, Space.anchoring, Pursuit.ofAnchor]

/-- No name is taken up twice when an anchor has been written, nor is the
written one taken up again. -/
theorem Pursuit.Steps.nodup_ofAnchor {space : Space} {name : String} {region : Region}
    {names : List String} {last : Pursuit} (wellFormed : space.WellFormed)
    (moves : Steps (.ofAnchor space name region) names last) : (name :: names).Nodup := by
  have distinct := (wellFormed.anchoring name region).names_nodup
  have untouched : (Pursuit.ofAnchor space name region).untouched.Nodup := distinct.filter _
  have split := moves.perm_untouched
  rw [split.nodup_iff, List.nodup_append] at untouched
  refine List.nodup_cons.2 ⟨?_, untouched.1⟩
  intro again
  have member := split.mem_iff.2 (List.mem_append_left _ again)
  simp [Pursuit.ofAnchor] at member

namespace Space

variable {space : Space} {name : String} {region : Region}

/-- No recorded array derives its length from a name. -/
def Unfollowed (space : Space) (name : String) : Prop :=
  ∀ address array, space.regionAt address = some (.array array) →
    array.lengthRule ≠ .derivedFromAnchor name

/-- Going through regions none of which depends on the name changes nothing. -/
theorem follow_independent (space : Space) (untouched : List String) {regions : List Region}
    (independent : ∀ region ∈ regions, dependent? name region = none) :
    space.follow untouched [.goThrough name regions] = { outcome := .ok (), space } := by
  induction regions with
  | nil => rw [follow, follow]
  | cons region regions inductionHypothesis =>
      rw [follow]
      simp only [independent region List.mem_cons_self]
      exact inductionHypothesis fun other member =>
        independent other (List.mem_cons_of_mem _ member)

/-- A name that no recorded array follows is followed by none either once a region has
been anchored that does not follow it itself. -/
theorem Unfollowed.anchoring {followed : String} (unfollowed : space.Unfollowed followed)
    (independent : ∀ array, region = .array array →
      array.lengthRule ≠ .derivedFromAnchor followed) :
    (space.anchoring name region).Unfollowed followed := by
  intro address array found
  rw [regionAt_anchoring] at found
  split at found
  · obtain ⟨backReferences, recorded⟩ := space.exists_inheriting_eq region
    rw [recorded, Option.some.injEq] at found
    cases region with
    | known known => cases found
    | array given =>
        cases found
        exact independent given rfl
  · exact unfollowed address array found

/-- Under a name that no array follows, a region is anchored and nothing is passed on. -/
theorem WellFormed.writeAnchor_unfollowed (wellFormed : space.WellFormed)
    (unfollowed : space.Unfollowed name)
    (independent : ∀ array, region = .array array →
      array.lengthRule ≠ .derivedFromAnchor name) :
    (space.writeAnchor name region).outcome = .ok (space.inheriting region) ∧
      (space.writeAnchor name region).space = space.anchoring name region := by
  have anchored := wellFormed.anchoring name region
  have none : ∀ other ∈ (space.anchoring name region).regions.inOrder,
      dependent? name other = none := by
    intro other listed
    have found := anchored.regions.mem_inOrder.1 listed
    cases other with
    | known known => rfl
    | array array => exact if_neg (unfollowed.anchoring independent _ array found)
  have followed := (space.anchoring name region).follow_independent
    (((space.anchoring name region).anchors.map Prod.fst).filter (· ≠ name)) none
  rw [Space.anchoring] at followed ⊢
  simp only [writeAnchor, start_inheriting, followed]
  exact ⟨rfl, trivial⟩

end Space

end ImageAtlas
