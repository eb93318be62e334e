import ImageAtlas.Space.Length
import ImageAtlas.Space.Recording

/-!
# Anchoring

Binding a name to a region. Arrays whose length derives from the name are then
placed anew; an array whose count changed passes the change on to the arrays
that derive from one of its own names. Every name is followed at most once, so
cycles of derived lengths come to an end.

The work left to do is a list of tasks. Following a name means going through
the regions as they stood when it was taken up. Changes are passed on along
chains of any length: a bound on how deep calls may be nested is not modelled.
-/

namespace ImageAtlas

/-- A step of passing on a changed count: take up a name, or go through the
regions that remain for a name. -/
inductive FollowTask where
  | takeUp (anchor : String)
  | goThrough (anchor : String) (regions : List Region)

/-- The number of regions that a task has still to look at. -/
def FollowTask.remaining : FollowTask → Nat
  | takeUp _ => 0
  | goThrough _ regions => regions.length

/-- The number of regions that tasks have still to look at. -/
def FollowTask.workload : List FollowTask → Nat
  | [] => 0
  | task :: rest => task.remaining + workload rest

/-- Names to take up have no regions to look at yet. -/
theorem FollowTask.workload_takeUp (names : List String) (tasks : List FollowTask) :
    workload (names.map takeUp ++ tasks) = workload tasks := by
  induction names with
  | nil => rfl
  | cons name names inductionHypothesis => simp [workload, remaining, inductionHypothesis]

/-- Work shrinks when regions have been looked at, or when a task is done and
no region was added. -/
theorem FollowTask.fewer {regions tasks regionsBefore tasksBefore : Nat}
    (smaller : regions < regionsBefore ∨ regions = regionsBefore ∧ tasks < tasksBefore) :
    Prod.Lex (· < ·) (· < ·) (regions, tasks) (regionsBefore, tasksBefore) := by
  rcases smaller with fewerRegions | ⟨rfl, fewerTasks⟩
  · exact Prod.Lex.left _ _ fewerRegions
  · exact Prod.Lex.right _ fewerTasks

namespace Space

/-- An array that derives its length from the name. -/
def dependent? (anchor : String) : Region → Option ArrayRegion
  | .array region => if region.lengthRule = .derivedFromAnchor anchor then some region else none
  | .known _ => none

/-- Works off the tasks. The names in `untouched` have not been taken up yet. -/
def follow (space : Space) (untouched : List String) (tasks : List FollowTask) : Change Unit :=
  match tasks with
  | [] => { outcome := .ok (), space }
  | .takeUp anchor :: rest =>
      if anchor ∈ untouched then
        follow space (untouched.erase anchor) (.goThrough anchor space.regions.inOrder :: rest)
      else follow space untouched rest
  | .goThrough _ [] :: rest => follow space untouched rest
  | .goThrough anchor (region :: regions) :: rest =>
      let onward := FollowTask.goThrough anchor regions :: rest
      match dependent? anchor region with
      | none => follow space untouched onward
      | some array =>
          let placed := space.parseAt array.schemaText array.start (some array.backReferences)
          match placed.value with
          | .error (.schema (.malformed _)) =>
              let change := follow space untouched onward
              { change with notices := placed.notices ++ change.notices }
          | .error fault => { outcome := .error fault, space, notices := placed.notices }
          | .ok refreshed =>
              if refreshed.count = array.count then
                let change := follow space untouched onward
                { change with notices := placed.notices ++ change.notices }
              else
                let names := space.anchorsAt array.start
                let change :=
                  follow (space.store (.array refreshed)) untouched
                    (names.map FollowTask.takeUp ++ onward)
                let notice := Notice.countFollowed array.start refreshed.count anchor
                { change with notices := placed.notices ++ notice :: change.notices }
termination_by (untouched.length, FollowTask.workload tasks, tasks.length)
decreasing_by
  · apply Prod.Lex.left
    rename_i present
    rw [List.length_erase_of_mem present]
    have := List.length_pos_of_mem present
    omega
  all_goals
    refine Prod.Lex.right _ (FollowTask.fewer ?_)
    simp [FollowTask.workload, FollowTask.remaining, FollowTask.workload_takeUp]

/-- Records a region under a name and passes its count on. The outcome is the
region as recorded. -/
def writeAnchor (space : Space) (name : String) (region : Region) : Change Region :=
  let recorded := space.inheriting region
  let anchored := (space.observe region).bind name recorded.start
  let untouched := (anchored.anchors.map Prod.fst).filter (· ≠ name)
  let change := anchored.follow untouched [.goThrough name anchored.regions.inOrder]
  { outcome := change.outcome.map fun _ => recorded
    space := change.space
    notices := .anchorWritten name recorded.start recorded.kind :: change.notices }

end Space

end ImageAtlas
