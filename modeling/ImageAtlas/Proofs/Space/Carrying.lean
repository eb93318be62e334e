import ImageAtlas.Proofs.Space.Propagation

/-!
# On the way of a count

`Carrying` is what holds at every step while a count is passed on: each region
is as it was or was brought to that count, each name taken up is affected and
leads to that count, and what has still to be brought to it or to be taken up
stands in the tasks. There is one lemma for each move that changes something;
`Carrying.preserved` joins them. An array is looked at in the version that was
recorded when its name was taken up, and by then another one may be recorded.
That version and the present one are both related to the one before by
`Brought`, which is why nothing is overwritten with something older.
-/

namespace ImageAtlas

/-- The name that a task is about. -/
def FollowTask.anchor : FollowTask → String
  | takeUp anchor => anchor
  | goThrough anchor _ => anchor

namespace Pursuit

/-- A bound name that is no longer untouched. -/
def TakenUp (pursuit : Pursuit) (anchor : String) : Prop :=
  anchor ∈ pursuit.space.anchors.map Prod.fst ∧ anchor ∉ pursuit.untouched

/-- What holds while the count of a region anchored under a name is passed on. -/
structure Carrying (space : Space) (name : String) (region : Region) (pursuit : Pursuit) :
    Prop where
  wellFormed : pursuit.space.WellFormed
  anchors : pursuit.space.anchors = (space.anchoring name region).anchors
  nodup : pursuit.untouched.Nodup
  kept : ∀ address, (pursuit.space.regionAt address).isSome =
    ((space.anchoring name region).regionAt address).isSome
  brought : ∀ {address old new}, (space.anchoring name region).regionAt address = some old →
    pursuit.space.regionAt address = some new → Space.Brought space name region old new
  written : pursuit.TakenUp name
  takenUp : ∀ {anchor}, pursuit.TakenUp anchor → Space.Affected space name region anchor
  pending : ∀ {task}, task ∈ pursuit.tasks →
    Space.Affected space name region task.anchor ∧
      pursuit.space.countUnder task.anchor = region.carriedCount
  seen : ∀ {anchor regions version}, .goThrough anchor regions ∈ pursuit.tasks →
    version ∈ regions →
      ∃ old new, (space.anchoring name region).regionAt version.start = some old ∧
        pursuit.space.regionAt version.start = some new ∧
        Space.Brought space name region old version ∧ Space.Brought space name region version new
  dependants : ∀ {anchor array}, pursuit.TakenUp anchor →
    (space.anchoring name region).regionAt array.start = some (.array array) →
    array.lengthRule = .derivedFromAnchor anchor →
      pursuit.space.countAt array.start = region.carriedCount ∨
        ∃ regions, .goThrough anchor regions ∈ pursuit.tasks ∧
          ∃ version ∈ regions, version.start = array.start
  names : ∀ {array other},
    (space.anchoring name region).regionAt array.start = some (.array array) →
    pursuit.space.regionAt array.start ≠ some (.array array) →
    pursuit.space.resolve other = some array.start →
      pursuit.TakenUp other ∨ .takeUp other ∈ pursuit.tasks

namespace Carrying

variable {space current : Space} {name anchor : String} {region candidate : Region}
  {untouched : List String} {regions : List Region} {rest : List FollowTask}
  {array refreshed : ArrayRegion}

/-- A name that leads somewhere is taken up unless it is untouched. -/
theorem takenUp_of_resolve {other : String} {address : Int}
    (leads : current.resolve other = some address) (stale : other ∉ untouched) :
    TakenUp ⟨current, untouched, rest⟩ other :=
  ⟨Space.mem_names_of_resolve leads, stale⟩

/-- While the count is passed on, names lead where they do when the written one is
bound. -/
theorem resolve_eq {tasks : List FollowTask}
    (carrying : Carrying space name region ⟨current, untouched, tasks⟩) (other : String) :
    current.resolve other = (space.bind name region.start).resolve other := by
  have bound : current.anchors = (space.bind name region.start).anchors :=
    carrying.anchors.trans (space.anchors_anchoring name region)
  rw [Space.resolve, Space.resolve, bound]

/-- A region that was recorded is still there or was brought to the count. -/
theorem exists_present {tasks : List FollowTask}
    (carrying : Carrying space name region ⟨current, untouched, tasks⟩) {address : Int}
    {old : Region} (before : (space.anchoring name region).regionAt address = some old) :
    ∃ new, current.regionAt address = some new ∧ Space.Brought space name region old new := by
  have known := carrying.kept address
  rw [before] at known
  obtain ⟨new, present⟩ := Option.isSome_iff_exists.1 known
  exact ⟨new, present, carrying.brought before present⟩

/-- The regions that are recorded can all be gone through. -/
theorem seen_inOrder {tasks : List FollowTask}
    (carrying : Carrying space name region ⟨current, untouched, tasks⟩) {version : Region}
    (listed : version ∈ current.regions.inOrder) :
    ∃ old new, (space.anchoring name region).regionAt version.start = some old ∧
      current.regionAt version.start = some new ∧
      Space.Brought space name region old version ∧
      Space.Brought space name region version new := by
  have present := carrying.wellFormed.regions.mem_inOrder.1 listed
  have known := carrying.kept version.start
  rw [show current.regionAt version.start = some version from present] at known
  obtain ⟨old, before⟩ := Option.isSome_iff_exists.1 known.symm
  exact ⟨old, version, before, present, carrying.brought before present, .same⟩

/-- Taking up a name that is due. -/
theorem takeUp (carrying : Carrying space name region
      ⟨current, untouched, .takeUp anchor :: rest⟩) (fresh : anchor ∈ untouched) :
    Carrying space name region
      ⟨current, untouched.erase anchor, .goThrough anchor current.regions.inOrder :: rest⟩ where
  wellFormed := carrying.wellFormed
  anchors := carrying.anchors
  nodup := carrying.nodup.erase anchor
  kept := carrying.kept
  brought := carrying.brought
  written := ⟨carrying.written.1, fun member => carrying.written.2 (List.mem_of_mem_erase member)⟩
  takenUp := by
    rintro other ⟨bound, stale⟩
    by_cases same : other = anchor
    · subst same
      exact (carrying.pending List.mem_cons_self).1
    · have untaken : other ∉ untouched := fun member =>
        stale ((List.mem_erase_of_ne same).2 member)
      exact carrying.takenUp ⟨bound, untaken⟩
  pending := by
    intro task member
    rcases List.mem_cons.1 member with rfl | later
    · have due := carrying.pending (List.mem_cons_self (a := FollowTask.takeUp anchor))
      exact due
    · exact carrying.pending (List.mem_cons_of_mem _ later)
  seen := by
    intro other others version member listed
    rcases List.mem_cons.1 member with same | later
    · cases same
      exact carrying.seen_inOrder listed
    · exact carrying.seen (List.mem_cons_of_mem _ later) listed
  dependants := by
    rintro other array ⟨bound, stale⟩ before derived
    by_cases same : other = anchor
    · subst same
      obtain ⟨new, present, -⟩ := carrying.exists_present before
      have start := carrying.wellFormed.start_eq present
      refine .inr ⟨_, List.mem_cons_self, new, ?_, start⟩
      rw [carrying.wellFormed.regions.mem_inOrder, start]
      exact present
    · have untaken : other ∉ untouched := fun member =>
        stale ((List.mem_erase_of_ne same).2 member)
      rcases carrying.dependants ⟨bound, untaken⟩ before derived with done | ⟨others, member, due⟩
      · exact .inl done
      · rcases List.mem_cons.1 member with same | later
        · cases same
        · exact .inr ⟨others, List.mem_cons_of_mem _ later, due⟩
  names := by
    intro array other before changed leads
    rcases carrying.names before changed leads with ⟨bound, stale⟩ | due
    · exact .inl ⟨bound, fun member => stale (List.mem_of_mem_erase member)⟩
    · rcases List.mem_cons.1 due with same | later
      · cases same
        exact .inl (takenUp_of_resolve leads carrying.nodup.not_mem_erase)
      · exact .inr (List.mem_cons_of_mem _ later)

/-- Other tasks will do as long as they ask for nothing new and leave out nothing
that is still due. -/
theorem retask {tasks remaining : List FollowTask}
    (carrying : Carrying space name region ⟨current, untouched, tasks⟩)
    (asked : ∀ {task}, task ∈ remaining → ∃ former ∈ tasks, former.anchor = task.anchor)
    (listed : ∀ {anchor regions version}, .goThrough anchor regions ∈ remaining →
      version ∈ regions → ∃ former, .goThrough anchor former ∈ tasks ∧ version ∈ former)
    (visited : ∀ {anchor regions version array}, .goThrough anchor regions ∈ tasks →
      version ∈ regions → version.start = array.start →
      (space.anchoring name region).regionAt array.start = some (.array array) →
      array.lengthRule = .derivedFromAnchor anchor →
        current.countAt array.start = region.carriedCount ∨
          ∃ regions, .goThrough anchor regions ∈ remaining ∧
            ∃ version ∈ regions, version.start = array.start)
    (named : ∀ {other}, .takeUp other ∈ tasks → other ∉ untouched ∨ .takeUp other ∈ remaining) :
    Carrying space name region ⟨current, untouched, remaining⟩ where
  wellFormed := carrying.wellFormed
  anchors := carrying.anchors
  nodup := carrying.nodup
  kept := carrying.kept
  brought := carrying.brought
  written := carrying.written
  takenUp := carrying.takenUp
  pending := by
    intro task member
    obtain ⟨former, before, same⟩ := asked member
    rw [← same]
    exact carrying.pending before
  seen := by
    intro anchor regions version member inRegions
    obtain ⟨former, before, inFormer⟩ := listed member inRegions
    exact carrying.seen before inFormer
  dependants := by
    intro other array taken before derived
    rcases carrying.dependants taken before derived with done | ⟨regions, member, due⟩
    · exact .inl done
    · obtain ⟨version, inRegions, start⟩ := due
      exact visited member inRegions start before derived
  names := by
    intro array other before changed leads
    rcases carrying.names before changed leads with taken | due
    · exact .inl taken
    · rcases named due with stale | still
      · exact .inl (takenUp_of_resolve leads stale)
      · exact .inr still

/-- A task can be dropped when it has nothing left to go through and no untouched
name to take up. -/
theorem drop {task : FollowTask}
    (carrying : Carrying space name region ⟨current, untouched, task :: rest⟩)
    (empty : ∀ {anchor regions}, task = .goThrough anchor regions → regions = [])
    (stale : ∀ {other}, task = .takeUp other → other ∉ untouched) :
    Carrying space name region ⟨current, untouched, rest⟩ := by
  refine carrying.retask ?_ ?_ ?_ ?_
  · intro kept member
    exact ⟨kept, List.mem_cons_of_mem _ member, rfl⟩
  · intro other regions version member listed
    exact ⟨regions, List.mem_cons_of_mem _ member, listed⟩
  · intro other regions version array member listed start before derived
    rcases List.mem_cons.1 member with same | later
    · rw [empty same.symm] at listed
      cases listed
    · exact .inr ⟨regions, later, version, listed, start⟩
  · intro other due
    rcases List.mem_cons.1 due with same | later
    · exact .inl (stale same.symm)
    · exact .inr later

/-- Discarding a name that was taken up before. -/
theorem discard (carrying : Carrying space name region
      ⟨current, untouched, .takeUp anchor :: rest⟩) (stale : anchor ∉ untouched) :
    Carrying space name region ⟨current, untouched, rest⟩ := by
  refine carrying.drop ?_ ?_
  · intro other regions same
    cases same
  · intro other same
    cases same
    exact stale

/-- Going through the regions for a name comes to its end. -/
theorem finish (carrying : Carrying space name region
      ⟨current, untouched, .goThrough anchor [] :: rest⟩) :
    Carrying space name region ⟨current, untouched, rest⟩ := by
  refine carrying.drop ?_ ?_
  · intro other regions same
    cases same
    rfl
  · intro other same
    cases same

/-- A version that derives its length from the name gone through is the array
recorded before up to its count. -/
theorem dependent_shape {tasks : List FollowTask}
    (carrying : Carrying space name region ⟨current, untouched, tasks⟩)
    (member : .goThrough anchor (candidate :: regions) ∈ tasks)
    (dependent : Space.dependent? anchor candidate = some array) :
    ∃ before new,
      (space.anchoring name region).regionAt array.start = some (.array before) ∧
      array = before.withCount array.count ∧
      current.regionAt array.start = some new ∧
      Space.Brought space name region (.array before) (.array array) ∧
      Space.Brought space name region (.array array) new := by
  obtain ⟨shape, -⟩ := Space.dependent?_eq_some_iff.1 dependent
  obtain ⟨old, new, found, present, arrived, onward⟩ :=
    carrying.seen member (List.mem_cons_self (a := candidate))
  subst shape
  obtain ⟨before, rfl, agrees⟩ := arrived.to_array
  exact ⟨before, new, found, agrees, present, arrived, onward⟩

/-- Placing a version anew brings it to the count that is passed on. -/
theorem parseAt_dependent {tasks : List FollowTask}
    (carrying : Carrying space name region ⟨current, untouched, tasks⟩)
    (faithful : (space.anchoring name region).DerivesFaithfully)
    (member : .goThrough anchor (candidate :: regions) ∈ tasks)
    (dependent : Space.dependent? anchor candidate = some array) :
    (current.parseAt array.schemaText array.start (some array.backReferences)).value =
      .ok (array.withCount region.carriedCount) := by
  have derived := (Space.dependent?_eq_some_iff.1 dependent).2
  obtain ⟨before, -, found, agrees, -⟩ := carrying.dependent_shape member dependent
  have stated : array.Faithful := by
    rw [agrees] at derived ⊢
    exact (faithful found rfl derived).withCount _
  have count : current.countUnder anchor = region.carriedCount := (carrying.pending member).2
  rw [carrying.wellFormed.parseAt_derived stated derived, count]

/-- A version can be left behind when its array has the count that is passed on. -/
theorem leaveBehind (front : List FollowTask)
    (carrying : Carrying space name region
      ⟨current, untouched, front ++ .goThrough anchor (candidate :: regions) :: rest⟩)
    (settled : ∀ {array}, Space.dependent? anchor candidate = some array →
      current.countAt array.start = region.carriedCount) :
    Carrying space name region
      ⟨current, untouched, front ++ .goThrough anchor regions :: rest⟩ := by
  -- Every task that remains was there before, with one region more in one of them.
  have earlier : ∀ {task}, task ∈ front ++ .goThrough anchor regions :: rest →
      task ∈ front ++ .goThrough anchor (candidate :: regions) :: rest ∨
        task = .goThrough anchor regions := by
    intro task member
    rcases List.mem_append.1 member with inFront | behind
    · exact .inl (List.mem_append_left _ inFront)
    · rcases List.mem_cons.1 behind with same | later
      · exact .inr same
      · exact .inl (List.mem_append_right _ (List.mem_cons_of_mem _ later))
  have inFormer : FollowTask.goThrough anchor (candidate :: regions) ∈
      front ++ .goThrough anchor (candidate :: regions) :: rest :=
    List.mem_append_right _ List.mem_cons_self
  refine carrying.retask ?_ ?_ ?_ ?_
  · intro task member
    rcases earlier member with before | rfl
    · exact ⟨task, before, rfl⟩
    · exact ⟨_, inFormer, rfl⟩
  · intro other others version member listed
    rcases earlier member with before | same
    · exact ⟨others, before, listed⟩
    · cases same
      exact ⟨_, inFormer, List.mem_cons_of_mem _ listed⟩
  · intro other others version array member listed start before derived
    rcases List.mem_append.1 member with inFront | behind
    · exact .inr ⟨others, List.mem_append_left _ inFront, version, listed, start⟩
    · rcases List.mem_cons.1 behind with same | later
      · cases same
        rcases List.mem_cons.1 listed with rfl | remaining
        · -- The version left behind is the one that was due, so its array is settled.
          obtain ⟨old, new, found, -, arrived, -⟩ := carrying.seen member listed
          rw [start, before] at found
          cases found
          have depends : ∃ count, Space.dependent? anchor version =
              some (array.withCount count) := by
            rcases arrived.of_array with rfl | rfl
            · exact ⟨array.count, Space.dependent?_eq_some_iff.2 ⟨rfl, derived⟩⟩
            · exact ⟨_, Space.dependent?_eq_some_iff.2 ⟨rfl, derived⟩⟩
          obtain ⟨count, depends⟩ := depends
          have reached := settled depends
          exact .inl reached
        · exact .inr ⟨regions, List.mem_append_right _ List.mem_cons_self, version,
            remaining, start⟩
      · exact .inr ⟨others, List.mem_append_right _ (List.mem_cons_of_mem _ later), version,
          listed, start⟩
  · intro other due
    rcases List.mem_append.1 due with inFront | behind
    · exact .inr (List.mem_append_left _ inFront)
    · rcases List.mem_cons.1 behind with same | later
      · cases same
      · exact .inr (List.mem_append_right _ (List.mem_cons_of_mem _ later))

/-- A version with another count than the one passed on is an outdated array. -/
theorem outdated {tasks : List FollowTask}
    (carrying : Carrying space name region ⟨current, untouched, tasks⟩)
    (member : .goThrough anchor (candidate :: regions) ∈ tasks)
    (dependent : Space.dependent? anchor candidate = some array)
    (changed : array.count ≠ region.carriedCount) :
    Space.Outdated space name region array anchor := by
  have derived := (Space.dependent?_eq_some_iff.1 dependent).2
  obtain ⟨before, new, found, -, present, arrived, -⟩ := carrying.dependent_shape member dependent
  rw [arrived.eq_of_changed changed] at found
  have elsewhere : array.start ≠ region.start := by
    intro atRoot
    rw [Space.regionAt_anchoring, if_pos atRoot.symm, Option.some.injEq] at found
    have count := Space.carriedCount_inheriting space region
    rw [found] at count
    exact changed count
  rw [Space.regionAt_anchoring, if_neg elsewhere.symm] at found
  exact ⟨found, elsewhere, derived, (carrying.pending member).1, changed⟩

section Bringing

variable {tasks : List FollowTask}

/-- A task that was there before or takes up a name of an array is pending when the
array has been brought to the count. -/
theorem pending_bringing (carrying : Carrying space name region ⟨current, untouched, tasks⟩)
    (outdated : Space.Outdated space name region array anchor) {task : FollowTask}
    (listed : task ∈ (current.anchorsAt array.start).map .takeUp ++ tasks) :
    Space.Affected space name region task.anchor ∧
      (current.bringing region array).countUnder task.anchor = region.carriedCount := by
  rcases List.mem_append.1 listed with inFront | before
  · obtain ⟨other, named, rfl⟩ := List.mem_map.1 inFront
    have leads := carrying.wellFormed.mem_anchorsAt.1 named
    have leadsOn : (current.bringing region array).resolve other = some array.start := leads
    have count := Space.countUnder_of_resolve leadsOn
    rw [Space.countAt_bringing, if_pos rfl] at count
    rw [carrying.resolve_eq] at leads
    exact ⟨outdated.onward leads, count⟩
  · obtain ⟨affected, count⟩ := carrying.pending before
    exact ⟨affected, Space.countUnder_store current rfl count⟩

/-- A version that is still gone through remains related to what is recorded when
an array has been brought to the count. -/
theorem seen_bringing (carrying : Carrying space name region ⟨current, untouched, tasks⟩)
    (outdated : Space.Outdated space name region array anchor) {other : String}
    {version : Region} (member : .goThrough other regions ∈ tasks) (listed : version ∈ regions) :
    ∃ old new, (space.anchoring name region).regionAt version.start = some old ∧
      (current.bringing region array).regionAt version.start = some new ∧
      Space.Brought space name region old version ∧
      Space.Brought space name region version new := by
  obtain ⟨old, new, found, present, arrived, onward⟩ := carrying.seen member listed
  by_cases here : array.start = version.start
  · have foundHere := outdated.found
    rw [here, found] at foundHere
    cases foundHere
    refine ⟨_, _, found, by rw [Space.regionAt_bringing, if_pos here], arrived, ?_⟩
    rcases arrived.of_array with rfl | rfl
    · exact outdated.brought
    · exact .same
  · refine ⟨old, new, found, ?_, arrived, onward⟩
    rw [Space.regionAt_bringing, if_neg here]
    exact present

/-- Bringing an array to the count that is passed on makes its names due. -/
theorem bring (carrying : Carrying space name region ⟨current, untouched, tasks⟩)
    (outdated : Space.Outdated space name region array anchor) :
    Carrying space name region
      ⟨current.bringing region array, untouched,
        (current.anchorsAt array.start).map .takeUp ++ tasks⟩ where
  wellFormed := by
    obtain ⟨new, present, -⟩ := carrying.exists_present outdated.found
    exact carrying.wellFormed.store (Option.isSome_of_eq_some present)
  anchors := carrying.anchors
  nodup := carrying.nodup
  kept := by
    intro address
    rw [Space.regionAt_bringing, ← carrying.kept address]
    split
    · rename_i here
      obtain ⟨new, present, -⟩ := carrying.exists_present outdated.found
      rw [← here, present]
      rfl
    · rfl
  brought := by
    intro address old new before present
    rw [Space.regionAt_bringing] at present
    split at present
    · rename_i here
      rw [← here, outdated.found] at before
      cases before
      cases present
      exact outdated.brought
    · exact carrying.brought before present
  written := carrying.written
  takenUp := carrying.takenUp
  pending := carrying.pending_bringing outdated
  seen := by
    intro other others version member listed
    rcases List.mem_append.1 member with inFront | before
    · obtain ⟨_, _, same⟩ := List.mem_map.1 inFront
      cases same
    · exact carrying.seen_bringing outdated before listed
  dependants := by
    intro other dependant taken before derived
    rw [Space.countAt_bringing]
    split
    · exact .inl rfl
    · rcases carrying.dependants taken before derived with done | ⟨others, due, version⟩
      · exact .inl done
      · exact .inr ⟨others, List.mem_append_right _ due, version⟩
  names := by
    intro dependant other before differs leads
    rw [Space.regionAt_bringing] at differs
    split at differs
    · rename_i here
      have named : other ∈ current.anchorsAt array.start := by
        rw [carrying.wellFormed.mem_anchorsAt, here]
        exact leads
      exact .inr (List.mem_append_left _ (List.mem_map_of_mem named))
    · rcases carrying.names before differs leads with taken | due
      · exact .inl taken
      · exact .inr (List.mem_append_right _ due)

end Bringing

/-- Every move keeps what holds on the way. -/
theorem preserved (faithful : (space.anchoring name region).DerivesFaithfully)
    {pursuit next : Pursuit} {taken : Option String} (move : Step pursuit taken next)
    (carrying : Carrying space name region pursuit) : Carrying space name region next := by
  cases move with
  | takeUp fresh => exact carrying.takeUp fresh
  | discard stale => exact carrying.discard stale
  | finish => exact carrying.finish
  | pass independent =>
      refine carrying.leaveBehind [] ?_
      intro array dependent
      rw [independent] at dependent
      cases dependent
  | leave dependent placed =>
      rw [carrying.parseAt_dependent faithful List.mem_cons_self dependent] at placed
      cases placed
  | @keep current untouched anchor candidate regions rest array refreshed dependent placed same =>
      rw [carrying.parseAt_dependent faithful List.mem_cons_self dependent] at placed
      cases placed
      obtain ⟨-, new, -, -, present, -, onward⟩ :=
        carrying.dependent_shape List.mem_cons_self dependent
      refine carrying.leaveBehind [] ?_
      intro other depends
      rw [dependent] at depends
      cases depends
      rw [Space.countAt_of_regionAt present]
      exact onward.carriedCount_eq same.symm
  | @renew current untouched anchor candidate regions rest array refreshed dependent placed
      changed =>
      rw [carrying.parseAt_dependent faithful List.mem_cons_self dependent] at placed
      cases placed
      have outdated := carrying.outdated List.mem_cons_self dependent (Ne.symm changed)
      refine (carrying.bring outdated).leaveBehind _ ?_
      intro other depends
      rw [dependent] at depends
      cases depends
      rw [Space.countAt_bringing]
      exact if_pos rfl

/-- What holds on the way holds when an anchor has just been written. -/
theorem ofAnchor (wellFormed : space.WellFormed) :
    Carrying space name region (.ofAnchor space name region) := by
  have anchored := wellFormed.anchoring name region
  have leads : (space.anchoring name region).resolve name = some region.start :=
    (space.resolve_anchoring name name region).trans (if_pos rfl)
  have count : (space.anchoring name region).countUnder name = region.carriedCount := by
    have recorded : (space.anchoring name region).regionAt region.start =
        some (space.inheriting region) := by
      rw [Space.regionAt_anchoring, if_pos rfl]
    rw [Space.countUnder_of_resolve leads, Space.countAt_of_regionAt recorded,
      Space.carriedCount_inheriting]
  have onlyWritten : ∀ {other : String},
      other ∈ (space.anchoring name region).anchors.map Prod.fst →
      other ∉ ((space.anchoring name region).anchors.map Prod.fst).filter (· ≠ name) →
      other = name := by
    intro other bound stale
    refine Decidable.byContradiction fun different => ?_
    exact stale (List.mem_filter.2 ⟨bound, by simpa using different⟩)
  refine
    { wellFormed := anchored
      anchors := rfl
      nodup := anchored.names_nodup.filter _
      kept := fun _ => rfl
      brought := ?_
      written := ⟨Space.mem_names_of_resolve leads, by simp [Pursuit.ofAnchor]⟩
      takenUp := ?_
      pending := ?_
      seen := ?_
      dependants := ?_
      names := ?_ }
  · intro address old new before present
    cases before.symm.trans present
    exact .same
  · rintro other ⟨bound, stale⟩
    rw [onlyWritten bound stale]
    exact .written
  · intro task member
    cases List.mem_singleton.1 member
    exact ⟨.written, count⟩
  · intro other others version member listed
    cases List.mem_singleton.1 member
    have present := anchored.regions.mem_inOrder.1 listed
    exact ⟨version, version, present, present, .same, .same⟩
  · rintro other array ⟨bound, stale⟩ before derived
    rw [onlyWritten bound stale]
    exact .inr ⟨_, List.mem_singleton_self _, .array array,
      anchored.regions.mem_inOrder.2 before, rfl⟩
  · intro array other before differs
    exact absurd before differs

/-- When no tasks are left, every affected name was taken up. -/
theorem takenUp_of_affected (carrying : Carrying space name region ⟨current, untouched, []⟩)
    {other : String} (affected : Space.Affected space name region other) :
    TakenUp ⟨current, untouched, []⟩ other := by
  induction affected with
  | written => exact carrying.written
  | @onward array anchor other recorded elsewhere derived affected changed named
      inductionHypothesis =>
      have outdated : Space.Outdated space name region array anchor :=
        ⟨recorded, elsewhere, derived, affected, changed⟩
      have reached : current.countAt array.start = region.carriedCount := by
        rcases carrying.dependants inductionHypothesis outdated.found derived with
          done | ⟨_, due, _⟩
        · exact done
        · cases due
      have differs : current.regionAt array.start ≠ some (.array array) := by
        intro same
        rw [Space.countAt_of_regionAt same] at reached
        exact changed reached
      have leads : current.resolve other = some array.start := by
        rw [carrying.resolve_eq]
        exact named
      rcases carrying.names outdated.found differs leads with taken | due
      · exact taken
      · cases due

end Carrying

end Pursuit

end ImageAtlas
