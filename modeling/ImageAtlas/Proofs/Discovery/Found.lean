import Mathlib.Data.List.Induction
import ImageAtlas.Discovery
import ImageAtlas.Proofs.Space.WellFormed

/-!
# The found regions by name

What a discovery found is kept by name: a region under a name takes the place of the
one that was found under it before. The names are told apart (`Found.Distinct`), so
that an entry is what its name gives. Regions that are collected apart and added in the
end are as good as added at once (`update_update`), and while every region that is put
under a name is anchored there too, each name of the space leads to the start of what
was found under it (`Tells`).
-/

namespace ImageAtlas.Found

variable {found others : Found} {name other : String} {region : Region}

/-- What was found under a name. -/
def get? (found : Found) (name : String) : Option Region :=
  (found.find? fun entry => entry.1 == name).map Prod.snd

/-- No name stands twice. -/
def Distinct (found : Found) : Prop :=
  (found.map Prod.fst).Nodup

/-- Of nothing no name stands twice. -/
theorem Distinct.nil : Distinct [] :=
  List.nodup_nil

/-- The names when a region has been put under one. -/
theorem map_fst_put (name : String) (region : Region) (found : Found) :
    (put name region found).map Prod.fst =
      if name ∈ found.map Prod.fst then found.map Prod.fst
      else found.map Prod.fst ++ [name] := by
  induction found with
  | nil => rfl
  | cons entry rest inductionHypothesis =>
      rw [put]
      by_cases here : entry.1 = name
      · simp [here]
      · simp only [if_neg here, List.map_cons, List.mem_cons, Ne.symm here, false_or,
          inductionHypothesis]
        split <;> rfl

/-- What is found when a region has been put under a name. -/
theorem get?_put (name other : String) (region : Region) (found : Found) :
    (put name region found).get? other =
      if other = name then some region else found.get? other := by
  induction found with
  | nil =>
      rcases eq_or_ne name other with rfl | differs
      · simp [put, get?]
      · simp [put, get?, differs, differs.symm]
  | cons entry rest inductionHypothesis =>
      simp only [get?] at inductionHypothesis ⊢
      rw [put]
      by_cases here : entry.1 = name
      · rcases eq_or_ne name other with rfl | differs
        · simp [here]
        · simp [here, differs, differs.symm]
      · rw [if_neg here, List.find?_cons, List.find?_cons]
        by_cases same : entry.1 = other
        · have differs : other ≠ name := same ▸ here
          simp [same, differs]
        · simp only [beq_false_of_ne same]
          exact inductionHypothesis

/-- Names are told apart when a region has been put under one. -/
theorem Distinct.put (distinct : found.Distinct) (name : String) (region : Region) :
    Distinct (put name region found) := by
  rw [Distinct, map_fst_put]
  split
  · exact distinct
  · rename_i fresh
    refine List.nodup_append.2 ⟨distinct, List.pairwise_singleton _ name, ?_⟩
    rintro _ known _ listed rfl
    exact fresh (List.mem_singleton.1 listed ▸ known)

/-- Names are told apart when regions have been added. -/
theorem Distinct.update (distinct : found.Distinct) (others : Found) :
    Distinct (found.update others) := by
  induction others generalizing found with
  | nil => exact distinct
  | cons entry rest inductionHypothesis =>
      exact inductionHypothesis (distinct.put entry.1 entry.2)

/-- Where names are told apart, an entry is what its name gives. -/
theorem Distinct.get?_of_mem (distinct : found.Distinct) (entry : (name, region) ∈ found) :
    found.get? name = some region := by
  induction found with
  | nil => cases entry
  | cons first rest inductionHypothesis =>
      rw [Distinct, List.map_cons, List.nodup_cons] at distinct
      rcases List.mem_cons.1 entry with rfl | behind
      · simp [get?]
      · have differs : first.1 ≠ name := by
          intro same
          exact distinct.1 (List.mem_map.2 ⟨_, behind, same.symm⟩)
        have further := inductionHypothesis distinct.2 behind
        rw [get?] at further ⊢
        rw [List.find?_cons, beq_false_of_ne differs]
        exact further

/-- What is put under a name twice is what is put there last. -/
theorem put_put (name : String) (region later : Region) (found : Found) :
    put name later (put name region found) = put name later found := by
  induction found with
  | nil => simp [put]
  | cons entry rest inductionHypothesis =>
      by_cases here : entry.1 = name
      · simp [put, here]
      · simp [put, here, inductionHypothesis]

/-- What is put under a name that stands there already can be put before something under
another name. -/
theorem put_comm (differs : name ≠ other) {later : Region}
    (known : name ∈ found.map Prod.fst) :
    put name region (put other later found) = put other later (put name region found) := by
  induction found with
  | nil => cases known
  | cons entry rest inductionHypothesis =>
      by_cases here : entry.1 = name
      · simp [put, here, differs]
      · have behind : name ∈ rest.map Prod.fst := by
          rcases List.mem_cons.1 known with same | behind
          · exact absurd same.symm here
          · exact behind
        by_cases there : entry.1 = other
        · simp [put, there, differs.symm]
        · simp [put, here, there, inductionHypothesis behind]

/-- Adding regions and then putting one under a name that stood there already can be done
the other way round, if no other is added under it. -/
theorem update_put_of_known (known : name ∈ found.map Prod.fst)
    (fresh : name ∉ others.map Prod.fst) :
    (put name region found).update others = put name region (found.update others) := by
  induction others generalizing found with
  | nil => rfl
  | cons entry rest inductionHypothesis =>
      obtain ⟨differs, behind⟩ := not_or.1 (mt List.mem_cons.2 fresh)
      have still : name ∈ (put entry.1 entry.2 found).map Prod.fst := by
        rw [map_fst_put]
        split
        · exact known
        · exact List.mem_append_left _ known
      rw [update, List.foldl_cons, ← put_comm differs known]
      exact inductionHypothesis still behind

/-- Putting a region under a name among those that are added is putting it there when
they have been. -/
theorem update_put (distinct : others.Distinct) (name : String) (region : Region)
    (found : Found) :
    found.update (put name region others) = put name region (found.update others) := by
  induction others generalizing found with
  | nil => rfl
  | cons entry rest inductionHypothesis =>
      rw [Distinct, List.map_cons, List.nodup_cons] at distinct
      rw [put]
      split
      · rename_i here
        subst here
        have known : entry.1 ∈ (put entry.1 entry.2 found).map Prod.fst := by
          rw [map_fst_put]
          split
          · assumption
          · exact List.mem_append_right _ List.mem_cons_self
        have replaced : (put entry.1 region (put entry.1 entry.2 found)).update rest =
            put entry.1 region ((put entry.1 entry.2 found).update rest) :=
          update_put_of_known known distinct.1
        rw [put_put] at replaced
        exact replaced
      · exact inductionHypothesis distinct.2 (put entry.1 entry.2 found)

/-- Regions that were collected apart and are added then are as good as added at once. -/
theorem update_update (found entries : Found) :
    found.update (update [] entries) = found.update entries := by
  induction entries using List.reverseRecOn with
  | nil => rfl
  | append_singleton before entry inductionHypothesis =>
      have apart : Distinct (update [] before) := Distinct.nil.update before
      have last : ∀ start : Found,
          start.update (before ++ [entry]) = put entry.1 entry.2 (start.update before) :=
        fun start => List.foldl_append
      rw [last, last, update_put apart, inductionHypothesis]

/-- An entry among those that were added to nothing is one of them. -/
theorem mem_of_mem_update {entries : Found} {entry : String × Region}
    (member : entry ∈ found.update entries) : entry ∈ found ∨ entry ∈ entries := by
  have putting : ∀ (name : String) (region : Region) (start : Found),
      entry ∈ put name region start → entry ∈ start ∨ entry = (name, region) := by
    intro name region start
    induction start with
    | nil => exact fun single => .inr (List.mem_singleton.1 single)
    | cons first rest inductionHypothesis =>
        intro listed
        rw [put] at listed
        split at listed
        · rcases List.mem_cons.1 listed with same | behind
          · exact .inr same
          · exact .inl (List.mem_cons_of_mem _ behind)
        · rcases List.mem_cons.1 listed with rfl | behind
          · exact .inl List.mem_cons_self
          · exact (inductionHypothesis behind).imp_left (List.mem_cons_of_mem _)
  induction entries generalizing found with
  | nil => exact .inl member
  | cons first rest inductionHypothesis =>
      rcases inductionHypothesis member with before | later
      · rcases putting first.1 first.2 found before with known | rfl
        · exact .inl known
        · exact .inr List.mem_cons_self
      · exact .inr (List.mem_cons_of_mem _ later)

/-- Every name leads to the start of what was found under it, and nothing else is named. -/
def Tells (found : Found) (space : Space) : Prop :=
  ∀ name, space.resolve name = (found.get? name).map Region.start

/-- Names lead to what was found under them when one more region has been anchored. -/
theorem Tells.put {space : Space} (tells : found.Tells space) (name : String)
    (region : Region) : Tells (put name region found) (space.anchoring name region) := by
  intro other
  rw [Space.resolve_anchoring, get?_put]
  split
  · rfl
  · exact tells other

end ImageAtlas.Found
