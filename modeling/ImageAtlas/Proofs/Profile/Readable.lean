import ImageAtlas.Profile.Reading
import ImageAtlas.Proofs.Schema.Reading

/-!
# Readable formats

The format of each array that was read is the text of a schema, and so is the format of each
array of the default profile. `Gives` says what holds of whatever a check lets pass, so that it
can be followed through the fields and lists of a profile.
-/

namespace ImageAtlas

namespace Checked

variable {α β : Type} {step : PathStep} {holds : α → Prop}

/-- What a part is taken for, seen from the whole. -/
theorem under_eq_ok_iff {checked : Checked α} {value : α} :
    under step checked = .ok value ↔ checked = .ok value := by
  cases checked with
  | ok other => rfl
  | error issues => simp [under]

/-- What is made of a part that passed. -/
theorem map_eq_ok_iff {checked : Checked α} {make : α → β} {made : β} :
    Except.map make checked = .ok made ↔ ∃ value, checked = .ok value ∧ make value = made := by
  cases checked <;> simp [Except.map]

/-- Two parts pass if both do. -/
theorem both_eq_ok_iff {first : Checked α} {second : Checked β} {values : α × β} :
    both first second = .ok values ↔ first = .ok values.1 ∧ second = .ok values.2 := by
  cases first <;> cases second <;> simp [both, Prod.ext_iff]

end Checked

namespace Profile

open Checked

variable {α : Type} {check : Value → Checked α} {holds : α → Prop} {key : String} {input : Value}

/-- What holds of everything that a check lets pass. -/
def Gives (check : Value → Checked α) (holds : α → Prop) : Prop :=
  ∀ input value, check input = .ok value → holds value

/-- It holds of all items of a list. -/
theorem Gives.items (gives : Gives check holds) {index : Nat} {inputs : List Value}
    {values : List α} (passed : items check index inputs = .ok values) :
    ∀ value ∈ values, holds value := by
  induction inputs generalizing index values with
  | nil =>
      cases passed
      exact List.forall_mem_nil _
  | cons input rest inductionHypothesis =>
      obtain ⟨⟨first, others⟩, both, rfl⟩ := map_eq_ok_iff.1 passed
      obtain ⟨head, tail⟩ := both_eq_ok_iff.1 both
      exact List.forall_mem_cons.2
        ⟨gives _ _ (under_eq_ok_iff.1 head), inductionHypothesis tail⟩

/-- It holds of all members of a list that was read. -/
theorem Gives.listOf (gives : Gives check holds) :
    Gives (Profile.listOf check) fun values => ∀ value ∈ values, holds value := by
  intro input values passed
  unfold Profile.listOf at passed
  split at passed
  · exact gives.items passed
  · cases passed

/-- It holds of a field that has to be there. -/
theorem Gives.required (gives : Gives check holds) {value : α}
    (passed : required key check input = .ok value) : holds value := by
  have found := under_eq_ok_iff.1 passed
  split at found
  · exact gives _ _ found
  · cases found

/-- It holds of a field with a default if it holds of that. -/
theorem Gives.optional (gives : Gives check holds) {default value : α} (usual : holds default)
    (passed : optional key check default input = .ok value) : holds value := by
  unfold Profile.optional at passed
  split at passed
  · exact gives _ _ (under_eq_ok_iff.1 passed)
  · cases passed
    exact usual

/-- What is accepted beyond its type is accepted. -/
theorem gives_such {accept : α → Except String Unit} :
    Gives (such check accept) fun value => accept value = .ok () := by
  intro input value passed
  unfold such at passed
  split at passed
  · cases passed
  · split at passed
    · rename_i accepted
      cases passed
      exact accepted
    · cases passed

/-- It holds of a model if it holds of what is made of its fields. -/
theorem Gives.model {name : String} (gives : Gives check holds) :
    Gives (Profile.model name check) holds := by
  intro input value passed
  unfold Profile.model at passed
  split at passed
  · exact gives _ _ passed
  · cases passed

/-- The format of every array is the text of a schema. -/
def Readable (profile : Profile) : Prop :=
  ∀ array ∈ profile.arrays, ∃ schema, Schema.read array.format = .ok schema

/-- A format is accepted if it is the text of a schema. -/
theorem readable_eq_ok_iff {format : String} :
    readable format = .ok () ↔ ∃ schema, Schema.read format = .ok schema := by
  unfold readable
  split
  · rename_i schema accepted
    exact iff_of_true rfl ⟨schema, accepted⟩
  · rename_i refusal refused
    refine iff_of_false (by simp) ?_
    rintro ⟨schema, accepted⟩
    rw [refused] at accepted
    cases accepted

/-- The format of an array that was read is the text of a schema. -/
theorem gives_nameArray :
    Gives nameArray fun array => ∃ schema, Schema.read array.format = .ok schema := by
  refine .model fun input array passed => ?_
  obtain ⟨⟨anchor, format, games⟩, fields, rfl⟩ := map_eq_ok_iff.1 passed
  obtain ⟨-, others⟩ := both_eq_ok_iff.1 fields
  obtain ⟨accepted, -⟩ := both_eq_ok_iff.1 others
  exact readable_eq_ok_iff.1 (Gives.required gives_such accepted)

/-- A text of one segment that is called name, with a numeral for its width, is read. -/
theorem exists_read_of_width {text : String} (width : List Char)
    (spelled : text.toList = '[' :: 'n' :: 'a' :: 'm' :: 'e' :: '"' :: '"' :: (width ++ [']']))
    (decimal : ∀ character ∈ width, Text.isDecimal character = true)
    (short : width.length ≤ Text.numeralLimit) (positive : 1 ≤ Schema.numeralValue width) :
    ∃ schema, Schema.read text = .ok schema := by
  have nonempty : width ≠ [] := by
    rintro rfl
    exact absurd positive (by decide)
  have segment : Schema.SegmentSpelling.Valid ⟨[], ['n', 'a', 'm', 'e'], width⟩ :=
    { blank := List.forall_mem_nil _
      name_ne_nil := List.cons_ne_nil _ _
      alphanumeric := List.forall_mem_cons.2 ⟨by decide +kernel, List.forall_mem_cons.2
        ⟨by decide +kernel, List.forall_mem_cons.2 ⟨by decide +kernel,
          List.forall_mem_singleton.2 (by decide +kernel)⟩⟩⟩
      width_ne_nil := nonempty
      decimal, short, positive }
  have valid : Schema.Spelling.Valid ⟨[⟨[], ['n', 'a', 'm', 'e'], width⟩], [], []⟩ :=
    { row_ne_nil := List.cons_ne_nil _ _
      valid := List.forall_mem_singleton.2 segment
      apart := List.forall_mem_nil _
      blank := List.forall_mem_nil _
      unclosed := List.not_mem_nil }
  refine ⟨_, valid.read_eq ?_ (.implied rfl)⟩
  simpa [Schema.Spelling.characters, Schema.rowCharacters, Schema.SegmentSpelling.characters]
    using spelled

/-- The formats of the default profile are the texts of schemas. -/
theorem readable_default : Readable {} := by
  have one : Text.isDecimal '1' = true := by decide +kernel
  have three : Text.isDecimal '3' = true := by decide +kernel
  have seven : Text.isDecimal '7' = true := by decide +kernel
  have wide : ∃ schema, Schema.read "[name\"\"13]" = .ok schema :=
    exists_read_of_width ['1', '3'] rfl
      (List.forall_mem_cons.2 ⟨one, List.forall_mem_singleton.2 three⟩) (by decide)
      (by decide +kernel)
  have narrower : ∃ schema, Schema.read "[name\"\"11]" = .ok schema :=
    exists_read_of_width ['1', '1'] rfl
      (List.forall_mem_cons.2 ⟨one, List.forall_mem_singleton.2 one⟩) (by decide)
      (by decide +kernel)
  have narrow : ∃ schema, Schema.read "[name\"\"7]" = .ok schema :=
    exists_read_of_width ['7'] rfl (List.forall_mem_singleton.2 seven) (by decide)
      (by decide +kernel)
  simp [Readable, defaultArrays, wide, narrower, narrow]

end Profile

end ImageAtlas
