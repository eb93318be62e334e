/-!
# How a part of a longer work ends

A part changes a state and ends with a result, or with a fault. `Ends` says what
holds of the result and the state in the first case and of the fault in the second,
so that one statement tells both what a part leaves and how it can fail. Parts in a
row are joined by `Ends.bind`.
-/

namespace ImageAtlas

variable {ε σ α β : Type} {part : EStateM ε σ α} {state : σ}

/-- What holds of the result and of the state when a part ends with a result, and of
the fault when it does not. -/
structure Ends (part : EStateM ε σ α) (state : σ) (fine : α → σ → Prop) (fails : ε → Prop) :
    Prop where
  of_ok : ∀ {result ended}, part state = .ok result ended → fine result ended
  of_error : ∀ {fault ended}, part state = .error fault ended → fails fault

namespace Ends

variable {fine : α → σ → Prop} {fails : ε → Prop}

/-- A part that has a result ends as that result does. -/
theorem ok {result : α} {ended : σ} (ran : part state = .ok result ended)
    (holds : fine result ended) : Ends part state fine fails where
  of_ok other := by
    rw [ran] at other
    cases other
    exact holds
  of_error other := by
    rw [ran] at other
    cases other

/-- A part that fails ends as the fault does. -/
theorem error {fault : ε} {ended : σ} (ran : part state = .error fault ended)
    (holds : fails fault) : Ends part state fine fails where
  of_ok other := by
    rw [ran] at other
    cases other
  of_error other := by
    rw [ran] at other
    cases other
    exact holds

/-- A part ends as another one does that comes to the same. -/
theorem congr {other : EStateM ε σ α} {later : σ} (ends : Ends part state fine fails)
    (same : part state = other later) : Ends other later fine fails where
  of_ok ran := ends.of_ok (same.trans ran)
  of_error ran := ends.of_error (same.trans ran)

/-- A part that cannot fail has a result. -/
theorem exists_ok (ends : Ends part state fine fails) (never : ∀ fault, ¬ fails fault) :
    ∃ result ended, part state = .ok result ended ∧ fine result ended := by
  cases ran : part state with
  | ok result ended => exact ⟨result, ended, rfl, ends.of_ok ran⟩
  | error fault ended => exact absurd (ends.of_error ran) (never fault)

/-- What holds may be told more loosely. -/
theorem imp {looseFine : α → σ → Prop} {looseFails : ε → Prop}
    (ends : Ends part state fine fails)
    (fineImp : ∀ {result ended}, fine result ended → looseFine result ended)
    (failsImp : ∀ {fault}, fails fault → looseFails fault) :
    Ends part state looseFine looseFails := by
  cases ran : part state with
  | ok result ended => exact .ok ran (fineImp (ends.of_ok ran))
  | error fault ended => exact .error ran (failsImp (ends.of_error ran))

/-- Two parts in a row fail as the first one does, or end as the second one does from
where the first one ended. -/
theorem bind {next : α → EStateM ε σ β} {last : β → σ → Prop}
    (first : Ends part state fine fails)
    (second : ∀ {result middle}, fine result middle → Ends (next result) middle last fails) :
    Ends (part >>= next) state last fails := by
  have joined : (part >>= next) state =
      match part state with
      | .ok result middle => next result middle
      | .error fault middle => .error fault middle := rfl
  cases ran : part state with
  | ok result middle =>
      rw [ran] at joined
      exact (second (first.of_ok ran)).congr joined.symm
  | error fault middle =>
      rw [ran] at joined
      exact .error joined (first.of_error ran)

end Ends

end ImageAtlas
