import ImageAtlas.CommandLine.Command
import ImageAtlas.Proofs.Discovery.Course
import ImageAtlas.Proofs.Region.Listing
import ImageAtlas.Proofs.Space.Placing

/-!
# What the parts of a command give

A part of a command prints, gives notices and may fail; but for the one that saves a
trace it leaves the files. `Gives` says what holds of its result, or of the fault by
which it fails. What is printed of an array fails only at a number that has too many
digits to be written, which is reported; rendering its elements never fails from address
zero on.
-/

namespace ImageAtlas

namespace CommandLine.Command

variable {α β : Type} {part : Command α} {progress : Progress} {fine : α → Prop}
  {fails : CommandFault → Prop}

/-- What a part of a command that leaves the files gives: what holds of its result, or of
the fault by which it fails. -/
def Gives (part : Command α) (progress : Progress) (fine : α → Prop)
    (fails : CommandFault → Prop) : Prop :=
  Ends part progress (fun result ended => fine result ∧ ended.files = progress.files) fails

namespace Gives

/-- What a part gives may be told more loosely. -/
theorem imp {looseFine : α → Prop} {looseFails : CommandFault → Prop}
    (gives : Gives part progress fine fails)
    (fineImp : ∀ {result}, fine result → looseFine result)
    (failsImp : ∀ {fault}, fails fault → looseFails fault) :
    Gives part progress looseFine looseFails :=
  Ends.imp gives (fun ended => ⟨fineImp ended.1, ended.2⟩) failsImp

/-- What parts in a row give. -/
theorem bind {next : α → Command β} {last : β → Prop}
    (first : Gives part progress fine fails)
    (second : ∀ {result} {middle : Progress}, fine result → middle.files = progress.files →
      Gives (next result) middle last fails) :
    Gives (part >>= next) progress last fails := by
  refine Ends.bind first ?_
  rintro result middle ⟨holds, same⟩
  exact Ends.imp (second holds same) (fun ended => ⟨ended.1, ended.2.trans same⟩) id

/-- A result that is there already. -/
theorem pure {result : α} (holds : fine result) : Gives (Pure.pure result) progress fine fails :=
  Ends.ok rfl ⟨holds, rfl⟩

/-- A part fails by a fault. -/
theorem throw {fault : CommandFault} (holds : fails fault) :
    Gives (MonadExcept.throw fault) progress fine fails :=
  Ends.error rfl holds

/-- Looking at the progress changes nothing. -/
theorem get_bind {next : Progress → Command α} (gives : Gives (next progress) progress fine fails) :
    Gives (get >>= next) progress fine fails :=
  Ends.congr gives rfl

/-- A result that is there already, or the fault in its place. -/
theorem orFail {ε : Type} {fault : ε → CommandFault} {result : Except ε α}
    (ok : ∀ {value}, result = .ok value → fine value)
    (error : ∀ {cause}, result = .error cause → fails (fault cause)) :
    Gives (Command.orFail fault result) progress fine fails := by
  cases result with
  | ok value => exact .pure (ok rfl)
  | error cause => exact .throw (error rfl)

/-- Parts for each item of a list, none of which ends the row. -/
theorem forIn {item : Type} (items : List item) {step : item → PUnit → Command (ForInStep PUnit)}
    (gives : ∀ thing ∈ items, ∀ middle : Progress,
      Gives (step thing ⟨⟩) middle (fun result => result = .yield ⟨⟩) fails) :
    Gives (ForIn.forIn items ⟨⟩ step) progress (fun _ => True) fails := by
  induction items generalizing progress with
  | nil => exact .pure trivial
  | cons first rest inductionHypothesis =>
      rw [List.forIn_cons]
      refine (gives first List.mem_cons_self progress).bind ?_
      rintro _ middle rfl _
      exact inductionHypothesis fun thing member => gives thing (List.mem_cons_of_mem _ member)

/-- Parts for each item of a list give a result for each. -/
theorem mapM {item : Type} (items : List item) {step : item → Command α}
    {holds : item → Prop}
    (gives : ∀ thing ∈ items, ∀ middle : Progress,
      Gives (step thing) middle (fun _ => holds thing) fails) :
    Gives (items.mapM step) progress (fun _ => ∀ thing ∈ items, holds thing) fails := by
  induction items generalizing progress with
  | nil => exact .pure (List.forall_mem_nil _)
  | cons first rest inductionHypothesis =>
      rw [List.mapM_cons]
      refine (gives first List.mem_cons_self progress).bind ?_
      intro _ middle here _
      have behind : Gives (rest.mapM step) middle (fun _ => ∀ thing ∈ rest, holds thing) fails :=
        inductionHypothesis fun thing member => gives thing (List.mem_cons_of_mem _ member)
      refine behind.bind ?_
      intro _ _ others _
      exact .pure (List.forall_mem_cons.2 ⟨here, others⟩)

end Gives

/-- Printing a text succeeds. -/
theorem gives_printText (text : String) (progress : Progress) (fails : CommandFault → Prop) :
    Gives (printText text) progress (fun _ => True) fails :=
  Ends.ok rfl ⟨trivial, rfl⟩

/-- Printing a line succeeds. -/
theorem gives_print (line : String) (progress : Progress) (fails : CommandFault → Prop) :
    Gives (print line) progress (fun _ => True) fails :=
  Ends.ok rfl ⟨trivial, rfl⟩

/-- Giving notices succeeds. -/
theorem gives_note (notices : List Notice) (progress : Progress)
    (fails : CommandFault → Prop) :
    Gives (note notices) progress (fun _ => True) fails :=
  Ends.ok rfl ⟨trivial, rfl⟩

/-- A result is taken over with the notices that were given on the way to it, or the fault
in its place. -/
theorem gives_noted {result : Noted (Except Fault α)}
    (ok : ∀ {value}, result.value = .ok value → fine value)
    (error : ∀ {cause}, result.value = .error cause → fails (.space cause))
    (progress : Progress) : Gives (noted result) progress fine fails :=
  (gives_note result.notices progress fails).bind fun _ _ => .orFail ok error

/-- A number is printed if it can be written. -/
theorem gives_decimal (number : Int) (progress : Progress) :
    Gives (decimal number) progress (fun _ => Text.isWritable number = true)
      (fun fault => fault = .space .tooManyDigits ∧ Text.isWritable number ≠ true) := by
  by_cases writable : Text.isWritable number = true
  · rw [decimal, if_pos writable]
    exact .pure writable
  · rw [decimal, if_neg writable]
    exact .throw ⟨rfl, writable⟩

/-- A number is printed, or that it has too many digits is reported. -/
theorem gives_number (number : Int) (progress : Progress) :
    Gives (decimal number) progress (fun _ => True) (fun fault => fault.isReported = true) := by
  refine (gives_decimal number progress).imp (fun _ => trivial) ?_
  rintro fault ⟨rfl, -⟩
  rfl

/-- The numbers that are printed of an array can be written. -/
structure Printable (region : ArrayRegion) : Prop where
  count : Text.isWritable region.count = true
  elementLength : Text.isWritable region.elementLength = true
  length : Text.isWritable region.length = true
  segments : ∀ segment ∈ region.layout, Text.isWritable segment.length = true

/-- What is known of an array is printed if its numbers can be written. -/
theorem gives_printArray (region : ArrayRegion) (progress : Progress) :
    Gives (printArray region) progress (fun _ => Printable region)
      (fun fault => fault = .space .tooManyDigits ∧ ¬ Printable region) := by
  have number : ∀ (amount : Int) (middle : Progress),
      (Printable region → Text.isWritable amount = true) →
      Gives (decimal amount) middle (fun _ => Text.isWritable amount = true)
        (fun fault => fault = .space .tooManyDigits ∧ ¬ Printable region) := by
    intro amount middle stated
    refine (gives_decimal amount middle).imp id ?_
    rintro fault ⟨same, unwritable⟩
    exact ⟨same, fun printable => unwritable (stated printable)⟩
  refine (gives_print _ progress _).bind fun _ _ => ?_
  refine (number region.count _ Printable.count).bind fun count _ => ?_
  refine (gives_print _ _ _).bind fun _ _ => ?_
  refine (number region.elementLength _ Printable.elementLength).bind fun elementLength _ => ?_
  refine (gives_print _ _ _).bind fun _ _ => ?_
  refine (number region.length _ Printable.length).bind fun length _ => ?_
  refine (gives_print _ _ _).bind fun _ _ => ?_
  have segments : ∀ middle : Progress, Gives (region.layout.mapM fun segment => do
      pure (segment.name ++ "(" ++ (← decimal segment.length) ++ ")")) middle
      (fun _ => ∀ segment ∈ region.layout, Text.isWritable segment.length = true)
      (fun fault => fault = .space .tooManyDigits ∧ ¬ Printable region) := by
    intro middle
    refine .mapM region.layout fun segment member later => ?_
    refine (number segment.length later fun printable => ?_).bind fun writable _ => ?_
    · exact printable.segments segment member
    · exact .pure writable
  refine (segments _).bind fun segments _ => ?_
  have printable : Printable region := ⟨count, elementLength, length, segments⟩
  refine (gives_print _ _ _).bind fun _ _ => ?_
  split
  · exact .pure printable
  · exact (gives_print _ _ _).imp (fun _ => printable) id

/-- The elements of an array with a plain layout are printed from address zero on. -/
theorem gives_printElements {region : ArrayRegion} (plain : region.layout.Plain)
    (nonneg : 0 ≤ region.start) (space : Space) (progress : Progress)
    (fails : CommandFault → Prop) :
    Gives (printElements space region) progress (fun _ => True) fails := by
  rw [printElements, region.serialize_eq plain nonneg]
  exact gives_printText _ progress fails

/-- Where an address falls inside an array is printed, or what is in the way is
reported. -/
theorem gives_printOffset (region : ArrayRegion) (address : Nat) (progress : Progress) :
    Gives (printOffset region address) progress (fun _ => True)
      (fun fault => fault.isReported = true) := by
  have translated : ∀ middle : Progress,
      Gives (Command.orFail .space (region.toOffset address)) middle (fun _ => True)
        (fun fault => fault.isReported = true) := by
    intro middle
    refine .orFail (fun _ => trivial) ?_
    intro cause outside
    rw [ArrayRegion.toOffset] at outside
    split at outside
    · cases outside
    · cases outside
      rfl
  refine (translated progress).bind fun _ _ => ?_
  refine (gives_number _ _).bind fun _ _ => ?_
  exact (gives_number _ _).bind fun _ _ => gives_print _ _ _

/-- What is anchored is printed, or a number with too many digits is reported. -/
theorem gives_printAnchored (name : String) (region : Region) (progress : Progress) :
    Gives (printAnchored name region) progress (fun _ => True)
      (fun fault => fault.isReported = true) := by
  exact (gives_number region.length progress).bind fun _ _ => gives_print _ _ _

end CommandLine.Command

end ImageAtlas
