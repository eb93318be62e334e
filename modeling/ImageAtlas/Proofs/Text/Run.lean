import ImageAtlas.Text.Alphanumeric
import ImageAtlas.Text.Character

/-!
# Runs of characters

A run of characters of one class that the text behind it does not continue is
found whole by taking characters while they are of that class. Blanks are neither
alphanumeric nor digits, so runs of these classes end at each other. Stripping
takes one run of blanks from either end.
-/

namespace ImageAtlas.Text

/-- A text does not go on with a character of a class. -/
def StopsAt (kind : Char → Bool) (rest : List Char) : Prop :=
  ∀ character ∈ rest.head?, kind character = false

variable {kind : Char → Bool} {run rest : List Char}

/-- A text that has no more characters does not go on. -/
@[simp] theorem stopsAt_nil (kind : Char → Bool) : StopsAt kind [] := by
  intro character first
  simp at first

/-- Whether a text goes on is seen from its first character. -/
@[simp] theorem stopsAt_cons (kind : Char → Bool) (first : Char) (rest : List Char) :
    StopsAt kind (first :: rest) ↔ kind first = false := by
  simp [StopsAt]

/-- What is left when a run was dropped does not continue it. -/
theorem stopsAt_dropWhile (kind : Char → Bool) (text : List Char) :
    StopsAt kind (text.dropWhile kind) := by
  intro character first
  have stopped := List.head?_dropWhile_not kind text
  rw [Option.mem_def.1 first] at stopped
  exact stopped

/-- A run that is not continued is taken whole. -/
theorem takeWhile_run (inside : ∀ character ∈ run, kind character = true)
    (stop : StopsAt kind rest) : (run ++ rest).takeWhile kind = run := by
  rw [List.takeWhile_append_of_pos inside]
  cases rest with
  | nil => simp
  | cons first rest =>
      rw [stopsAt_cons] at stop
      simp [stop]

/-- Dropping a run that is not continued leaves what is behind it. -/
theorem dropWhile_run (inside : ∀ character ∈ run, kind character = true)
    (stop : StopsAt kind rest) : (run ++ rest).dropWhile kind = rest := by
  rw [List.dropWhile_append_of_pos inside]
  cases rest with
  | nil => rfl
  | cons first rest =>
      rw [stopsAt_cons] at stop
      simp [stop]

/-- A text begins with one run of a class only. -/
theorem run_unique {otherRun otherRest : List Char}
    (inside : ∀ character ∈ run, kind character = true) (stop : StopsAt kind rest)
    (otherInside : ∀ character ∈ otherRun, kind character = true)
    (otherStop : StopsAt kind otherRest) (same : run ++ rest = otherRun ++ otherRest) :
    run = otherRun ∧ rest = otherRest := by
  constructor
  · rw [← takeWhile_run inside stop, same, takeWhile_run otherInside otherStop]
  · rw [← dropWhile_run inside stop, same, dropWhile_run otherInside otherStop]

/-- Every text is a run of a class, perhaps an empty one, and what follows it. -/
theorem exists_run (kind : Char → Bool) (text : List Char) :
    ∃ run, (∀ character ∈ run, kind character = true) ∧
      text = run ++ text.dropWhile kind := by
  refine ⟨text.takeWhile kind, ?_, List.takeWhile_append_dropWhile.symm⟩
  intro character member
  exact List.all_eq_true.1 List.all_takeWhile character member

/-- A code point is not in two tables whose ranges lie apart. -/
theorem inRanges_eq_false_of_apart {ranges others : List (Nat × Nat)}
    (apart : ∀ range ∈ ranges, ∀ other ∈ others, range.2 < other.1 ∨ other.2 < range.1)
    {code : Nat} (found : inRanges code ranges = true) : inRanges code others = false := by
  refine Bool.eq_false_iff.2 fun otherFound => ?_
  obtain ⟨range, member, lower, upper⟩ := exists_range_of_inRanges found
  obtain ⟨other, otherMember, otherLower, otherUpper⟩ := exists_range_of_inRanges otherFound
  have between := apart range member other otherMember
  omega

/-- A digit is at most nine behind a zero. -/
theorem exists_zero_of_valueUnder {code value : Nat} {zeros : List Nat}
    (found : valueUnder code zeros = some value) :
    ∃ base ∈ zeros, base ≤ code ∧ code < base + 10 := by
  induction zeros with
  | nil => simp [valueUnder] at found
  | cons base rest inductionHypothesis =>
      rw [valueUnder] at found
      split at found
      · cases found
      · split at found
        · exact ⟨base, List.mem_cons_self, by omega, by omega⟩
        · obtain ⟨other, member, bounds⟩ := inductionHypothesis found
          exact ⟨other, List.mem_cons_of_mem _ member, bounds⟩

/-- A blank is not alphanumeric. -/
theorem not_alphanumeric_of_blank {character : Char} (blank : isBlank character = true) :
    isAlphanumeric character = false := by
  refine inRanges_eq_false_of_apart ?_ blank
  decide +kernel

/-- A blank is not a digit. -/
theorem not_decimal_of_blank {character : Char} (blank : isBlank character = true) :
    isDecimal character = false := by
  refine Bool.eq_false_iff.2 fun decimal => ?_
  obtain ⟨value, found⟩ := Option.isSome_iff_exists.1 decimal
  obtain ⟨range, member, lower, upper⟩ := exists_range_of_inRanges blank
  obtain ⟨base, baseMember, baseLower, baseUpper⟩ := exists_zero_of_valueUnder found
  have apart : ∀ range ∈ blankRanges, ∀ base ∈ digitZeros,
      range.2 < base ∨ base + 10 ≤ range.1 := by
    decide +kernel
  have between := apart range member base baseMember
  omega

/-- An alphanumeric character is not blank. -/
theorem not_blank_of_alphanumeric {character : Char}
    (alphanumeric : isAlphanumeric character = true) : isBlank character = false := by
  refine Bool.eq_false_iff.2 fun blank => ?_
  rw [not_alphanumeric_of_blank blank] at alphanumeric
  cases alphanumeric

/-- A digit is not blank. -/
theorem not_blank_of_decimal {character : Char} (decimal : isDecimal character = true) :
    isBlank character = false := by
  refine Bool.eq_false_iff.2 fun blank => ?_
  rw [not_decimal_of_blank blank] at decimal
  cases decimal

/-- A text that a character of another class follows does not go on either. -/
theorem stopsAt_append_cons {other : Char} (stop : StopsAt kind run)
    (outside : kind other = false) : StopsAt kind (run ++ other :: rest) := by
  cases run with
  | nil => exact (stopsAt_cons kind other rest).2 outside
  | cons first run => exact (stopsAt_cons kind first _).2 ((stopsAt_cons kind first run).1 stop)

/-- Stripping the front drops a run of blanks. -/
theorem stripFront_run (blank : ∀ character ∈ run, isBlank character = true)
    (stop : StopsAt isBlank rest) : stripFront (run ++ rest) = rest :=
  dropWhile_run blank stop

variable {front back : List Char} {middle : Char}

/-- Stripping the front goes no further than a character that is not blank. -/
theorem stripFront_append_cons (solid : isBlank middle = false) :
    stripFront (front ++ middle :: back) = stripFront front ++ middle :: back := by
  obtain ⟨blanks, blank, split⟩ := exists_run isBlank front
  rw [← stripFront] at split
  have stop : StopsAt isBlank (stripFront front ++ middle :: back) :=
    stopsAt_append_cons (stopsAt_dropWhile isBlank front) solid
  calc
    stripFront (front ++ middle :: back)
        = stripFront (blanks ++ (stripFront front ++ middle :: back)) := by
          rw [← List.append_assoc, ← split]
    _ = stripFront front ++ middle :: back := stripFront_run blank stop

/-- Stripping the back goes no further than a character that is not blank. -/
theorem stripBack_append_cons (solid : isBlank middle = false) :
    stripBack (front ++ middle :: back) = front ++ middle :: stripBack back := by
  have reversed := @stripFront_append_cons back.reverse front.reverse middle solid
  rw [stripFront, stripFront] at reversed
  simp [stripBack, reversed]

/-- Around a character that is not blank, each end is stripped by itself. -/
theorem strip_append_cons (solid : isBlank middle = false) :
    strip (front ++ middle :: back) = stripFront (front ++ middle :: stripBack back) := by
  rw [strip, stripFront_append_cons solid, stripBack_append_cons solid,
    stripFront_append_cons solid]

/-- Nothing is left of blanks. -/
theorem stripBack_blanks (blank : ∀ character ∈ run, isBlank character = true) :
    stripBack run = [] := by
  have reversed : ∀ character ∈ run.reverse, isBlank character = true :=
    fun character member => blank character (List.mem_reverse.1 member)
  have dropped := dropWhile_run reversed (stopsAt_nil isBlank)
  rw [List.append_nil] at dropped
  rw [stripBack, dropped]
  rfl

/-- Stripping the back takes a run of blanks away. -/
theorem exists_stripBack (text : List Char) :
    ∃ blanks, (∀ character ∈ blanks, isBlank character = true) ∧
      text = stripBack text ++ blanks := by
  obtain ⟨blanks, blank, split⟩ := exists_run isBlank text.reverse
  refine ⟨blanks.reverse, fun character member => blank character (List.mem_reverse.1 member), ?_⟩
  rw [stripBack, ← List.reverse_append, ← split, List.reverse_reverse]

/-- Stripping takes a run of blanks away from either end. -/
theorem exists_strip (text : List Char) :
    ∃ blanks after, (∀ character ∈ blanks, isBlank character = true) ∧
      (∀ character ∈ after, isBlank character = true) ∧
      text = blanks ++ (strip text ++ after) := by
  obtain ⟨blanks, blank, split⟩ := exists_run isBlank text
  obtain ⟨after, afterBlank, afterSplit⟩ := exists_stripBack (stripFront text)
  refine ⟨blanks, after, blank, afterBlank, ?_⟩
  rw [strip, ← afterSplit]
  exact split

/-- What does not go on and is stripped at the back still does not go on. -/
theorem stopsAt_stripBack (stop : StopsAt kind rest) : StopsAt kind (stripBack rest) := by
  obtain ⟨blanks, -, split⟩ := exists_stripBack rest
  intro character first
  refine stop character ?_
  rw [split, List.head?_append, Option.mem_def.1 first]
  rfl

/-- Nothing is stripped from a text without blanks. -/
theorem strip_eq_self {text : List Char}
    (solid : ∀ character ∈ text, isBlank character = false) : strip text = text := by
  have front : StopsAt isBlank text := fun character first =>
    solid character (List.mem_of_mem_head? first)
  have back : StopsAt isBlank text.reverse := fun character first =>
    solid character (List.mem_reverse.1 (List.mem_of_mem_head? first))
  have kept : stripFront text = text := dropWhile_run (List.forall_mem_nil _) front
  have reversed : text.reverse.dropWhile isBlank = text.reverse :=
    dropWhile_run (List.forall_mem_nil _) back
  rw [strip, kept, stripBack, reversed, List.reverse_reverse]

end ImageAtlas.Text
