import ImageAtlas.Proofs.Json.Number
import ImageAtlas.Proofs.Json.Text

/-!
# Values read back

What is written of a value ends where a line or a comma follows, and up to there it is read
back as the value, by induction on the value: a list item by item and a table entry by
entry, each behind the beginning of its line. The reader has a step for every character, so
its fuel is enough. `read_write` says this of a whole text.
-/

namespace ImageAtlas

/-- A value that JSON can hold as it is: its whole numbers are writable, its texts have
characters alone, and its tables hold no key twice. -/
inductive Value.Storable : Value → Prop where
  | null : Storable .null
  | bool (value : Bool) : Storable (.bool value)
  | integer {value : Int} (writable : Text.isWritable value = true) : Storable (.integer value)
  | real (value : Binary64) : Storable (.real value)
  | text (value : String) : Storable (.text value)
  | list {items : List Value} (each : ∀ item ∈ items, Storable item) : Storable (.list items)
  | table {entries : Entries} (each : ∀ entry ∈ entries, Storable entry.2)
      (distinct : (entries.map Prod.fst).Nodup) : Storable (.table entries)

namespace Json

open ImageAtlas.Text

/-- Spaces between parts are skipped. -/
theorem skip_cons_of_space {first : Char} (space : isSpace first = true) (rest : List Char) :
    skip (first :: rest) = skip rest := by
  rw [skip, List.dropWhile_cons_of_pos space, skip]

/-- What is no space is not skipped. -/
theorem skip_cons_of_solid {first : Char} (solid : isSpace first = false) (rest : List Char) :
    skip (first :: rest) = first :: rest := by
  rw [skip, List.dropWhile_cons_of_neg (by rw [solid]; exact Bool.noConfusion)]

/-- The beginning of a line is skipped. -/
theorem skip_newLine (depth : Nat) (behind : List Char) :
    skip (newLine depth behind) = skip behind := by
  have spaces : ∀ count, skip (Nat.repeat (' ' :: ·) count behind) = skip behind := by
    intro count
    induction count with
    | zero => rfl
    | succ count inductionHypothesis =>
        rw [Nat.repeat, skip_cons_of_space rfl, inductionHypothesis]
  rw [newLine, skip_cons_of_space rfl, spaces]

/-- A line is longer than what stands on it. -/
theorem length_lt_newLine (depth : Nat) (behind : List Char) :
    behind.length < (newLine depth behind).length := by
  have spaces : ∀ count, behind.length ≤ (Nat.repeat (' ' :: ·) count behind).length := by
    intro count
    induction count with
    | zero => exact Nat.le_refl _
    | succ count inductionHypothesis =>
        rw [Nat.repeat, List.length_cons]
        omega
  rw [newLine, List.length_cons]
  exact Nat.lt_succ_of_le (spaces _)

/-- No number goes on in the next line. -/
theorem endsNumber_newLine (depth : Nat) (behind : List Char) :
    EndsNumber (newLine depth behind) :=
  endsNumber_cons (by decide)

/-- No value begins with a space or with the end of a list. -/
theorem solid_of_readValue {fuel : Nat} {characters : List Char} {result : Value × List Char}
    (read : readValue fuel characters = .ok result) :
    ∃ first rest, characters = first :: rest ∧ isSpace first = false ∧ first ≠ ']' := by
  cases fuel with
  | zero => cases read
  | succ fuel =>
      cases characters with
      | nil => cases read
      | cons first rest =>
          refine ⟨first, rest, rfl, ?_, ?_⟩
          · by_contra space
            simp only [isSpace, Bool.not_eq_false, Bool.or_eq_true, beq_iff_eq] at space
            rcases space with ((rfl | rfl) | rfl) | rfl
            all_goals cases read
          · rintro rfl
            cases read

/-- What is written of a value is longer than what stands behind it, and is read back as the
value up to there. -/
structure ReadsBack (value : Value) : Prop where
  longer : ∀ depth behind, behind.length < (writeAt depth value behind).length
  read : ∀ depth {behind fuel}, EndsNumber behind → (writeAt depth value behind).length ≤ fuel →
    readValue fuel (writeAt depth value behind) = .ok (value, behind)

/-- Nothing is skipped in front of what is read back. -/
theorem ReadsBack.skip_writeAt {value : Value} (back : ReadsBack value) (depth : Nat)
    {behind : List Char} (ends : EndsNumber behind) :
    skip (writeAt depth value behind) = writeAt depth value behind := by
  obtain ⟨first, rest, written, solid, -⟩ := solid_of_readValue (back.read depth ends le_rfl)
  rw [written, skip_cons_of_solid solid]

/-- What is read as a number in one piece is read as a value. -/
theorem readValue_of_digits {characters : List Char} {result : Value × List Char}
    (read : readNumber false characters = .ok result) (fuel : Nat) :
    readValue (fuel + 1) characters = .ok result := by
  obtain ⟨first, rest, rfl, digit⟩ := exists_digit_of_readNumber read
  rw [readValue]
  · rw [if_pos digit, read]
  all_goals
    rintro rfl
    cases digit

/-- What is read as a number behind a minus sign is read as a value. -/
theorem readValue_of_minus {characters : List Char} {result : Value × List Char}
    (read : readNumber true characters = .ok result) (fuel : Nat) :
    readValue (fuel + 1) ('-' :: characters) = .ok result := by
  obtain ⟨first, rest, rfl, digit⟩ := exists_digit_of_readNumber read
  rw [readValue]
  · exact read
  · rintro _ ⟨⟩
    cases digit

/-- What is written of a value without parts is read back. -/
theorem ReadsBack.of_piece {value : Value} (piece : List Char) (some : piece ≠ [])
    (written : ∀ depth behind, writeAt depth value behind = piece ++ behind)
    (read : ∀ {behind} fuel, EndsNumber behind →
      readValue (fuel + 1) (piece ++ behind) = .ok (value, behind)) : ReadsBack value where
  longer depth behind := by
    have positive := List.length_pos_iff.2 some
    rw [written, List.length_append]
    omega
  read depth behind fuel ends enough := by
    have positive := List.length_pos_iff.2 some
    rw [written, List.length_append] at enough
    obtain ⟨fuel, rfl⟩ := Nat.exists_eq_succ_of_ne_zero (n := fuel) (by omega)
    rw [written]
    exact read fuel ends

/-- What is written of a value with parts is read back: a mark opens it, and in the next line
stands what is inside. -/
theorem ReadsBack.of_opened {value : Value} (opening : Char)
    (inner : Nat → List Char → List Char)
    (written : ∀ depth behind,
      writeAt depth value behind = opening :: newLine (depth + 1) (inner depth behind))
    (longer : ∀ depth behind, behind.length < (inner depth behind).length)
    (read : ∀ depth behind fuel, (inner depth behind).length < fuel →
      readValue (fuel + 1) (opening :: newLine (depth + 1) (inner depth behind))
        = .ok (value, behind)) : ReadsBack value where
  longer depth behind := by
    have line := length_lt_newLine (depth + 1) (inner depth behind)
    have inside := longer depth behind
    rw [written, List.length_cons]
    omega
  read depth behind fuel _ enough := by
    have line := length_lt_newLine (depth + 1) (inner depth behind)
    rw [written, List.length_cons] at enough
    obtain ⟨fuel, rfl⟩ := Nat.exists_eq_succ_of_ne_zero (n := fuel) (by omega)
    rw [written]
    exact read depth behind fuel (by omega)

/-- Nothing is read back. -/
theorem readsBack_null : ReadsBack .null :=
  .of_piece "null".toList (by decide) (fun _ _ => rfl) fun _ _ => rfl

/-- A truth value is read back. -/
theorem readsBack_bool (value : Bool) : ReadsBack (.bool value) := by
  cases value with
  | false => exact .of_piece "false".toList (by decide) (fun _ _ => rfl) fun _ _ => rfl
  | true => exact .of_piece "true".toList (by decide) (fun _ _ => rfl) fun _ _ => rfl

/-- A whole number is read back if it is writable. -/
theorem readsBack_integer {value : Int} (writable : isWritable value = true) :
    ReadsBack (.integer value) := by
  have part := wholePart_decimalCharacters value.natAbs
  have short : (decimalCharacters value.natAbs).length ≤ numeralLimit := by
    rw [length_decimalCharacters_le_iff, isWritable, Int.natAbs_natCast]
    exact writable
  by_cases negative : value < 0
  · refine .of_piece ('-' :: decimalCharacters value.natAbs) (List.cons_ne_nil _ _) ?_ ?_
    · intro depth behind
      rw [writeAt, decimal, if_pos negative, String.toList_ofList]
    · intro behind fuel ends
      have read := readNumber_whole true part short ends
      rw [decimalValue_decimalCharacters, if_pos rfl, Int.ofNat_natAbs_of_nonpos negative.le,
        Int.neg_neg] at read
      exact readValue_of_minus read fuel
  · refine .of_piece (decimalCharacters value.natAbs) part.nonempty ?_ ?_
    · intro depth behind
      rw [writeAt, decimal, if_neg negative, String.toList_ofList]
    · intro behind fuel ends
      have read := readNumber_whole false part short ends
      rw [decimalValue_decimalCharacters, if_neg Bool.false_ne_true,
        Int.natAbs_of_nonneg (Int.not_lt.1 negative)] at read
      exact readValue_of_digits read fuel

/-- The text of a finite number is a sign, if the number has one, and a body that is read
back as the number. -/
theorem exists_body (negative : Bool) (exponentField : Fin 2047) (fraction : Fin implicitBit) :
    ∃ body, (Binary64.finite negative exponentField fraction).shortest.toList
        = (if negative then '-' :: body else body) ∧
      ∀ {behind}, EndsNumber behind → readNumber negative (body ++ behind)
        = .ok (.real (.finite negative exponentField fraction), behind) := by
  refine ⟨_, String.toList_ofList, ?_⟩
  intro behind ends
  split
  · rename_i zero
    exact readNumber_zero zero negative ends
  · rename_i nonzero
    exact readNumber_shortestForm (Nat.pos_of_ne_zero nonzero) negative ends

/-- A floating-point number is read back. -/
theorem readsBack_real (value : Binary64) : ReadsBack (.real value) := by
  cases value with
  | nan => exact .of_piece "NaN".toList (by decide) (fun _ _ => rfl) fun _ _ => rfl
  | infinite negative =>
      cases negative with
      | false => exact .of_piece "Infinity".toList (by decide) (fun _ _ => rfl) fun _ _ => rfl
      | true => exact .of_piece "-Infinity".toList (by decide) (fun _ _ => rfl) fun _ _ => rfl
  | finite negative exponentField fraction =>
      obtain ⟨body, spelled, read⟩ := exists_body negative exponentField fraction
      have written : ∀ depth behind,
          writeAt depth (.real (.finite negative exponentField fraction)) behind
            = (if negative then '-' :: body else body) ++ behind :=
        fun _ behind => congrArg (· ++ behind) spelled
      cases negative with
      | false =>
          have nonempty : body ≠ [] := by
            rintro rfl
            have ends : EndsNumber [] := fun _ none => nomatch none
            have alone := read ends
            cases alone
          exact .of_piece body nonempty written fun fuel ends =>
            readValue_of_digits (read ends) fuel
      | true =>
          exact .of_piece ('-' :: body) (List.cons_ne_nil _ _) written fun fuel ends =>
            readValue_of_minus (read ends) fuel

/-- What is written of a text is longer than what stands behind it. -/
theorem length_lt_writeText (text : String) (behind : List Char) :
    behind.length < (writeText text behind).length := by
  have longer : ∀ characters : List Char, behind.length < (characters.foldr
      (fun character rest => writeCharacter character ++ rest) ('"' :: behind)).length := by
    intro characters
    induction characters with
    | nil => exact Nat.lt_succ_self _
    | cons character rest inductionHypothesis =>
        rw [List.foldr_cons, List.length_append]
        omega
  rw [writeText, List.length_cons]
  exact Nat.lt_succ_of_lt (longer _)

/-- A text is read back. -/
theorem readsBack_text (text : String) : ReadsBack (.text text) where
  longer depth behind := by
    rw [writeAt]
    exact length_lt_writeText text behind
  read depth behind fuel ends enough := by
    rw [writeAt] at enough ⊢
    have some := length_lt_writeText text behind
    obtain ⟨fuel, rfl⟩ := Nat.exists_eq_succ_of_ne_zero (n := fuel) (by omega)
    obtain ⟨inside, written, read⟩ := readText_writeText text behind enough
    rw [written, readValue, read]
    exact congrArg (fun value => Except.ok (value, behind)) (ofCodes_codesOf text)

section Lists

variable {depth : Nat} {first : Value} {items : List Value} {behind : List Char}

/-- The items of a list from one on, up to the end of the list and what stands behind it. -/
def inList (depth : Nat) (first : Value) (items : List Value) (behind : List Char) : List Char :=
  writeAt (depth + 1) first (writeItems (depth + 1) items (newLine depth (']' :: behind)))

/-- A list begins in a line of its own. -/
theorem writeAt_list (depth : Nat) (first : Value) (items : List Value) (behind : List Char) :
    writeAt depth (.list (first :: items)) behind
      = '[' :: newLine (depth + 1) (inList depth first items behind) := by
  rw [writeAt, inList]

/-- The next item of a list stands behind a comma, in a line of its own. -/
theorem inList_cons (depth : Nat) (first next : Value) (items : List Value)
    (behind : List Char) :
    inList depth first (next :: items) behind = writeAt (depth + 1) first
      (',' :: newLine (depth + 1) (inList depth next items behind)) := by
  rw [inList, writeItems, inList]

/-- What is written from one item on is longer than what is written from the next one on. -/
theorem length_inList_lt (back : ReadsBack first) (next : Value) (items : List Value) :
    (inList depth next items behind).length
      < (inList depth first (next :: items) behind).length := by
  have line := length_lt_newLine (depth + 1) (inList depth next items behind)
  have longer := back.longer (depth + 1)
    (',' :: newLine (depth + 1) (inList depth next items behind))
  rw [List.length_cons] at longer
  rw [inList_cons]
  omega

/-- What is written of a list is longer than what stands behind it. -/
theorem length_lt_inList (back : ReadsBack first) (each : ∀ item ∈ items, ReadsBack item) :
    behind.length < (inList depth first items behind).length := by
  induction items generalizing first with
  | nil =>
      have line := length_lt_newLine depth (']' :: behind)
      have longer := back.longer (depth + 1) (newLine depth (']' :: behind))
      rw [List.length_cons] at line
      rw [inList, writeItems]
      omega
  | cons next rest inductionHypothesis =>
      obtain ⟨nextBack, restBack⟩ := List.forall_mem_cons.1 each
      exact (inductionHypothesis nextBack restBack).trans (length_inList_lt back next rest)

/-- A list from an item on begins as the item does, and nothing is skipped in front of it. -/
theorem exists_inList (back : ReadsBack first) (depth : Nat) (items : List Value)
    (behind : List Char) :
    ∃ mark rest, inList depth first items behind = mark :: rest ∧ mark ≠ ']' ∧
      skip (inList depth first items behind) = inList depth first items behind := by
  have ends : EndsNumber (writeItems (depth + 1) items (newLine depth (']' :: behind))) := by
    cases items with
    | nil => exact endsNumber_newLine depth _
    | cons next rest => exact endsNumber_cons (by decide)
  obtain ⟨mark, rest, written, solid, unclosed⟩ :=
    solid_of_readValue (back.read (depth + 1) ends le_rfl)
  refine ⟨mark, rest, written, unclosed, ?_⟩
  rw [inList, written, skip_cons_of_solid solid]

/-- Items that are written are read back up to the end of their list. -/
theorem readItems_inList (back : ReadsBack first) (each : ∀ item ∈ items, ReadsBack item)
    {fuel : Nat} (before : List Value)
    (enough : (inList depth first items behind).length < fuel) :
    readItems fuel before (inList depth first items behind)
      = .ok (before.reverse ++ first :: items, behind) := by
  induction items generalizing first fuel before with
  | nil =>
      obtain ⟨fuel, rfl⟩ := Nat.exists_eq_succ_of_ne_zero (n := fuel) (by omega)
      have closed : isSpace ']' = false := by decide
      have read := back.read (depth + 1) (endsNumber_newLine depth (']' :: behind))
        (Nat.le_of_lt_succ enough)
      rw [readItems, inList, writeItems, read]
      simp only [bind, Except.bind, skip_newLine, skip_cons_of_solid closed, pure, Except.pure,
        List.reverse_cons]
  | cons next rest inductionHypothesis =>
      obtain ⟨fuel, rfl⟩ := Nat.exists_eq_succ_of_ne_zero (n := fuel) (by omega)
      obtain ⟨nextBack, restBack⟩ := List.forall_mem_cons.1 each
      have comma : isSpace ',' = false := by decide
      have ends : EndsNumber (',' :: newLine (depth + 1) (inList depth next rest behind)) :=
        endsNumber_cons (by decide)
      have shorter : (inList depth next rest behind).length < fuel :=
        (length_inList_lt back next rest).trans_le (Nat.le_of_lt_succ enough)
      have others := inductionHypothesis nextBack restBack (first :: before) shorter
      obtain ⟨-, -, -, -, skipped⟩ := exists_inList nextBack depth rest behind
      rw [inList_cons] at enough ⊢
      rw [readItems, back.read (depth + 1) ends (Nat.le_of_lt_succ enough)]
      simp only [bind, Except.bind, skip_cons_of_solid comma, skip_newLine, skipped, others,
        List.reverse_cons, List.append_assoc, List.singleton_append]

/-- A list is read back if its items are. -/
theorem readsBack_list (each : ∀ item ∈ items, ReadsBack item) : ReadsBack (.list items) := by
  cases items with
  | nil =>
      exact .of_piece ['[', ']'] (by decide) (fun _ _ => by rw [writeAt]; rfl) fun _ _ => rfl
  | cons first rest =>
      obtain ⟨back, restBack⟩ := List.forall_mem_cons.1 each
      refine .of_opened '[' (fun depth => inList depth first rest)
        (fun depth => writeAt_list depth first rest)
        (fun _ _ => length_lt_inList back restBack) ?_
      intro depth behind fuel enough
      have read := readItems_inList back restBack [] enough
      obtain ⟨mark, inside, written, unclosed, skipped⟩ := exists_inList back depth rest behind
      rw [readValue, skip_newLine, skipped]
      rw [written] at read ⊢
      split
      · rename_i same
        exact absurd (List.cons.inj same).1 unclosed
      · rw [read]
        rfl

end Lists

section Tables

variable {depth : Nat} {key : String} {value : Value} {entries : Entries} {behind : List Char}

/-- The entries of a table, with the code points of their keys. -/
def coded (entries : Entries) : List (List Nat × Value) :=
  entries.map fun entry => (Value.codesOf entry.1, entry.2)

/-- A key that is not there is put behind the others. -/
theorem put_of_not_mem {key : List Nat} {before : List (List Nat × Value)}
    (absent : key ∉ before.map Prod.fst) :
    Entries.put key value before = before ++ [(key, value)] := by
  induction before with
  | nil => rfl
  | cons entry rest inductionHypothesis =>
      rw [List.map_cons, List.mem_cons, not_or] at absent
      rw [Entries.put, if_neg (Ne.symm absent.1), inductionHypothesis absent.2, List.cons_append]

/-- The entries of a table from one on, up to the end of the table and what stands behind
it. -/
def inTable (depth : Nat) (key : String) (value : Value) (entries : Entries)
    (behind : List Char) : List Char :=
  writeText key (':' :: ' ' :: writeAt (depth + 1) value
    (writeEntries (depth + 1) entries (newLine depth ('\x7d' :: behind))))

/-- A table begins in a line of its own. -/
theorem writeAt_table (depth : Nat) (key : String) (value : Value) (entries : Entries)
    (behind : List Char) :
    writeAt depth (.table ((key, value) :: entries)) behind
      = '\x7b' :: newLine (depth + 1) (inTable depth key value entries behind) := by
  rw [writeAt, inTable]

/-- The next entry of a table stands behind a comma, in a line of its own. -/
theorem inTable_cons (depth : Nat) (key : String) (value : Value) (next : String × Value)
    (entries : Entries) (behind : List Char) :
    inTable depth key value (next :: entries) behind
      = writeText key (':' :: ' ' :: writeAt (depth + 1) value
          (',' :: newLine (depth + 1) (inTable depth next.1 next.2 entries behind))) := by
  rw [inTable, writeEntries, inTable]

/-- An entry is longer than what stands behind it. -/
theorem length_lt_entry (back : ReadsBack value) (key : String) (depth : Nat)
    (behind : List Char) :
    behind.length < (writeText key (':' :: ' ' :: writeAt depth value behind)).length := by
  have keyed := length_lt_writeText key (':' :: ' ' :: writeAt depth value behind)
  have longer := back.longer depth behind
  rw [List.length_cons, List.length_cons] at keyed
  omega

/-- What is written from one entry on is longer than what is written from the next one on. -/
theorem length_inTable_lt (back : ReadsBack value) (key : String) (next : String × Value)
    (entries : Entries) :
    (inTable depth next.1 next.2 entries behind).length
      < (inTable depth key value (next :: entries) behind).length := by
  have line := length_lt_newLine (depth + 1) (inTable depth next.1 next.2 entries behind)
  have longer := length_lt_entry back key (depth + 1)
    (',' :: newLine (depth + 1) (inTable depth next.1 next.2 entries behind))
  rw [List.length_cons] at longer
  rw [inTable_cons]
  omega

/-- What is written of a table is longer than what stands behind it. -/
theorem length_lt_inTable (back : ReadsBack value) (key : String)
    (each : ∀ entry ∈ entries, ReadsBack entry.2) :
    behind.length < (inTable depth key value entries behind).length := by
  induction entries generalizing key value with
  | nil =>
      have line := length_lt_newLine depth ('\x7d' :: behind)
      have longer := length_lt_entry back key (depth + 1) (newLine depth ('\x7d' :: behind))
      rw [List.length_cons] at line
      rw [inTable, writeEntries]
      omega
  | cons next rest inductionHypothesis =>
      obtain ⟨nextBack, restBack⟩ := List.forall_mem_cons.1 each
      exact (inductionHypothesis nextBack next.1 restBack).trans
        (length_inTable_lt back key next rest)

/-- Nothing is skipped in front of an entry. -/
theorem skip_inTable (depth : Nat) (key : String) (value : Value) (entries : Entries)
    (behind : List Char) :
    skip (inTable depth key value entries behind) = inTable depth key value entries behind :=
  skip_cons_of_solid rfl _

/-- A key is new if it is not used twice. -/
theorem not_mem_of_distinct {before : List (List Nat × Value)}
    (distinct : ((before ++ coded ((key, value) :: entries)).map Prod.fst).Nodup) :
    Value.codesOf key ∉ before.map Prod.fst := by
  rw [List.map_append] at distinct
  exact fun member => List.disjoint_of_nodup_append distinct member List.mem_cons_self

/-- An entry that is written is read back under its key, which is new. At the end of the
table it is the last one, and behind a comma the next one is read. -/
theorem readEntries_entry (back : ReadsBack value) {before : List (List Nat × Value)}
    (absent : Value.codesOf key ∉ before.map Prod.fst) (ends : EndsNumber behind) {fuel : Nat}
    (enough : (writeText key (':' :: ' ' :: writeAt depth value behind)).length ≤ fuel)
    {mark : Char} {after : List Char} (marked : skip behind = mark :: after) :
    (mark = '\x7d' →
      readEntries (fuel + 1) before (writeText key (':' :: ' ' :: writeAt depth value behind))
        = .ok (before ++ [(Value.codesOf key, value)], after)) ∧
    (mark = ',' →
      readEntries (fuel + 1) before (writeText key (':' :: ' ' :: writeAt depth value behind))
        = readEntries fuel (before ++ [(Value.codesOf key, value)]) (skip after)) := by
  have colon : isSpace ':' = false := by decide
  have space : isSpace ' ' = true := by decide
  have keyed := length_lt_writeText key (':' :: ' ' :: writeAt depth value behind)
  rw [List.length_cons, List.length_cons] at keyed
  obtain ⟨inside, written, keyRead⟩ :=
    readText_writeText key (':' :: ' ' :: writeAt depth value behind) (Nat.le_succ_of_le enough)
  have valueRead := back.read depth ends (by omega : _ ≤ fuel)
  rw [written, readEntries, keyRead]
  constructor
  · rintro rfl
    simp only [bind, Except.bind, skip_cons_of_solid colon, skip_cons_of_space space,
      back.skip_writeAt depth ends, valueRead, put_of_not_mem absent, marked, pure, Except.pure]
  · rintro rfl
    simp only [bind, Except.bind, skip_cons_of_solid colon, skip_cons_of_space space,
      back.skip_writeAt depth ends, valueRead, put_of_not_mem absent, marked]

/-- Entries that are written are read back up to the end of their table. -/
theorem readEntries_inTable (back : ReadsBack value)
    (each : ∀ entry ∈ entries, ReadsBack entry.2) {fuel : Nat}
    (before : List (List Nat × Value))
    (distinct : ((before ++ coded ((key, value) :: entries)).map Prod.fst).Nodup)
    (enough : (inTable depth key value entries behind).length < fuel) :
    readEntries fuel before (inTable depth key value entries behind)
      = .ok (before ++ coded ((key, value) :: entries), behind) := by
  have absent := not_mem_of_distinct distinct
  induction entries generalizing key value fuel before with
  | nil =>
      obtain ⟨fuel, rfl⟩ := Nat.exists_eq_succ_of_ne_zero (n := fuel) (by omega)
      have closed : skip (newLine depth ('\x7d' :: behind)) = '\x7d' :: behind := by
        rw [skip_newLine, skip_cons_of_solid (by decide)]
      rw [inTable, writeEntries] at enough ⊢
      exact (readEntries_entry back absent (endsNumber_newLine depth _)
        (Nat.le_of_lt_succ enough) closed).1 rfl
  | cons next rest inductionHypothesis =>
      obtain ⟨fuel, rfl⟩ := Nat.exists_eq_succ_of_ne_zero (n := fuel) (by omega)
      obtain ⟨nextBack, restBack⟩ := List.forall_mem_cons.1 each
      have comma : skip (',' :: newLine (depth + 1) (inTable depth next.1 next.2 rest behind))
          = ',' :: newLine (depth + 1) (inTable depth next.1 next.2 rest behind) :=
        skip_cons_of_solid (by decide) _
      have ends : EndsNumber
          (',' :: newLine (depth + 1) (inTable depth next.1 next.2 rest behind)) :=
        endsNumber_cons (by decide)
      have shorter : (inTable depth next.1 next.2 rest behind).length < fuel :=
        (length_inTable_lt back key next rest).trans_le (Nat.le_of_lt_succ enough)
      have joined : before ++ coded ((key, value) :: next :: rest)
          = before ++ [(Value.codesOf key, value)] ++ coded (next :: rest) := by
        rw [List.append_assoc]
        rfl
      rw [joined] at distinct ⊢
      have others := inductionHypothesis nextBack restBack _ distinct shorter
        (not_mem_of_distinct distinct)
      rw [inTable_cons] at enough ⊢
      rw [(readEntries_entry back absent ends (Nat.le_of_lt_succ enough) comma).2 rfl,
        skip_newLine, skip_inTable, others]

/-- A table is read back if its values are and its keys are distinct. -/
theorem readsBack_table (each : ∀ entry ∈ entries, ReadsBack entry.2)
    (distinct : (entries.map Prod.fst).Nodup) : ReadsBack (.table entries) := by
  cases entries with
  | nil =>
      exact .of_piece ['\x7b', '\x7d'] (by decide) (fun _ _ => by rw [writeAt]; rfl)
        fun _ _ => rfl
  | cons entry rest =>
      obtain ⟨key, value⟩ := entry
      obtain ⟨back, restBack⟩ := List.forall_mem_cons.1 each
      have codes : ((coded ((key, value) :: rest)).map Prod.fst).Nodup := by
        have keys : (coded ((key, value) :: rest)).map Prod.fst
            = (((key, value) :: rest).map Prod.fst).map Value.codesOf := by
          rw [coded, List.map_map, List.map_map]
          rfl
        rw [keys]
        exact distinct.map codesOf_injective
      refine .of_opened '\x7b' (fun depth => inTable depth key value rest)
        (fun depth => writeAt_table depth key value rest)
        (fun _ _ => length_lt_inTable back key restBack) ?_
      intro depth behind fuel enough
      have read := readEntries_inTable back restBack [] codes enough
      rw [readValue, skip_newLine, skip_inTable]
      rw [inTable, writeText] at read ⊢
      split
      · rename_i same
        cases same
      · rw [read]
        exact congrArg (fun value => Except.ok (value, behind)) (ofCodeEntries_codesOf _)

end Tables

/-- What JSON can hold is read back. -/
theorem readsBack_of_storable {value : Value} (storable : value.Storable) : ReadsBack value := by
  induction storable with
  | null => exact readsBack_null
  | bool value => exact readsBack_bool value
  | integer writable => exact readsBack_integer writable
  | real value => exact readsBack_real value
  | text value => exact readsBack_text value
  | list _ inductionHypothesis => exact readsBack_list inductionHypothesis
  | table _ distinct inductionHypothesis => exact readsBack_table inductionHypothesis distinct

/-- The text of a value that JSON can hold is read as the value. -/
theorem read_write {value : Value} (storable : value.Storable) :
    read (write value) = .ok value := by
  have back := readsBack_of_storable storable
  have ends : EndsNumber [] := fun _ none => nomatch none
  have whole := back.read 0 ends (by omega : _ ≤ 2 * (writeAt 0 value []).length + 2)
  rw [read, write, String.toList_ofList, back.skip_writeAt 0 ends]
  simp only [whole]
  rfl

end Json

end ImageAtlas
