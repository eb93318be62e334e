import ImageAtlas.Element

/-!
# Elements that follow one another

In a plain layout every segment holds text and is at least one byte wide. Whether
the bytes at an address form an element of such a layout is always answered, and
an element lies inside the image. So the elements that follow one another from an
address on come to an end: there is one number of elements up to which all fit
while the next one does not, and counting gives it.
-/

namespace ImageAtlas

/-- The first index at which a test fails. -/
structure FirstFailure (test : Nat → Except Fault Bool) (count : Nat) : Prop where
  before : ∀ {index}, index < count → test index = .ok true
  here : test count = .ok false

variable {test : Nat → Except Fault Bool} {count : Nat}

/-- There is at most one first failure. -/
theorem FirstFailure.unique {other : Nat} (failure : FirstFailure test count)
    (otherFailure : FirstFailure test other) : count = other := by
  rcases Nat.lt_trichotomy count other with sooner | same | later
  · have held := otherFailure.before sooner
    rw [failure.here] at held
    cases held
  · exact same
  · have held := failure.before later
    rw [otherFailure.here] at held
    cases held

/-- A test that is always answered and fails somewhere has a first failure, not
behind that place. -/
theorem exists_firstFailure (answered : ∀ index, ∃ answer, test index = .ok answer)
    {stop : Nat} (fails : test stop = .ok false) :
    ∃ count, count ≤ stop ∧ FirstFailure test count := by
  induction stop using Nat.strongRecOn with
  | ind stop inductionHypothesis =>
      by_cases earlier : ∃ index, index < stop ∧ test index = .ok false
      · obtain ⟨index, before, failsEarlier⟩ := earlier
        obtain ⟨count, within, failure⟩ := inductionHypothesis index before failsEarlier
        exact ⟨count, Nat.le_trans within (Nat.le_of_lt before), failure⟩
      · refine ⟨stop, Nat.le_refl stop, ?_, fails⟩
        intro index before
        obtain ⟨answer, given⟩ := answered index
        cases answer with
        | false => exact absurd ⟨index, before, given⟩ earlier
        | true => exact given

/-- Counting stops at the first failure, or at the limit if that comes first. -/
theorem FirstFailure.countWhile_eq (failure : FirstFailure test count) {limit start : Nat}
    (reached : start ≤ count) :
    countWhile test limit start = .ok (min count (start + limit)) := by
  induction limit generalizing start with
  | zero => rw [countWhile, Nat.add_zero, Nat.min_eq_right reached]
  | succ limit inductionHypothesis =>
      rcases Nat.lt_or_eq_of_le reached with before | rfl
      · simp only [countWhile, failure.before before]
        rw [inductionHypothesis before, Nat.succ_add_eq_add_succ]
      · simp only [countWhile, failure.here]
        rw [Nat.min_eq_left (Nat.le_add_right _ _)]

namespace Layout

variable {layout : Layout} {codec : TextCodec} {image : Image} {address : Int}

/-- Every segment holds text and is at least one byte wide, and there are some. -/
structure Plain (layout : Layout) : Prop where
  ne_nil : layout ≠ []
  kind : ∀ segment ∈ layout, segment.kind = .delimitedText
  one_le_length : ∀ segment ∈ layout, 1 ≤ segment.length

/-- The segments behind the first one of a plain layout are plain, if there are any. -/
theorem Plain.tail {first : Segment} {rest : Layout} (plain : Plain (first :: rest))
    (nonempty : rest ≠ []) : Plain rest where
  ne_nil := nonempty
  kind segment member := plain.kind segment (List.mem_cons_of_mem _ member)
  one_le_length segment member := plain.one_le_length segment (List.mem_cons_of_mem _ member)

/-- No segment of a plain layout has a negative width. -/
theorem Plain.length_nonneg (plain : layout.Plain) :
    ∀ segment ∈ layout, 0 ≤ segment.length := fun segment member =>
  Int.le_trans (by decide) (plain.one_le_length segment member)

/-- An element of a plain layout has bytes. -/
theorem Plain.one_le_width (plain : layout.Plain) : 1 ≤ layout.width := by
  induction layout with
  | nil => exact absurd rfl plain.ne_nil
  | cons first rest inductionHypothesis =>
      have head := plain.one_le_length first List.mem_cons_self
      rw [width]
      by_cases last : rest = []
      · rw [last, width]
        omega
      · have behind := inductionHypothesis (plain.tail last)
        omega

/-- Whether a text fits is answered from address zero on. -/
theorem exists_textFits (codec : TextCodec) (image : Image) {start : Int} (length : Int)
    (alone : Bool) (nonneg : 0 ≤ start) :
    ∃ answer, textFits codec image start length alone = .ok answer := by
  obtain ⟨measured, found⟩ : ∃ measured, codec.measure image start length = .ok measured :=
    codec.measure_answers length nonneg
  simp only [textFits, found]
  cases measured with
  | none => exact ⟨false, rfl⟩
  | some consumed => exact ⟨_, rfl⟩

/-- Whether the segments of a plain layout fit is answered from address zero on. -/
theorem Plain.exists_segmentsFit (plain : layout.Plain) (codec : TextCodec) (image : Image)
    (alone : Bool) (nonneg : 0 ≤ address) :
    ∃ answer, segmentsFit codec image alone layout address = .ok answer := by
  induction layout generalizing address with
  | nil => exact absurd rfl plain.ne_nil
  | cons first rest inductionHypothesis =>
      have kind := plain.kind first List.mem_cons_self
      have length := plain.one_le_length first List.mem_cons_self
      obtain ⟨fits, answer⟩ := exists_textFits codec image first.length alone nonneg
      simp only [segmentsFit, kind, answer]
      split
      · exact ⟨false, rfl⟩
      · cases fits with
        | false => exact ⟨false, rfl⟩
        | true =>
            by_cases last : rest = []
            · rw [last]
              exact ⟨true, rfl⟩
            · exact inductionHypothesis (plain.tail last) (by omega)

/-- Whether the bytes at an address form an element of a plain layout is always
answered. -/
theorem Plain.exists_fits (plain : layout.Plain) (codec : TextCodec) (image : Image)
    (address : Int) : ∃ answer, layout.fits codec image address = .ok answer := by
  rw [fits]
  split
  · exact ⟨false, rfl⟩
  · exact plain.exists_segmentsFit codec image _ (by omega)

/-- Segments that fit end inside the image. -/
theorem stop_le_of_segmentsFit (nonempty : layout ≠ []) {alone : Bool}
    (fits : segmentsFit codec image alone layout address = .ok true) :
    address + layout.width ≤ image.size := by
  induction layout generalizing address with
  | nil => exact absurd rfl nonempty
  | cons first rest inductionHypothesis =>
      simp only [segmentsFit] at fits
      split at fits
      · cases fits
      · rename_i inside
        split at fits
        · cases fits
        · split at fits
          · cases fits
          · cases fits
          · rw [width]
            by_cases last : rest = []
            · rw [last, width]
              omega
            · have behind := inductionHypothesis last fits
              omega

/-- An element begins at address zero or behind it and ends inside the image. -/
theorem Plain.inside_of_fits (plain : layout.Plain)
    (fits : layout.fits codec image address = .ok true) :
    0 ≤ address ∧ address + layout.width ≤ image.size := by
  rw [Layout.fits] at fits
  split at fits
  · cases fits
  · exact ⟨by omega, stop_le_of_segmentsFit plain.ne_nil fits⟩

/-- The number of elements that follow one another from an address on: all of them
fit, and the next one does not. -/
def IsRun (layout : Layout) (codec : TextCodec) (image : Image) (address : Int)
    (count : Nat) : Prop :=
  FirstFailure (fun index => layout.fits codec image (address + index * layout.width)) count

/-- Counting up to a limit gives the run, or the limit. -/
theorem IsRun.count_eq (isRun : layout.IsRun codec image address count) (limit : Int) :
    layout.count codec image address (some limit) = .ok (min count limit.toNat) := by
  have counted : countWhile _ limit.toNat 0 = .ok (min count (0 + limit.toNat)) :=
    isRun.countWhile_eq (Nat.zero_le count)
  rw [Nat.zero_add] at counted
  exact counted

/-- The elements of a run lie inside the image. -/
theorem Plain.inside_of_isRun (plain : layout.Plain)
    (run : layout.IsRun codec image address count) (some : 0 < count) :
    0 ≤ address ∧ address + layout.width * count ≤ image.size := by
  obtain ⟨prior, rfl⟩ := Nat.exists_eq_succ_of_ne_zero (Nat.ne_zero_of_lt some)
  have first := plain.inside_of_fits (run.before some)
  have last := plain.inside_of_fits (run.before (Nat.lt_succ_self prior))
  have bytes : layout.width * (prior.succ : Nat) = prior * layout.width + layout.width := by
    rw [Int.natCast_succ, Int.mul_add, Int.mul_one, Int.mul_comm]
  rw [Int.natCast_zero, Int.zero_mul, Int.add_zero] at first
  omega

/-- Elements of a plain layout that follow one another come to an end: so many
cannot, from an address on. -/
theorem Plain.not_fits_of_runBound (plain : layout.Plain) (codec : TextCodec) (image : Image)
    (address : Int) :
    layout.fits codec image (address + (image.size + address.natAbs : Nat) * layout.width) =
      .ok false := by
  obtain ⟨answer, given⟩ := plain.exists_fits codec image
    (address + (image.size + address.natAbs : Nat) * layout.width)
  cases answer with
  | false => exact given
  | true =>
      have inside := (plain.inside_of_fits given).2
      have width := plain.one_le_width
      have bytes := Int.mul_le_mul_of_nonneg_left width
        (Int.natCast_nonneg (image.size + address.natAbs))
      omega

/-- A test of elements that is always answered and fails where no more of them can
be has a first failure, and counting stops there. -/
theorem Plain.exists_runLength (plain : layout.Plain) (image : Image) (address : Int)
    (answered : ∀ index, ∃ answer, test index = .ok answer)
    (fails : test (image.size + address.natAbs) = .ok false) :
    ∃ count, FirstFailure test count ∧ layout.runLength image address test = .ok count := by
  obtain ⟨count, within, failure⟩ := exists_firstFailure answered fails
  have width := plain.one_le_width
  refine ⟨count, failure, ?_⟩
  rw [runLength, if_neg (show layout.width ≠ 0 by omega),
    failure.countWhile_eq (Nat.zero_le count), runBound]
  congr
  omega

/-- From every address on there is a run of a plain layout, and counting without a
limit gives the number of its elements. -/
theorem Plain.exists_isRun (plain : layout.Plain) (codec : TextCodec) (image : Image)
    (address : Int) :
    ∃ count, layout.IsRun codec image address count ∧
      layout.count codec image address none = .ok count :=
  plain.exists_runLength image address
    (fun index => plain.exists_fits codec image (address + (index : Nat) * layout.width))
    (plain.not_fits_of_runBound codec image address)

/-- Counting elements of a plain layout up to an address has a result: the first index at
which an element does not end there or does not fit. -/
theorem Plain.exists_countBefore (plain : layout.Plain) (codec : TextCodec) (image : Image)
    (address stop : Int) :
    ∃ count, FirstFailure (fun index : Nat =>
        if stop < address + index * layout.width + layout.width then .ok false
        else layout.fits codec image (address + index * layout.width)) count ∧
      layout.countBefore codec image address stop = .ok count := by
  refine plain.exists_runLength image address (fun index => ?_)
    (by rw [plain.not_fits_of_runBound codec image address, ite_self])
  split
  · exact ⟨false, rfl⟩
  · exact plain.exists_fits codec image _

end Layout

end ImageAtlas
