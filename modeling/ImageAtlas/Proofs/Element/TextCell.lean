import ImageAtlas.Proofs.Codec
import ImageAtlas.Proofs.Element
import ImageAtlas.Proofs.Region.Coordinates

/-!
# Elements made up of text cells

Under the codec of ASCII text, `TextCell` says which bytes a text segment may hold, and
`Layout.SegmentHolds` where such a segment may lie. Whether the bytes at an address form
an element of text segments is always answered, and the answer is yes exactly if every
segment holds a cell at its place; lengths may be any numbers, and an element that has a
segment without bytes is never found.
-/

namespace ImageAtlas

/-- The bytes of a text cell: the characters of a text, the terminator, padding behind
it, and not all of it unwritten memory. -/
structure TextCell (bytes : List UInt8) : Prop where
  padded : ∃ text padding, AsciiText.Terminated bytes text padding ∧
    ∀ byte ∈ padding, byte = padByte ∨ byte = fillByte
  written : ∃ byte ∈ bytes, byte ≠ fillByte

namespace Image

/-- No padding stands at an address: the image ends before it, or it has another byte
there. -/
def NoPadAt (image : Image) (address : Int) : Prop :=
  address = image.size ∨ ∃ byte, image.byteAt address = .ok byte ∧ byte ≠ padByte

variable {image : Image} {place : Nat}

/-- A test of the bytes between two places is a test of the row of these bytes. -/
theorem all_between (test : UInt8 → Bool) {first last : Nat} (within : last ≤ image.size) :
    image.all test first last = ((image.toList.drop first).take (last - first)).all test := by
  rw [Bool.eq_iff_iff, Array.all_iff_forall, List.all_eq_true]
  constructor
  · intro each byte member
    obtain ⟨offset, bound, rfl⟩ := List.mem_iff_getElem.1 member
    simp only [List.length_take, List.length_drop, Array.length_toList] at bound
    rw [List.getElem_take, List.getElem_drop, Array.getElem_toList]
    exact each _ (by omega) (by omega)
  · rintro each index inside ⟨lower, upper⟩
    apply each
    rw [List.mem_iff_getElem]
    refine ⟨index - first, by simp; omega, ?_⟩
    simp only [List.getElem_take, List.getElem_drop, Array.getElem_toList]
    congr
    omega

/-- A place up to the end of an image is a bound of slices. -/
theorem bound_natCast (within : place ≤ image.size) : image.bound place = place := by
  rw [bound, boundIn]
  omega

/-- At a place up to the end of an image, either padding stands there or none does. -/
theorem noPadAt_iff (within : place ≤ image.size) :
    image.NoPadAt place ↔ ¬ (place < image.size ∧ image[place]? = some padByte) := by
  simp only [NoPadAt, byteAt, if_pos (Int.natCast_nonneg place), Int.toNat_natCast]
  rcases Nat.lt_or_eq_of_le within with before | rfl
  · have apart : (place : Int) ≠ image.size := by omega
    simp [before, apart]
  · simp

end Image

variable {image : Image} {alone : Bool} {place width : Nat}

/-- A row of bytes made up of a text, the terminator and a rest is a text cell exactly if
the rest is padding and not all of the row is unwritten memory. -/
theorem AsciiText.Terminated.textCell_iff {bytes text rest : List UInt8}
    (terminated : Terminated bytes text rest) :
    TextCell bytes ↔ (∀ byte ∈ rest, byte = padByte ∨ byte = fillByte) ∧
      ∃ byte ∈ bytes, byte ≠ fillByte := by
  constructor
  · rintro ⟨⟨otherText, otherRest, other, padding⟩, written⟩
    have same : otherText = text := other.visible_eq.symm.trans terminated.visible_eq
    rw [← terminated.drop_eq, ← same, other.drop_eq]
    exact ⟨padding, written⟩
  · rintro ⟨padding, written⟩
    exact ⟨⟨text, rest, terminated, padding⟩, written⟩

/-- Inside the image a text fits where a cell holds it; a text that is alone has no
padding behind it. -/
theorem textFits_ascii_iff (inside : place + width ≤ image.size) :
    textFits .ascii image place width alone = .ok true ↔
      TextCell ((image.toList.drop place).take width) ∧
        (alone = true → image.NoPadAt (place + width : Nat)) := by
  obtain ⟨measured, found⟩ : ∃ measured, TextCodec.ascii.measure image place width = .ok measured :=
    TextCodec.ascii.measure_answers _ (Int.natCast_nonneg place)
  simp only [textFits, found]
  cases measured with
  | none =>
      refine iff_of_false (by simp) ?_
      rintro ⟨⟨⟨text, rest, terminated, -⟩, -⟩, -⟩
      have measured : TextCodec.ascii.measure image place width = .ok (some (text.length + 1)) :=
        TextCodec.measure_ascii_eq_some_iff.2 ⟨text, rest, terminated, rfl⟩
      rw [found] at measured
      cases measured
  | some consumed =>
      obtain ⟨text, rest, terminated, rfl⟩ := TextCodec.measure_ascii_eq_some_iff.1 found
      rw [Int.toNat_natCast] at terminated
      have length : width = text.length + 1 + rest.length := by
        rw [← terminated.length_eq, List.length_take, List.length_drop, Array.length_toList]
        omega
      have padding : Image.boundIn width (text.length + 1 : Nat) = text.length + 1 := by
        rw [Image.boundIn]
        omega
      have behind : (image.toList.drop (place + (text.length + 1))).take
          (place + width - (place + (text.length + 1))) = rest := by
        rw [← terminated.drop_eq, List.drop_take, List.drop_drop]
        congr 1
        omega
      have next : image.cyclic? (place + width : Nat) = image[place + width]? := by
        rw [Image.cyclic?, if_pos (Int.natCast_nonneg _), Int.toNat_natCast]
      have fits : (text.length + 1 : Nat) ≤ width := by omega
      rw [terminated.textCell_iff, Image.noPadAt_iff inside]
      simp only [← Int.natCast_add, ← Int.natCast_succ, Image.bound_natCast inside,
        Image.bound_natCast (Nat.le_trans (Nat.le_add_right _ _) inside), next,
        Image.all_between _ inside, Nat.add_sub_cancel_left, padding, behind]
      simp only [Except.ok.injEq, Bool.and_eq_true, decide_eq_true_eq, Int.ofNat_le,
        Int.ofNat_lt, Bool.not_eq_true', List.all_eq_true, List.all_eq_false, Bool.or_eq_true,
        beq_iff_eq]
      have followed : ((alone && decide (place + width < image.size) &&
            image[place + width]? == some padByte) = false) ↔
          (alone = true →
            ¬ (place + width < image.size ∧ image[place + width]? = some padByte)) := by
        cases alone <;> simp
      rw [followed]
      constructor
      · rintro ⟨⟨⟨-, written⟩, padded⟩, noPad⟩
        exact ⟨⟨padded, written⟩, noPad⟩
      · rintro ⟨⟨padded, written⟩, noPad⟩
        exact ⟨⟨⟨fits, written⟩, padded⟩, noPad⟩

namespace Layout

variable {layout : Layout} {address : Int}

/-- A text segment holds a cell: it has bytes, it lies inside the image, and its bytes are
those of a text cell; if it is the only one of its element, no padding stands behind it. -/
structure SegmentHolds (image : Image) (alone : Bool) (start length : Int) : Prop where
  one_le_length : 1 ≤ length
  inside : start + length ≤ image.size
  cell : TextCell (image.slice start (start + length)).toList
  noPad : alone = true → image.NoPadAt (start + length)

/-- Inside the image a text fits exactly where a segment holds a cell. -/
theorem textFits_iff_segmentHolds {start length : Int} (nonneg : 0 ≤ start)
    (inside : start + length ≤ image.size) :
    textFits .ascii image start length alone = .ok true ↔
      SegmentHolds image alone start length := by
  obtain ⟨place, rfl⟩ := Int.eq_ofNat_of_zero_le nonneg
  by_cases some : 1 ≤ length
  · obtain ⟨width, rfl⟩ := Int.eq_ofNat_of_zero_le (Int.le_trans Int.one_nonneg some)
    rw [← Int.natCast_add, Int.ofNat_le] at inside
    have bytes : (image.slice place (place + width : Nat)).toList =
        (image.toList.drop place).take width := by
      rw [Image.toList_slice (Nat.le_add_right place width) inside, Nat.add_sub_cancel_left]
    rw [textFits_ascii_iff inside, ← bytes]
    constructor
    · rintro ⟨cell, noPad⟩
      exact ⟨some, Int.ofNat_le.2 inside, cell, noPad⟩
    · rintro ⟨-, -, cell, noPad⟩
      exact ⟨cell, noPad⟩
  · -- Without bytes there is no terminator to be found.
    refine iff_of_false ?_ fun holds => some holds.one_le_length
    obtain ⟨measured, found⟩ : ∃ measured, TextCodec.ascii.measure image place length =
        .ok measured := TextCodec.ascii.measure_answers length nonneg
    simp only [textFits, found]
    cases measured with
    | none => simp
    | some consumed =>
        obtain ⟨text, rest, terminated, -⟩ := TextCodec.measure_ascii_eq_some_iff.1 found
        rw [Int.toNat_of_nonpos (by omega), List.take_zero] at terminated
        exact absurd rfl terminated.ne_nil

/-- What holds of every segment and its index holds of the first one and of those behind
it. -/
theorem forall_segments_cons_iff {first : Segment} {rest : Layout}
    {holds : Nat → Segment → Prop} :
    (∀ index segment, (first :: rest)[index]? = some segment → holds index segment) ↔
      holds 0 first ∧ ∀ index segment, rest[index]? = some segment → holds (index + 1) segment := by
  constructor
  · intro each
    exact ⟨each 0 first rfl, fun index segment found => each (index + 1) segment found⟩
  · rintro ⟨head, tail⟩ (_ | index) segment found
    · cases found
      exact head
    · exact tail index segment found

/-- Whether text segments fit from address zero on is answered, and they do exactly if
each of them holds a cell where it lies. -/
theorem exists_segmentsFit_ascii (texts : ∀ segment ∈ layout, segment.kind = .delimitedText)
    (image : Image) (alone : Bool) (nonneg : 0 ≤ address) :
    ∃ answer, segmentsFit .ascii image alone layout address = .ok answer ∧
      (answer = true ↔ ∀ index segment, layout[index]? = some segment →
        SegmentHolds image alone (address + layout.widthBefore index) segment.length) := by
  induction layout generalizing address with
  | nil => exact ⟨true, rfl, by simp⟩
  | cons first rest inductionHypothesis =>
      obtain ⟨kind, textsBehind⟩ := List.forall_mem_cons.1 texts
      simp only [forall_segments_cons_iff, widthBefore_zero, widthBefore_cons_succ, Int.add_zero,
        ← Int.add_assoc, segmentsFit, kind]
      split
      · rename_i beyond
        refine ⟨false, rfl, iff_of_false Bool.false_ne_true fun holds => ?_⟩
        exact absurd holds.1.inside (Int.not_le.2 beyond)
      · rename_i inside
        have holds_iff : textFits .ascii image address first.length alone = .ok true ↔
            SegmentHolds image alone address first.length :=
          textFits_iff_segmentHolds nonneg (Int.not_lt.1 inside)
        obtain ⟨fits, answered⟩ := exists_textFits .ascii image first.length alone nonneg
        rw [answered, Except.ok.injEq] at holds_iff
        rw [answered]
        cases fits with
        | false =>
            refine ⟨false, rfl, iff_of_false Bool.false_ne_true fun holds => ?_⟩
            exact absurd (holds_iff.2 holds.1) Bool.false_ne_true
        | true =>
            have head := holds_iff.1 rfl
            have onward : 0 ≤ address + first.length :=
              Int.add_nonneg nonneg (Int.le_trans Int.one_nonneg head.one_le_length)
            obtain ⟨answer, further, answer_iff⟩ := inductionHypothesis textsBehind onward
            exact ⟨answer, further, answer_iff.trans (and_iff_right head).symm⟩

/-- Whether the bytes at an address form an element of text segments, of whatever
lengths, is always answered. They do exactly if the address is not negative and each
segment holds a cell where it lies in the element; a segment that is the only one has no
padding behind it. -/
theorem fits_ascii_decides_cells (texts : ∀ segment ∈ layout, segment.kind = .delimitedText)
    (image : Image) (address : Int) :
    ∃ answer, layout.fits .ascii image address = .ok answer ∧
      (answer = true ↔ 0 ≤ address ∧ ∀ index segment, layout[index]? = some segment →
        SegmentHolds image (layout.length == 1) (address + layout.widthBefore index)
          segment.length) := by
  rw [fits]
  split
  · rename_i negative
    exact ⟨false, rfl, iff_of_false Bool.false_ne_true fun holds => by omega⟩
  · rename_i nonneg
    obtain ⟨answer, answered, answer_iff⟩ :=
      exists_segmentsFit_ascii texts image (layout.length == 1) (Int.not_lt.1 nonneg)
    exact ⟨answer, answered, answer_iff.trans (and_iff_right (Int.not_lt.1 nonneg)).symm⟩

/-- A text of two characters and an empty one form an element, although padding stands
behind it. -/
theorem fits_pair_of_cells :
    fits [⟨"n", .delimitedText, 4⟩, ⟨"m", .delimitedText, 2⟩] .ascii
      #[65, 66, 0xFF, 0, 0xFF, 0, 0] 0 = .ok true := by
  have texts : ∀ segment ∈ [(⟨"n", .delimitedText, 4⟩ : Segment), ⟨"m", .delimitedText, 2⟩],
      segment.kind = .delimitedText := by
    simp
  obtain ⟨answer, answered, answer_iff⟩ :=
    fits_ascii_decides_cells texts #[65, 66, 0xFF, 0, 0xFF, 0, 0] 0
  have first : TextCell [65, 66, 0xFF, 0] :=
    ⟨⟨[65, 66], [0], ⟨rfl, by simp [AsciiText.Printable]⟩, by simp [padByte]⟩, 65, by simp,
      by decide⟩
  have second : TextCell [0xFF, 0] :=
    ⟨⟨[], [0], .nil [0], by simp [padByte]⟩, 0, by simp, by decide⟩
  rw [answered, answer_iff.2]
  refine ⟨Int.le_refl 0, forall_segments_cons_iff.2 ⟨?_, forall_segments_cons_iff.2 ⟨?_, by simp⟩⟩⟩
  · exact ⟨by decide, by decide, first, fun alone => absurd alone (by decide)⟩
  · exact ⟨by decide, by decide, second, fun alone => absurd alone (by decide)⟩

end Layout

end ImageAtlas
