import ImageAtlas.Proofs.Region.Listing

/-!
# Copies of an array

An array at another address and an array of more or fewer elements are copies: translating
addresses and listing elements commute with making them. Coordinates move with the start of an
array, and they do not depend on how many elements there are. The lines of an array go through
its elements one after the other (`linesFrom_add`), so that the listing of more elements is
that of the first ones and, behind it, that of an array that begins where those end. This is
so for whatever shows the bytes of a cell, and also if it fails.
-/

namespace ImageAtlas

/-- The same place, counted from a start that has moved. -/
def ArrayOffset.moved (offset : ArrayOffset) (shift : Int) : ArrayOffset :=
  { offset with segmentStart := offset.segmentStart + shift }

namespace Layout

/-- If cells are shown from zero on, so is an element of texts. -/
theorem exists_elementText {layout : Layout} {render : Int → Int → Except Fault String}
    (answers : ∀ address length, 0 ≤ address → ∃ text, render address length = .ok text)
    (texts : ∀ segment ∈ layout, segment.kind = .delimitedText)
    (widths : ∀ segment ∈ layout, 0 ≤ segment.length) {address : Int} (nonneg : 0 ≤ address) :
    ∃ text, layout.elementText render address = .ok text := by
  induction layout generalizing address with
  | nil => exact ⟨"", rfl⟩
  | cons first rest inductionHypothesis =>
      obtain ⟨firstText, restTexts⟩ := List.forall_mem_cons.1 texts
      obtain ⟨firstWidth, restWidths⟩ := List.forall_mem_cons.1 widths
      obtain ⟨text, shown⟩ := answers address first.length nonneg
      obtain ⟨others, further⟩ :=
        inductionHypothesis restTexts restWidths (Int.add_nonneg nonneg firstWidth)
      exact ⟨text ++ others, by simp only [elementText, firstText, shown, further]⟩

end Layout

namespace ArrayRegion

variable {region other extended : ArrayRegion} {render : Int → Int → Except Fault String}

/-- Two arrays agree in all but their starts and their numbers of elements. -/
structure SameRow (region other : ArrayRegion) : Prop where
  schemaText : other.schemaText = region.schemaText
  layout : other.layout = region.layout
  lengthRule : other.lengthRule = region.lengthRule
  backReferences : other.backReferences = region.backReferences

/-- The array of elements that follow those of an array. -/
def behind (region : ArrayRegion) (more : Nat) : ArrayRegion :=
  { region with start := region.stop, count := more }

/-- The listing of an array by whatever shows the bytes of a cell. -/
def listing (region : ArrayRegion) (render : Int → Int → Except Fault String) :
    Except Fault String :=
  (region.linesFrom render region.count 0).map String.join

/-- An array is listed by the codec on its image. -/
theorem serialize_eq_listing (region : ArrayRegion) (image : Image) (codec : TextCodec) :
    region.serialize image codec = region.listing (codec.render image) :=
  rfl

section Translating

/-- Coordinates move with the start of an array, and so do the addresses outside. -/
theorem toOffset_relocate (region : ArrayRegion) (shift address : Int) :
    (region.relocate (region.start + shift)).toOffset (address + shift) =
      match region.toOffset address with
      | .ok offset => .ok (offset.moved shift)
      | .error _ =>
          .error (.outsideArray (address + shift) (region.start + shift) (region.stop + shift)) := by
  have stop : (region.relocate (region.start + shift)).stop = region.stop + shift :=
    Int.add_right_comm region.start shift region.length
  by_cases inside : region.start ≤ address ∧ address < region.stop
  · have moved : (region.relocate (region.start + shift)).start ≤ address + shift ∧
        address + shift < (region.relocate (region.start + shift)).stop := by
      rw [stop]
      exact ⟨Int.add_le_add_right inside.1 shift, Int.add_lt_add_right inside.2 shift⟩
    have relative : address + shift - (region.relocate (region.start + shift)).start =
        address - region.start := by
      change address + shift - (region.start + shift) = address - region.start
      omega
    rw [toOffset, toOffset, if_pos inside, if_pos moved, relative]
    simp only [ArrayOffset.moved, Except.ok.injEq, ArrayOffset.mk.injEq]
    refine ⟨rfl, rfl, ?_, rfl⟩
    exact Int.add_right_comm address shift _
  · rw [toOffset_outside inside, toOffset_outside]
    · rw [stop]
      rfl
    · rw [stop]
      change ¬ (region.start + shift ≤ address + shift ∧ address + shift < region.stop + shift)
      omega

/-- Arrays of one start and one layout translate the addresses that they share equally. -/
theorem toOffset_congr {address : Int} (start : other.start = region.start)
    (layout : other.layout = region.layout) (above : region.start ≤ address)
    (below : address < region.stop) (otherBelow : address < other.stop) :
    other.toOffset address = region.toOffset address := by
  have otherAbove : other.start ≤ address := start ▸ above
  rw [toOffset, toOffset, if_pos ⟨otherAbove, otherBelow⟩, if_pos ⟨above, below⟩]
  simp only [elementLength, start, layout]

end Translating

section Extending

/-- Extending is refused if fewer than no elements would remain. -/
theorem extend_of_neg {more : Int} (few : region.count + more < 0) :
    region.extend more = .error (.negativeCount (region.count + more)) :=
  if_pos few

/-- Otherwise it changes the number of elements and nothing else. -/
theorem extend_of_nonneg {more : Int} (enough : 0 ≤ region.count + more) :
    region.extend more = .ok { region with count := (region.count + more).toNat } :=
  if_neg (Int.not_lt.2 enough)

/-- What was extended has so many more elements, and else is as it was. -/
theorem of_extend {more : Int} (made : region.extend more = .ok extended) :
    (extended.count : Int) = region.count + more ∧ extended.start = region.start ∧
      region.SameRow extended := by
  by_cases few : region.count + more < 0
  · rw [extend_of_neg few] at made
    cases made
  · rw [extend_of_nonneg (Int.not_lt.1 few)] at made
    cases made
    exact ⟨Int.toNat_of_nonneg (Int.not_lt.1 few), rfl, rfl, rfl, rfl, rfl⟩

/-- Extending twice is extending by the sum, also where it is refused. -/
theorem extend_extend {first : Int} (made : region.extend first = .ok extended) (second : Int) :
    extended.extend second = region.extend (first + second) := by
  have enough : 0 ≤ region.count + first := by
    have := (of_extend made).1
    omega
  rw [extend_of_nonneg enough] at made
  cases made
  simp only [extend, Int.toNat_of_nonneg enough, Int.add_assoc]

/-- It makes no difference whether an array is moved or extended first. -/
theorem extend_relocate (region : ArrayRegion) (start more : Int) :
    (region.relocate start).extend more = (region.extend more).map (·.relocate start) := by
  by_cases few : region.count + more < 0
  · rw [extend_of_neg few, extend_of_neg (show (region.relocate start).count + more < 0 from few)]
    rfl
  · have enough := Int.not_lt.1 few
    rw [extend_of_nonneg enough,
      extend_of_nonneg (show 0 ≤ ((region.relocate start).count : Int) + more from enough)]
    rfl

end Extending

section Listing

/-- The lines of elements are those of the first ones and those of the others. -/
theorem linesFrom_add (region : ArrayRegion) (render : Int → Int → Except Fault String)
    (first second index : Nat) :
    region.linesFrom render (first + second) index =
      (do
        let lines ← region.linesFrom render first index
        let others ← region.linesFrom render second (index + first)
        pure (lines ++ others)) := by
  induction first generalizing index with
  | zero =>
      rw [Nat.zero_add, Nat.add_zero]
      cases region.linesFrom render second index <;> rfl
  | succ first inductionHypothesis =>
      rw [Nat.succ_add, linesFrom, linesFrom, inductionHypothesis, Nat.succ_add_eq_add_succ]
      cases region.layout.elementText render (region.elementAddress index) with
      | error fault => rfl
      | ok text =>
          cases region.linesFrom render first (index + 1) with
          | error fault => rfl
          | ok lines =>
              cases region.linesFrom render second (index + (first + 1)) with
              | error fault => rfl
              | ok others => rfl

/-- Lines show what stands at the addresses of elements. -/
theorem linesFrom_congr {first otherFirst : Nat} (layout : other.layout = region.layout)
    (addresses : ∀ index : Nat,
      other.elementAddress (otherFirst + index : Nat) = region.elementAddress (first + index : Nat))
    (remaining : Nat) :
    other.linesFrom render remaining otherFirst = region.linesFrom render remaining first := by
  induction remaining generalizing first otherFirst with
  | zero => rfl
  | succ remaining inductionHypothesis =>
      have further : ∀ index : Nat, other.elementAddress (otherFirst + 1 + index : Nat) =
          region.elementAddress (first + 1 + index : Nat) := by
        intro index
        rw [Nat.add_right_comm otherFirst, Nat.add_right_comm first]
        exact addresses (index + 1)
      have here : other.elementAddress otherFirst = region.elementAddress first := addresses 0
      rw [linesFrom, linesFrom, layout, here, inductionHypothesis further]

/-- The listing of more elements is that of the first ones and, behind it, that of the array of
those which follow them. -/
theorem listing_extend {more : Nat} (made : region.extend more = .ok extended)
    (render : Int → Int → Except Fault String) :
    extended.listing render =
      (do
        let text ← region.listing render
        let others ← (region.behind more).listing render
        pure (text ++ others)) := by
  obtain ⟨count, start, same⟩ := of_extend made
  have all : extended.count = region.count + more := by exact_mod_cast count
  have lines : extended.linesFrom render (region.count + more) 0 =
      region.linesFrom render (region.count + more) 0 := by
    refine linesFrom_congr same.layout (fun index => ?_) _
    rw [elementAddress, elementAddress, elementLength, elementLength, start, same.layout]
  have following : (region.behind more).linesFrom render more 0 =
      region.linesFrom render more (0 + region.count) := by
    refine linesFrom_congr (show (region.behind more).layout = region.layout from rfl)
      (fun index => ?_) _
    change region.start + region.elementLength * region.count
      + (0 + index : Nat) * region.elementLength =
        region.start + (0 + region.count + index : Nat) * region.elementLength
    rw [Nat.zero_add, Nat.zero_add, Int.natCast_add, Int.add_mul, Int.add_assoc,
      Int.mul_comm region.elementLength]
  rw [listing, listing, listing, all, lines, linesFrom_add, show (region.behind more).count = more
    from rfl, following]
  cases region.linesFrom render region.count 0 with
  | error fault => rfl
  | ok lines =>
      cases region.linesFrom render more (0 + region.count) with
      | error fault => rfl
      | ok others =>
          refine congrArg Except.ok (String.toList_injective ?_)
          simp

end Listing

/-- If cells are shown from zero on, an array of texts that begins there is listed. -/
theorem exists_listing
    (answers : ∀ address length, 0 ≤ address → ∃ text, render address length = .ok text)
    (texts : ∀ segment ∈ region.layout, segment.kind = .delimitedText)
    (widths : ∀ segment ∈ region.layout, 0 ≤ segment.length) (nonneg : 0 ≤ region.start) :
    ∃ text, region.listing render = .ok text := by
  have width : 0 ≤ region.elementLength := Layout.width_nonneg widths
  have lines : ∀ remaining index, ∃ lines, region.linesFrom render remaining index = .ok lines := by
    intro remaining
    induction remaining with
    | zero => exact fun index => ⟨[], rfl⟩
    | succ remaining inductionHypothesis =>
        intro index
        have place : 0 ≤ region.elementAddress index :=
          Int.add_nonneg nonneg (Int.mul_nonneg (Int.natCast_nonneg index) width)
        obtain ⟨text, shown⟩ := Layout.exists_elementText answers texts widths place
        obtain ⟨others, further⟩ := inductionHypothesis (index + 1)
        exact ⟨("+" ++ text ++ "\n") :: others, by simp only [linesFrom, shown, further]⟩
  obtain ⟨lines, listed⟩ := lines region.count 0
  exact ⟨String.join lines, by rw [listing, listed]; rfl⟩

/-- If cells are shown from zero on, an array of texts that begins there is listed, and an
extended one with the elements behind it appended. -/
theorem exists_listing_extend {more : Nat} (made : region.extend more = .ok extended)
    (plain : region.layout.Plain) (nonneg : 0 ≤ region.start)
    (answers : ∀ address length, 0 ≤ address → ∃ text, render address length = .ok text) :
    ∃ text others, region.listing render = .ok text ∧
      (region.behind more).listing render = .ok others ∧
      extended.listing render = .ok (text ++ others) := by
  have widths := plain.length_nonneg
  have behind : 0 ≤ (region.behind more).start :=
    Int.add_nonneg nonneg (Int.mul_nonneg (Layout.width_nonneg widths)
      (Int.natCast_nonneg region.count))
  obtain ⟨text, listed⟩ := exists_listing answers plain.kind widths nonneg
  obtain ⟨others, further⟩ : ∃ text, (region.behind more).listing render = .ok text :=
    exists_listing answers plain.kind widths behind
  refine ⟨text, others, listed, further, ?_⟩
  rw [listing_extend made, listed, further]
  rfl

/-- Moving and extending an array commute with translating addresses and listing elements.

An address that has moved with an array is translated into the same element, segment and place,
from a segment start that has moved as far, or is outside as it was before. Extending is
refused exactly if fewer than no elements would remain; what was extended has so many more
elements, is else as it was, and translates the addresses that both hold as before. What was
moved has another start and is else as it was. Extending twice is extending by the sum, and
extending commutes with moving.

Whatever shows the bytes of a cell, the listing of an extended array is that of the array with
that of the elements behind it appended, and fails if one of these does. If the layout is plain,
the array begins at zero or behind it and cells are shown from there on, none of them fails. So
it is with any codec on any image. -/
theorem copies_translate_and_list (region : ArrayRegion) :
    (∀ shift address : Int,
      (∀ offset, region.toOffset address = .ok offset →
        (region.relocate (region.start + shift)).toOffset (address + shift) =
          .ok (offset.moved shift)) ∧
      ((∃ fault, (region.relocate (region.start + shift)).toOffset (address + shift) =
          .error fault) ↔
        ∃ fault, region.toOffset address = .error fault)) ∧
    (∀ more : Int,
      (region.count + more < 0 →
        region.extend more = .error (.negativeCount (region.count + more))) ∧
      (0 ≤ region.count + more → ∃ extended, region.extend more = .ok extended ∧
        (extended.count : Int) = region.count + more ∧ extended.start = region.start ∧
        region.SameRow extended ∧
        (∀ address, region.start ≤ address → address < region.stop → address < extended.stop →
          ∃ offset, region.toOffset address = .ok offset ∧
            extended.toOffset address = .ok offset) ∧
        ∀ further, extended.extend further = region.extend (more + further))) ∧
    (∀ start : Int, (region.relocate start).start = start ∧
      (region.relocate start).count = region.count ∧ region.SameRow (region.relocate start) ∧
      ∀ more, (region.relocate start).extend more = (region.extend more).map (·.relocate start)) ∧
    ∀ (more : Nat) (extended : ArrayRegion), region.extend more = .ok extended →
      (∀ render, extended.listing render =
        (do
          let text ← region.listing render
          let others ← (region.behind more).listing render
          pure (text ++ others))) ∧
      (region.layout.Plain → 0 ≤ region.start →
        (∀ render, (∀ address length, 0 ≤ address → ∃ text, render address length = .ok text) →
          ∃ text others, region.listing render = .ok text ∧
            (region.behind more).listing render = .ok others ∧
            extended.listing render = .ok (text ++ others)) ∧
        ∀ (image : Image) (codec : TextCodec),
          ∃ text others, region.serialize image codec = .ok text ∧
            (region.behind more).serialize image codec = .ok others ∧
            extended.serialize image codec = .ok (text ++ others)) := by
  refine ⟨fun shift address => ⟨?_, ?_⟩, fun more => ⟨extend_of_neg, ?_⟩, fun start => ⟨rfl, rfl,
    ⟨rfl, rfl, rfl, rfl⟩, extend_relocate region start⟩, fun more extended made =>
    ⟨listing_extend made, fun plain nonneg => ⟨?_, ?_⟩⟩⟩
  · intro offset translated
    rw [toOffset_relocate, translated]
  · rw [toOffset_relocate]
    cases region.toOffset address with
    | error fault => exact ⟨fun _ => ⟨_, rfl⟩, fun _ => ⟨_, rfl⟩⟩
    | ok offset =>
        refine iff_of_false ?_ ?_
        · rintro ⟨fault, impossible⟩
          cases impossible
        · rintro ⟨fault, impossible⟩
          cases impossible
  · intro enough
    have made := extend_of_nonneg enough
    obtain ⟨count, start, same⟩ := of_extend made
    refine ⟨_, made, count, start, same, fun address above below extendedBelow => ?_,
      extend_extend made⟩
    obtain ⟨coordinates, -, translated, -⟩ := toOffset_inside above below
    refine ⟨_, translated, ?_⟩
    rw [← translated]
    exact toOffset_congr start same.layout above below extendedBelow
  · intro render answers
    exact exists_listing_extend made plain nonneg answers
  · intro image codec
    simp only [serialize_eq_listing]
    exact exists_listing_extend made plain nonneg fun address length reached =>
      ⟨_, codec.render_eq image length reached⟩

end ArrayRegion

end ImageAtlas
