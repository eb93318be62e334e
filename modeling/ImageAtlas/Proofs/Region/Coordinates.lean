import ImageAtlas.Region.Coordinates

/-!
# Coordinates and addresses

Inside an array, an address and its coordinates determine each other. The walk
over the segments of one element is inverse to adding up the widths before a
segment, as long as no segment has a negative width; division by the width of an
element then does the same for the elements. Addresses are ordered as their
coordinates are. A segment of no bytes has no coordinates, and an array without
bytes has none at all.
-/

namespace ImageAtlas

namespace Layout

/-- The number of bytes of an element before one of its segments. -/
def widthBefore (layout : Layout) (index : Nat) : Int :=
  Layout.width (layout.take index)

variable {layout : Layout} {index : Nat} {field : Segment}

/-- No bytes are before the first segment. -/
@[simp] theorem widthBefore_zero (layout : Layout) : layout.widthBefore 0 = 0 := by
  simp [widthBefore, width]

/-- The bytes before a later segment are those of the first one and those between. -/
@[simp] theorem widthBefore_cons_succ (first : Segment) (rest : Layout) (index : Nat) :
    widthBefore (first :: rest) (index + 1) = first.length + widthBefore rest index := by
  simp [widthBefore, width]

/-- Bytes are counted from zero on. -/
theorem widthBefore_nonneg (nonneg : ∀ segment ∈ layout, 0 ≤ segment.length) (index : Nat) :
    0 ≤ layout.widthBefore index := by
  induction layout generalizing index with
  | nil => simp [widthBefore, width]
  | cons first rest inductionHypothesis =>
      cases index with
      | zero => simp
      | succ index =>
          have head := nonneg first List.mem_cons_self
          have tail := inductionHypothesis
            (fun segment member => nonneg segment (List.mem_cons_of_mem _ member)) index
          rw [widthBefore_cons_succ]
          omega

/-- So are the bytes of an element. -/
theorem width_nonneg (nonneg : ∀ segment ∈ layout, 0 ≤ segment.length) : 0 ≤ layout.width := by
  have all := widthBefore_nonneg nonneg layout.length
  rwa [widthBefore, List.take_length] at all

/-- A segment ends before the later ones begin. -/
theorem widthBefore_add_le (nonneg : ∀ segment ∈ layout, 0 ≤ segment.length)
    (found : layout[index]? = some field) {later : Nat} (before : index < later) :
    layout.widthBefore index + field.length ≤ layout.widthBefore later := by
  induction layout generalizing index later with
  | nil => simp at found
  | cons first rest inductionHypothesis =>
      have tailNonneg : ∀ segment ∈ rest, 0 ≤ segment.length :=
        fun segment member => nonneg segment (List.mem_cons_of_mem _ member)
      obtain ⟨later, rfl⟩ := Nat.exists_eq_succ_of_ne_zero (Nat.ne_zero_of_lt before)
      cases index with
      | zero =>
          have tail := widthBefore_nonneg tailNonneg later
          rw [List.getElem?_cons_zero, Option.some.injEq] at found
          rw [widthBefore_zero, widthBefore_cons_succ, ← found]
          omega
      | succ index =>
          rw [List.getElem?_cons_succ] at found
          have tail := inductionHypothesis tailNonneg found (Nat.lt_of_succ_lt_succ before)
          rw [widthBefore_cons_succ, widthBefore_cons_succ]
          omega

/-- A segment ends within its element. -/
theorem widthBefore_add_le_width (nonneg : ∀ segment ∈ layout, 0 ≤ segment.length)
    (found : layout[index]? = some field) :
    layout.widthBefore index + field.length ≤ layout.width := by
  obtain ⟨within, -⟩ := List.getElem?_eq_some_iff.1 found
  have reached := widthBefore_add_le nonneg found within
  rwa [widthBefore, widthBefore, List.take_length] at reached

/-- The walk stops in a segment that reaches beyond the offset. -/
theorem locate_of_lt {first : Segment} {rest : Layout} {offset : Int}
    (within : offset < first.length) : locate (first :: rest) offset = (0, offset) := by
  rw [locate, if_pos within]

/-- The walk passes a segment that does not. -/
theorem locate_of_le {first : Segment} {rest : Layout} {offset : Int}
    (beyond : first.length ≤ offset) :
    locate (first :: rest) offset =
      ((locate rest (offset - first.length)).1 + 1, (locate rest (offset - first.length)).2) := by
  rw [locate, if_neg (Int.not_lt.2 beyond)]

/-- The walk stops in a segment, at a place inside it, and has passed the bytes
before that segment. -/
theorem locate_spec {offset : Int} (lower : 0 ≤ offset) (upper : offset < layout.width) :
    ∃ field, layout[(layout.locate offset).1]? = some field ∧
      0 ≤ (layout.locate offset).2 ∧ (layout.locate offset).2 < field.length ∧
      layout.widthBefore (layout.locate offset).1 + (layout.locate offset).2 = offset := by
  induction layout generalizing offset with
  | nil =>
      rw [width] at upper
      omega
  | cons first rest inductionHypothesis =>
      rw [width] at upper
      by_cases within : offset < first.length
      · rw [locate_of_lt within]
        refine ⟨first, rfl, lower, within, ?_⟩
        rw [widthBefore_zero, Int.zero_add]
      · have beyond : first.length ≤ offset := Int.not_lt.1 within
        have remainingLower : 0 ≤ offset - first.length := by omega
        have remainingUpper : offset - first.length < Layout.width rest := by omega
        obtain ⟨field, found, placeLower, placeUpper, sum⟩ :=
          inductionHypothesis remainingLower remainingUpper
        rw [locate_of_le beyond]
        refine ⟨field, found, placeLower, placeUpper, ?_⟩
        rw [widthBefore_cons_succ, Int.add_assoc, sum]
        omega

/-- The walk finds a place inside a segment from the bytes before it. -/
theorem locate_widthBefore_add (nonneg : ∀ segment ∈ layout, 0 ≤ segment.length)
    (found : layout[index]? = some field) {place : Int} (lower : 0 ≤ place)
    (upper : place < field.length) :
    layout.locate (layout.widthBefore index + place) = (index, place) := by
  induction layout generalizing index with
  | nil => simp at found
  | cons first rest inductionHypothesis =>
      cases index with
      | zero =>
          rw [List.getElem?_cons_zero, Option.some.injEq] at found
          subst found
          rw [widthBefore_zero, Int.zero_add, locate_of_lt upper]
      | succ index =>
          have tailNonneg : ∀ segment ∈ rest, 0 ≤ segment.length :=
            fun segment member => nonneg segment (List.mem_cons_of_mem _ member)
          rw [List.getElem?_cons_succ] at found
          have before := widthBefore_nonneg tailNonneg index
          have beyond : first.length ≤ first.length + widthBefore rest index + place := by omega
          have remaining : first.length + widthBefore rest index + place - first.length =
              widthBefore rest index + place := by
            omega
          rw [widthBefore_cons_succ, locate_of_le beyond, remaining,
            inductionHypothesis tailNonneg found]

end Layout

/-- The place of a byte inside an array: its element, its segment and the place
within that segment. -/
structure Coordinates where
  element : Int
  segment : Nat
  place : Int

namespace Coordinates

/-- The order of coordinates: by elements, within one by segments, within one of
those by places. -/
def Before (first second : Coordinates) : Prop :=
  first.element < second.element ∨
    first.element = second.element ∧
      (first.segment < second.segment ∨
        first.segment = second.segment ∧ first.place < second.place)

/-- Coordinates as they are given for an address. -/
def offsetAt (coordinates : Coordinates) (address : Int) : ArrayOffset where
  elementIndex := coordinates.element
  segmentIndex := coordinates.segment
  segmentStart := address - coordinates.place
  segmentOffset := coordinates.place

/-- Different coordinates come one before the other. -/
theorem trichotomy (first second : Coordinates) :
    first.Before second ∨ first = second ∨ second.Before first := by
  obtain ⟨element, segment, place⟩ := first
  obtain ⟨otherElement, otherSegment, otherPlace⟩ := second
  simp only [Before, mk.injEq]
  omega

end Coordinates

namespace ArrayRegion

/-- The address of a byte of an array. -/
def addressOf (region : ArrayRegion) (coordinates : Coordinates) : Int :=
  region.elementAddress coordinates.element
    + region.layout.widthBefore coordinates.segment + coordinates.place

/-- The array has an element and a segment with that byte. -/
structure Holds (region : ArrayRegion) (coordinates : Coordinates) : Prop where
  element_nonneg : 0 ≤ coordinates.element
  element_lt : coordinates.element < region.count
  place_nonneg : 0 ≤ coordinates.place
  place_lt : ∃ field, region.layout[coordinates.segment]? = some field ∧
    coordinates.place < field.length

variable {region : ArrayRegion} {coordinates : Coordinates}

/-- Where a byte lies inside its element. -/
theorem Holds.within (nonneg : ∀ segment ∈ region.layout, 0 ≤ segment.length)
    (held : region.Holds coordinates) :
    0 ≤ region.layout.widthBefore coordinates.segment + coordinates.place ∧
      region.layout.widthBefore coordinates.segment + coordinates.place <
        region.elementLength := by
  obtain ⟨field, found, upper⟩ := held.place_lt
  have lower := held.place_nonneg
  have before := Layout.widthBefore_nonneg nonneg coordinates.segment
  have reached := Layout.widthBefore_add_le_width nonneg found
  rw [elementLength]
  omega

/-- An array that holds a byte has elements of some bytes. -/
theorem Holds.elementLength_pos (nonneg : ∀ segment ∈ region.layout, 0 ≤ segment.length)
    (held : region.Holds coordinates) : 0 < region.elementLength := by
  obtain ⟨lower, upper⟩ := held.within nonneg
  exact Int.lt_of_le_of_lt lower upper

/-- The bytes that an array holds lie between its start and its stop. -/
theorem Holds.inside (nonneg : ∀ segment ∈ region.layout, 0 ≤ segment.length)
    (held : region.Holds coordinates) :
    region.start ≤ region.addressOf coordinates ∧
      region.addressOf coordinates < region.stop := by
  obtain ⟨lower, upper⟩ := held.within nonneg
  have positive := held.elementLength_pos nonneg
  have first : 0 ≤ coordinates.element * region.elementLength :=
    Int.mul_nonneg held.element_nonneg (Int.le_of_lt positive)
  have last : (coordinates.element + 1) * region.elementLength ≤
      region.count * region.elementLength :=
    Int.mul_le_mul_of_nonneg_right (Int.add_one_le_of_lt held.element_lt) (Int.le_of_lt positive)
  rw [Int.add_mul, Int.one_mul] at last
  rw [addressOf, elementAddress, stop, length, Int.mul_comm region.elementLength]
  constructor <;> omega

/-- The address of a byte is translated into its coordinates. -/
theorem Holds.toOffset_addressOf (nonneg : ∀ segment ∈ region.layout, 0 ≤ segment.length)
    (held : region.Holds coordinates) :
    region.toOffset (region.addressOf coordinates) =
      .ok (coordinates.offsetAt (region.addressOf coordinates)) := by
  obtain ⟨lower, upper⟩ := held.within nonneg
  have positive := held.elementLength_pos nonneg
  obtain ⟨field, found, placeUpper⟩ := held.place_lt
  have relative : region.addressOf coordinates - region.start =
      (region.layout.widthBefore coordinates.segment + coordinates.place)
        + coordinates.element * region.elementLength := by
    rw [addressOf, elementAddress]
    omega
  have quotient : (region.addressOf coordinates - region.start).fdiv region.elementLength =
      coordinates.element := by
    rw [relative, Int.fdiv_eq_ediv_of_nonneg _ (Int.le_of_lt positive),
      Int.add_mul_ediv_right _ _ (Int.ne_of_gt positive), Int.ediv_eq_zero_of_lt lower upper,
      Int.zero_add]
  have remainder : (region.addressOf coordinates - region.start).fmod region.elementLength =
      region.layout.widthBefore coordinates.segment + coordinates.place := by
    rw [relative, Int.fmod_eq_emod_of_nonneg _ (Int.le_of_lt positive),
      Int.add_mul_emod_self_right, Int.emod_eq_of_lt lower upper]
  rw [toOffset, if_pos (held.inside nonneg)]
  simp only [quotient, remainder,
    Layout.locate_widthBefore_add nonneg found held.place_nonneg placeUpper]
  rfl

/-- An address outside an array is refused. -/
theorem toOffset_outside {address : Int}
    (outside : ¬ (region.start ≤ address ∧ address < region.stop)) :
    region.toOffset address = .error (.outsideArray address region.start region.stop) :=
  if_neg outside

/-- An array in which an address lies has elements of some bytes. -/
theorem elementLength_pos_of_inside {address : Int} (above : region.start ≤ address)
    (below : address < region.stop) : 0 < region.elementLength := by
  refine Int.not_le.1 fun narrow => ?_
  have none : region.elementLength * region.count ≤ 0 :=
    Int.mul_nonpos_of_nonpos_of_nonneg narrow (Int.natCast_nonneg region.count)
  rw [stop, length] at below
  omega

/-- An address inside an array is that of a byte, and is translated into its
coordinates. -/
theorem toOffset_inside {address : Int} (above : region.start ≤ address)
    (below : address < region.stop) :
    ∃ coordinates, region.Holds coordinates ∧
      region.toOffset address = .ok (coordinates.offsetAt address) ∧
      region.addressOf coordinates = address := by
  -- The divisor is positive, so both divisions are the ordinary ones.
  have positive := elementLength_pos_of_inside above below
  have relative : 0 ≤ address - region.start := by omega
  have lower : 0 ≤ (address - region.start) % region.elementLength :=
    Int.emod_nonneg _ (Int.ne_of_gt positive)
  have upper : (address - region.start) % region.elementLength < region.layout.width :=
    Int.emod_lt_of_pos _ positive
  obtain ⟨field, found, placeLower, placeUpper, sum⟩ := Layout.locate_spec lower upper
  have whole := Int.emod_add_mul_ediv (address - region.start) region.elementLength
  refine ⟨⟨(address - region.start) / region.elementLength, _, _⟩,
    ⟨?_, ?_, placeLower, field, found, placeUpper⟩, ?_, ?_⟩
  · exact Int.ediv_nonneg relative (Int.le_of_lt positive)
  · refine Int.ediv_lt_of_lt_mul positive ?_
    rw [stop, length, Int.mul_comm] at below
    omega
  · rw [toOffset, if_pos ⟨above, below⟩]
    simp only [Int.fdiv_eq_ediv_of_nonneg _ (Int.le_of_lt positive),
      Int.fmod_eq_emod_of_nonneg _ (Int.le_of_lt positive)]
    rfl
  · change region.start + (address - region.start) / region.elementLength * region.elementLength
      + region.layout.widthBefore _ + _ = address
    rw [Int.add_assoc, sum, Int.mul_comm]
    omega

/-- A byte that comes before another one has the lower address. -/
theorem Holds.addressOf_lt (nonneg : ∀ segment ∈ region.layout, 0 ≤ segment.length)
    {other : Coordinates} (held : region.Holds coordinates) (otherHeld : region.Holds other)
    (before : coordinates.Before other) :
    region.addressOf coordinates < region.addressOf other := by
  rw [addressOf, addressOf, elementAddress, elementAddress]
  rcases before with earlier | ⟨sameElement, earlier | ⟨sameSegment, earlier⟩⟩
  · have first := (held.within nonneg).2
    have second := (otherHeld.within nonneg).1
    have apart : (coordinates.element + 1) * region.elementLength ≤
        other.element * region.elementLength :=
      Int.mul_le_mul_of_nonneg_right (Int.add_one_le_of_lt earlier)
        (Int.le_of_lt (held.elementLength_pos nonneg))
    rw [Int.add_mul, Int.one_mul] at apart
    omega
  · obtain ⟨field, found, upper⟩ := held.place_lt
    have apart := Layout.widthBefore_add_le nonneg found earlier
    have lower := otherHeld.place_nonneg
    rw [sameElement]
    omega
  · rw [sameElement, sameSegment]
    omega

/-- Addresses are ordered as their coordinates are. -/
theorem Holds.addressOf_lt_iff (nonneg : ∀ segment ∈ region.layout, 0 ≤ segment.length)
    {other : Coordinates} (held : region.Holds coordinates) (otherHeld : region.Holds other) :
    region.addressOf coordinates < region.addressOf other ↔ coordinates.Before other := by
  constructor
  · intro lower
    rcases coordinates.trichotomy other with before | rfl | behind
    · exact before
    · exact absurd lower (Int.lt_irrefl _)
    · have higher := otherHeld.addressOf_lt nonneg held behind
      exact absurd lower (Int.not_lt.2 (Int.le_of_lt higher))
  · exact held.addressOf_lt nonneg otherHeld

/-- Two elements of a segment of no bytes between segments of two and three. -/
def withEmptySegment : ArrayRegion where
  start := 0x100
  schemaText := ""
  layout := [⟨"head", .delimitedText, 2⟩, ⟨"gap", .delimitedText, 0⟩, ⟨"tail", .delimitedText, 3⟩]
  lengthRule := .fixed 2
  count := 2
  layout_ne_nil := List.cons_ne_nil _ _

/-- In an array without segments of negative width, addresses and coordinates
determine each other, in the same order. An address inside is translated into the
coordinates of its byte, where the walk has stopped in a segment and the divisor
is positive; any other address is refused. The address of a byte lies inside and
is translated back. -/
theorem toOffset_is_increasing_bijection (region : ArrayRegion)
    (nonneg : ∀ segment ∈ region.layout, 0 ≤ segment.length) :
    (∀ address, region.start ≤ address → address < region.stop →
      0 < region.elementLength ∧
        ∃ coordinates, region.Holds coordinates ∧
          region.toOffset address = .ok (coordinates.offsetAt address) ∧
          region.addressOf coordinates = address) ∧
    (∀ address, ¬ (region.start ≤ address ∧ address < region.stop) →
      region.toOffset address = .error (.outsideArray address region.start region.stop)) ∧
    (∀ coordinates, region.Holds coordinates →
      (region.start ≤ region.addressOf coordinates ∧
        region.addressOf coordinates < region.stop) ∧
      region.toOffset (region.addressOf coordinates) =
        .ok (coordinates.offsetAt (region.addressOf coordinates))) ∧
    (∀ first second, region.Holds first → region.Holds second →
      (region.addressOf first < region.addressOf second ↔ first.Before second)) := by
  refine ⟨?_, ?_, ?_, ?_⟩
  · intro address above below
    exact ⟨elementLength_pos_of_inside above below, toOffset_inside above below⟩
  · intro address outside
    exact toOffset_outside outside
  · intro coordinates held
    exact ⟨held.inside nonneg, held.toOffset_addressOf nonneg⟩
  · intro first second firstHeld secondHeld
    exact firstHeld.addressOf_lt_iff nonneg secondHeld

/-- Behind the first segment, the walk passes the segment of no bytes. -/
theorem toOffset_passes_empty_segment :
    (∀ segment ∈ withEmptySegment.layout, 0 ≤ segment.length) ∧
      withEmptySegment.Holds ⟨1, 2, 0⟩ ∧
      withEmptySegment.addressOf ⟨1, 2, 0⟩ = 0x107 ∧
      withEmptySegment.toOffset 0x107 = .ok ⟨1, 2, 0x107, 0⟩ := by
  have nonneg : ∀ segment ∈ withEmptySegment.layout, 0 ≤ segment.length := by
    decide
  have held : withEmptySegment.Holds ⟨1, 2, 0⟩ :=
    ⟨by decide, by decide, by decide, ⟨"tail", .delimitedText, 3⟩, by decide, by decide⟩
  obtain ⟨-, -, found, -⟩ := toOffset_is_increasing_bijection withEmptySegment nonneg
  exact ⟨nonneg, held, by decide, (found ⟨1, 2, 0⟩ held).2⟩

end ArrayRegion

end ImageAtlas
