import ImageAtlas.Proofs.Image
import ImageAtlas.Proofs.Space.Pointers

/-!
# Discovering pointers

All pointers of an image are found at once, from its whole words and in words of 64
bits with a sign, while a single one is read from four bytes at its source in numbers
without a bound. For a base that such a word holds, the distance of a word from the
base does not wrap (`toInt_target`), and both ways find the same pointers
(`mem_alignedPointers_iff`).
-/

namespace ImageAtlas

namespace Space

variable {space : Space} {source destination : Int}

/-- The distance of a word of four bytes from a base that fits a word of 64 bits is
computed without wrapping. -/
theorem toInt_target (base_lt : space.pointers.base < wordBound) {word : Nat}
    (word_lt : word < 0x100000000) :
    (space.target word).toInt = word - space.pointers.base := by
  have bound : wordBound = 2 ^ 63 := rfl
  rw [target, Int64.toInt_sub, Int64.toInt_ofNat_of_lt (by omega),
    Int64.toInt_ofNat_of_lt (by omega)]
  exact Int.bmod_eq_of_le_mul_two (by omega) (by omega)

/-- At a place where the image has four bytes, a pointer is read from the word there. -/
theorem readPointer_of_wordAt {place : Nat} (within : place + 4 ≤ space.image.size) :
    space.readPointer place = some destination ↔
      destination = space.image.wordAt place - space.pointers.base ∧
        0 ≤ destination ∧ destination < space.image.size := by
  have bytes : Image.littleEndian
      (space.image.slice place (place + pointerSize)).toList = space.image.wordAt place :=
    Image.littleEndian_slice within
  have inside : ¬ ((place : Int) < 0 ∨ (space.image.size : Int) < place + pointerSize) := by
    have size : pointerSize = 4 := rfl
    omega
  simp only [readPointer, if_neg inside, bytes, Option.ite_none_right_eq_some, Option.some.injEq]
  constructor
  · rintro ⟨leads, rfl⟩
    exact ⟨rfl, leads⟩
  · rintro ⟨rfl, leads⟩
    exact ⟨leads, rfl⟩

/-- The pointers among the whole words, by their places. -/
theorem mem_alignedPointers :
    (source, destination) ∈ space.alignedPointers ↔
      ∃ index, index < space.image.wholeWords.size / 4 ∧
        (space.pointers.earliestAnchor ≤ destination ∧ destination < space.image.size) ∧
        source = (4 * index : Nat) ∧
          destination = (space.target (space.image.wholeWords.wordAt (4 * index))).toInt := by
  simp only [alignedPointers, List.mem_filterMap, List.mem_range,
    Option.ite_none_right_eq_some, Option.some.injEq, Prod.mk.injEq]
  constructor
  · rintro ⟨index, inWords, allowed, rfl, rfl⟩
    exact ⟨index, inWords, allowed, rfl, rfl⟩
  · rintro ⟨index, inWords, allowed, rfl, rfl⟩
    exact ⟨index, inWords, allowed, rfl, rfl⟩

/-- The pointers among the whole words are those that can be read at an aligned place
and lead to no place before the earliest allowed one. -/
theorem mem_alignedPointers_iff (base_lt : space.pointers.base < wordBound) :
    (source, destination) ∈ space.alignedPointers ↔
      (∃ index : Nat, source = (4 * index : Nat) ∧ 4 * index + 4 ≤ space.image.size) ∧
        space.readPointer source = some destination ∧
          space.pointers.earliestAnchor ≤ destination := by
  have size := space.image.size_wholeWords
  have target_eq : ∀ {index : Nat}, 4 * index + 4 ≤ space.image.size →
      (space.target (space.image.wholeWords.wordAt (4 * index))).toInt =
        space.image.wordAt (4 * index) - space.pointers.base := by
    intro index within
    rw [Image.wordAt_wholeWords (by omega)]
    exact toInt_target base_lt (space.image.wordAt_lt _)
  rw [mem_alignedPointers]
  constructor
  · rintro ⟨index, inWords, ⟨allowed, inside⟩, rfl, leads⟩
    have within : 4 * index + 4 ≤ space.image.size := by omega
    rw [target_eq within] at leads
    have read := (readPointer_of_wordAt within).2 ⟨leads, by omega, inside⟩
    exact ⟨⟨index, rfl, within⟩, read, allowed⟩
  · rintro ⟨⟨index, rfl, within⟩, read, allowed⟩
    obtain ⟨leads, -, inside⟩ := (readPointer_of_wordAt within).1 read
    exact ⟨index, by omega, ⟨allowed, inside⟩, rfl, leads.trans (target_eq within).symm⟩

/-- Pointers are found in ascending order of their sources. -/
theorem pairwise_alignedPointers (space : Space) :
    (space.alignedPointers.map Prod.fst).Pairwise (· < ·) := by
  rw [List.pairwise_map]
  refine List.Pairwise.filterMap _ ?_ List.pairwise_lt_range
  intro index other before pointer found otherPointer otherFound
  simp only [Option.ite_none_right_eq_some, Option.some.injEq] at found otherFound
  obtain ⟨-, rfl⟩ := found
  obtain ⟨-, rfl⟩ := otherFound
  simp only [pointerSize]
  omega

/-- Registering pointers that can be read is adding the pointers at their sources. -/
theorem foldl_registerPointer_eq {pointers : List (Int × Int)}
    (read : ∀ pointer ∈ pointers, space.readPointer pointer.1 = some pointer.2) :
    pointers.foldl (fun reached pointer => reached.registerPointer pointer.1 pointer.2) space =
      space.addPointers (pointers.map Prod.fst) := by
  induction pointers generalizing space with
  | nil => rfl
  | cons pointer rest inductionHypothesis =>
      have first : (space.addPointer pointer.1).1 =
          space.registerPointer pointer.1 pointer.2 := by
        rw [addPointer, read pointer List.mem_cons_self]
      have still := (retains_registerPointer space pointer.1 pointer.2).readPointer_eq
      have remaining : ∀ other ∈ rest,
          (space.registerPointer pointer.1 pointer.2).readPointer other.1 = some other.2 := by
        intro other member
        rw [still]
        exact read other (List.mem_cons_of_mem _ member)
      rw [List.foldl_cons, inductionHypothesis remaining, List.map_cons, addPointers, addPointers,
        List.foldl_cons, first]

/-- The sources of these pointers are the aligned places from which one can be read that
leads to no place before the earliest allowed one. -/
theorem mem_map_fst_alignedPointers (base_lt : space.pointers.base < wordBound) :
    source ∈ space.alignedPointers.map Prod.fst ↔
      0 ≤ source ∧ 4 ∣ source ∧ source + 4 ≤ space.image.size ∧
        ∃ destination, space.readPointer source = some destination ∧
          space.pointers.earliestAnchor ≤ destination := by
  rw [List.mem_map]
  constructor
  · rintro ⟨⟨_, destination⟩, found, rfl⟩
    obtain ⟨⟨index, aligned, within⟩, read, allowed⟩ := (mem_alignedPointers_iff base_lt).1 found
    refine ⟨by omega, ⟨index, by omega⟩, by omega, destination, read, allowed⟩
  · rintro ⟨nonneg, ⟨index, aligned⟩, within, destination, read, allowed⟩
    refine ⟨(source, destination), (mem_alignedPointers_iff base_lt).2 ⟨?_, read, allowed⟩, rfl⟩
    exact ⟨index.toNat, by omega, by omega⟩

/-- An image without a whole word has no pointers. -/
theorem alignedPointers_of_wordless (wordless : space.image.wholeWords.isEmpty = true) :
    space.alignedPointers = [] := by
  refine List.eq_nil_iff_forall_not_mem.2 ?_
  rintro ⟨source, destination⟩ found
  obtain ⟨index, inWords, -⟩ := mem_alignedPointers.1 found
  rw [Array.isEmpty_iff.1 wordless] at inWords
  cases inWords

/-- With a base that fits a word of 64 bits, all these pointers are registered and
counted. -/
theorem discoverPointers_eq (base_lt : space.pointers.base < wordBound) :
    space.discoverPointers.outcome = .ok space.alignedPointers.length ∧
      space.discoverPointers.space = space.alignedPointers.foldl
        (fun reached pointer => reached.registerPointer pointer.1 pointer.2) space := by
  rw [discoverPointers]
  split
  · rename_i wordless
    rw [alignedPointers_of_wordless wordless]
    exact ⟨rfl, rfl⟩
  · rw [if_neg (Int.not_le.2 base_lt)]
    exact ⟨rfl, rfl⟩

/-- Discovering pointers fails exactly if there is a word to look at and the base does
not fit a word of 64 bits. -/
theorem discoverPointers_eq_error_iff {fault : Fault} :
    space.discoverPointers.outcome = .error fault ↔
      4 ≤ space.image.size ∧ wordBound ≤ space.pointers.base ∧ fault = .overflow := by
  have whole : space.image.wholeWords.isEmpty = true ↔ space.image.size < 4 := by
    rw [Array.isEmpty_iff_size_eq_zero, Image.size_wholeWords]
    omega
  rw [discoverPointers]
  split
  · rename_i wordless
    have short := whole.1 wordless
    refine iff_of_false (fun failed => by cases failed) ?_
    omega
  · rename_i words
    rw [whole] at words
    split
    · rename_i large
      simp only [Except.error.injEq, eq_comm (a := Fault.overflow)]
      exact ⟨fun same => ⟨by omega, large, same⟩, fun holds => holds.2.2⟩
    · rename_i small
      refine iff_of_false (fun failed => by cases failed) ?_
      exact fun holds => small holds.2.1

/-- Discovering pointers is adding those that are aligned, if it does not fail. -/
theorem space_discoverPointers {count : Nat}
    (discovered : space.discoverPointers.outcome = .ok count) :
    space.discoverPointers.space = space.addPointers (space.alignedPointers.map Prod.fst) := by
  by_cases wordless : space.image.wholeWords.isEmpty = true
  · rw [alignedPointers_of_wordless wordless, discoverPointers, if_pos wordless]
    rfl
  · by_cases base_lt : space.pointers.base < wordBound
    · rw [(discoverPointers_eq base_lt).2]
      refine foldl_registerPointer_eq fun pointer found => ?_
      exact ((mem_alignedPointers_iff base_lt).1 found).2.1
    · rw [discoverPointers, if_neg wordless, if_pos (Int.not_lt.1 base_lt)] at discovered
      cases discovered

/-- Discovering pointers with a base that fits a word of 64 bits is adding, in ascending
order, the pointers at exactly those aligned places from which one can be read that
leads to no place before the earliest allowed one, and counting them. The distance of a
word from such a base does not wrap. -/
theorem discoverPointers_eq_addPointers (space : Space)
    (base_lt : space.pointers.base < wordBound) :
    (∀ word : Nat, word < 0x100000000 →
      (space.target word).toInt = word - space.pointers.base) ∧
    ∃ sources : List Int, sources.Pairwise (· < ·) ∧
      (∀ source, source ∈ sources ↔
        0 ≤ source ∧ 4 ∣ source ∧ source + 4 ≤ space.image.size ∧
          ∃ destination, space.readPointer source = some destination ∧
            space.pointers.earliestAnchor ≤ destination) ∧
      space.discoverPointers.outcome = .ok sources.length ∧
      space.discoverPointers.space = space.addPointers sources := by
  obtain ⟨outcome, registered⟩ := discoverPointers_eq base_lt
  refine ⟨fun word word_lt => toInt_target base_lt word_lt, space.alignedPointers.map Prod.fst,
    space.pairwise_alignedPointers, fun source => mem_map_fst_alignedPointers base_lt, ?_, ?_⟩
  · rw [outcome, List.length_map]
  · rw [registered]
    refine foldl_registerPointer_eq fun pointer found => ?_
    exact ((mem_alignedPointers_iff base_lt).1 found).2.1

/-- Three words and two bytes. The first word leads to the last byte, the second one
before the earliest allowed destination and the third one just there. -/
def tailed : Space where
  image := #[13, 0, 0, 8, 1, 0, 0, 8, 2, 0, 0, 8, 0, 0]
  pointers := { earliestAnchor := 2 }

/-- The first and the third word are found. -/
theorem discoverPointers_tailed :
    tailed.pointers.base < wordBound ∧
      ∃ sources : List Int, sources.length = 2 ∧ 0 ∈ sources ∧ 4 ∉ sources ∧ 8 ∈ sources ∧
        tailed.discoverPointers.space = tailed.addPointers sources := by
  have base_lt : tailed.pointers.base < wordBound := by decide
  obtain ⟨-, sources, -, mem_sources, outcome, registered⟩ :=
    discoverPointers_eq_addPointers tailed base_lt
  have length : tailed.discoverPointers.outcome = .ok 2 := by decide +kernel
  refine ⟨base_lt, sources, Except.ok.inj (outcome.symm.trans length), ?_, ?_, ?_, registered⟩
  · exact (mem_sources 0).2 ⟨by decide, by decide, by decide, 13, by decide +kernel, by decide⟩
  · intro member
    obtain ⟨-, -, -, destination, read, allowed⟩ := (mem_sources 4).1 member
    have before : tailed.readPointer 4 = some 1 := by decide +kernel
    rw [before] at read
    cases read
    exact absurd allowed (by decide)
  · exact (mem_sources 8).2 ⟨by decide, by decide, by decide, 2, by decide +kernel, by decide⟩

end Space

end ImageAtlas
