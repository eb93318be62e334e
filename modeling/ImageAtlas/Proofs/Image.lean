import ImageAtlas.Image

/-!
# Words of an image

A word of four bytes can be read in two ways: as the number that a slice of four
bytes stands for, and as a word at its place. Inside the image both give the same
number. The image cut to whole words has the same words.
-/

namespace ImageAtlas

namespace Image

variable {image : Image} {place : Nat}

/-- The byte at a place that the image has. -/
theorem byteOrZero_of_lt (within : place < image.size) :
    image.byteOrZero place = image[place].toNat := by
  simp [byteOrZero, within]

/-- A byte is less than 256. -/
theorem byteOrZero_lt (image : Image) (place : Nat) : image.byteOrZero place < 0x100 := by
  rw [byteOrZero]
  cases image[place]? with
  | none => decide
  | some byte => exact byte.toNat_lt

/-- A word is less than the greatest number of four bytes. -/
theorem wordAt_lt (image : Image) (place : Nat) : image.wordAt place < 0x100000000 := by
  have first := image.byteOrZero_lt place
  have second := image.byteOrZero_lt (place + 1)
  have third := image.byteOrZero_lt (place + 2)
  have fourth := image.byteOrZero_lt (place + 3)
  rw [wordAt]
  omega

/-- Before an image there is no byte. -/
theorem byteAt_of_lt {address : Int} (below : address < 0) :
    image.byteAt address = .error (.outsideImage address image.size) := by
  rw [byteAt, if_neg (by omega)]

/-- Behind an image there is no byte. -/
theorem byteAt_of_le {address : Int} (beyond : image.size ≤ address) :
    image.byteAt address = .error (.outsideImage address image.size) := by
  have missing : image[address.toNat]? = none := by
    rw [Array.getElem?_eq_none_iff]
    omega
  rw [byteAt, if_pos (by omega), missing]

/-- Inside an image there is a byte. -/
theorem exists_byteAt {address : Int} (nonneg : 0 ≤ address) (inside : address < image.size) :
    ∃ byte, image.byteAt address = .ok byte := by
  have present : address.toNat < image.size := by omega
  rw [byteAt, if_pos nonneg, Array.getElem?_eq_getElem present]
  exact ⟨_, rfl⟩

/-- A byte that is there does not lie before the image. -/
theorem nonneg_of_byteAt_eq_ok {address : Int} {byte : UInt8}
    (found : image.byteAt address = .ok byte) : 0 ≤ address := by
  refine Int.not_lt.1 fun below => ?_
  rw [byteAt_of_lt below] at found
  cases found

/-- A byte that is missing, but not behind the image, lies before it. -/
theorem lt_of_byteAt_eq_error {address : Int} {fault : Fault}
    (failed : image.byteAt address = .error fault) (before : address < image.size) :
    address < 0 := by
  refine Int.not_le.1 fun nonneg => ?_
  obtain ⟨byte, found⟩ := exists_byteAt nonneg before
  rw [found] at failed
  cases failed

/-- A slice between two places of the image is made up of the bytes between them. -/
theorem toList_slice {first last : Nat} (ordered : first ≤ last) (within : last ≤ image.size) :
    (image.slice first last).toList = (image.toList.drop first).take (last - first) := by
  have bound_eq : ∀ {index : Nat}, index ≤ image.size → image.bound index = index := by
    intro index inside
    rw [bound, boundIn]
    omega
  rw [slice, bound_eq (Nat.le_trans ordered within), bound_eq within, Array.toList_extract,
    List.extract_eq_take_drop]

/-- Four bytes of the image stand for the word at their place. -/
theorem littleEndian_slice (within : place + 4 ≤ image.size) :
    littleEndian (image.slice place (place + 4 : Nat)).toList = image.wordAt place := by
  have bytes : (image.slice place (place + 4 : Nat)).toList =
      [image[place], image[place + 1], image[place + 2], image[place + 3]] := by
    rw [toList_slice (Nat.le_add_right place 4) within, Nat.add_sub_cancel_left,
      List.drop_eq_getElem_cons (by simp; omega), List.drop_eq_getElem_cons (by simp; omega),
      List.drop_eq_getElem_cons (by simp; omega), List.drop_eq_getElem_cons (by simp; omega)]
    rfl
  rw [bytes, wordAt, byteOrZero_of_lt (by omega), byteOrZero_of_lt (by omega),
    byteOrZero_of_lt (by omega), byteOrZero_of_lt (by omega)]
  simp only [littleEndian]
  omega

/-- Cutting to whole words leaves out less than a word. -/
theorem size_wholeWords (image : Image) :
    image.wholeWords.size = image.size - image.size % 4 := by
  rw [wholeWords, Array.size_extract]
  omega

/-- The words of the image cut to whole words are those of the image. -/
theorem wordAt_wholeWords (within : place + 4 ≤ image.wholeWords.size) :
    image.wholeWords.wordAt place = image.wordAt place := by
  rw [size_wholeWords] at within
  have byte_eq : ∀ {offset : Nat}, offset < 4 →
      image.wholeWords.byteOrZero (place + offset) = image.byteOrZero (place + offset) := by
    intro offset inWord
    rw [byteOrZero, byteOrZero, wholeWords, Array.getElem?_extract, if_pos (by omega),
      Nat.zero_add]
  rw [wordAt, wordAt, byte_eq (show 1 < 4 by decide), byte_eq (show 2 < 4 by decide),
    byte_eq (show 3 < 4 by decide)]
  have first := byte_eq (show 0 < 4 by decide)
  rw [Nat.add_zero] at first
  rw [first]

end Image

end ImageAtlas
