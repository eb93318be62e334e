/-!
# Classes of characters

A character class of the Unicode standard is kept as an ascending list of closed code-point
ranges. The blanks are its white space, together with the four information separators U+001C to
U+001F; stripping removes them at both ends of a text. The decimal digits come in blocks of ten
consecutive code points, from zero to nine, so that each block is named by its zero. The larger
classes have modules of their own.
-/

namespace ImageAtlas.Text

/-- Whether `code` lies in one of the ascending ranges. The scan stops at the
first range that begins beyond `code`. -/
def inRanges (code : Nat) : List (Nat × Nat) → Bool
  | [] => false
  | (first, last) :: rest =>
      if code < first then false else if code ≤ last then true else inRanges code rest

/-- A class given by ascending ranges of code points. -/
def within (ranges : List (Nat × Nat)) (character : Char) : Bool :=
  inRanges character.toNat ranges

/-- A code point found in a table lies between the ends of one of its ranges. -/
theorem exists_range_of_inRanges {code : Nat} {ranges : List (Nat × Nat)}
    (found : inRanges code ranges = true) :
    ∃ range ∈ ranges, range.1 ≤ code ∧ code ≤ range.2 := by
  induction ranges with
  | nil => simp [inRanges] at found
  | cons range rest inductionHypothesis =>
      obtain ⟨first, last⟩ := range
      simp only [inRanges] at found
      split at found
      · simp at found
      · split at found
        · exact ⟨(first, last), by simp, by omega, by omega⟩
        · obtain ⟨range, member, bounds⟩ := inductionHypothesis found
          exact ⟨range, by simp [member], bounds⟩

/-- The blank code points. -/
def blankRanges : List (Nat × Nat) :=
  [(0x9, 0xd), (0x1c, 0x20), (0x85, 0x85), (0xa0, 0xa0), (0x1680, 0x1680), (0x2000, 0x200a),
   (0x2028, 0x2029), (0x202f, 0x202f), (0x205f, 0x205f), (0x3000, 0x3000)]

/-- Whether a character is blank. -/
def isBlank (character : Char) : Bool :=
  within blankRanges character

/-- Removes the blanks in front. -/
def stripFront (characters : List Char) : List Char :=
  characters.dropWhile isBlank

/-- Removes the blanks at the end. -/
def stripBack (characters : List Char) : List Char :=
  (characters.reverse.dropWhile isBlank).reverse

/-- Removes the blanks at both ends. -/
def strip (characters : List Char) : List Char :=
  stripBack (stripFront characters)

/-- Stripping the front never lengthens a text. -/
theorem length_stripFront_le (characters : List Char) :
    (stripFront characters).length ≤ characters.length :=
  (List.dropWhile_sublist isBlank).length_le

/-- The code points of the zeros, ascending. -/
def digitZeros : List Nat :=
  [0x30, 0x660, 0x6f0, 0x7c0, 0x966, 0x9e6, 0xa66, 0xae6, 0xb66, 0xbe6, 0xc66, 0xce6, 0xd66,
   0xde6, 0xe50, 0xed0, 0xf20, 0x1040, 0x1090, 0x17e0, 0x1810, 0x1946, 0x19d0, 0x1a80, 0x1a90,
   0x1b50, 0x1bb0, 0x1c40, 0x1c50, 0xa620, 0xa8d0, 0xa900, 0xa9d0, 0xa9f0, 0xaa50, 0xabf0, 0xff10,
   0x104a0, 0x10d30, 0x11066, 0x110f0, 0x11136, 0x111d0, 0x112f0, 0x11450, 0x114d0, 0x11650,
   0x116c0, 0x11730, 0x118e0, 0x11950, 0x11c50, 0x11d50, 0x11da0, 0x16a60, 0x16ac0, 0x16b50,
   0x1d7ce, 0x1d7d8, 0x1d7e2, 0x1d7ec, 0x1d7f6, 0x1e140, 0x1e2f0, 0x1e950, 0x1fbf0]

/-- The value of a code point under the zeros given, if one of them is at most
nine below it. -/
def valueUnder (code : Nat) : List Nat → Option Nat
  | [] => none
  | base :: rest =>
      if code < base then none
      else if code < base + 10 then some (code - base)
      else valueUnder code rest

/-- The value of a decimal digit, or nothing for any other character. -/
def digitValue? (character : Char) : Option Nat :=
  valueUnder character.toNat digitZeros

/-- Whether a character is a decimal digit of some script. -/
def isDecimal (character : Char) : Bool :=
  (digitValue? character).isSome

/-- A digit value is below ten. -/
theorem valueUnder_lt_ten {code value : Nat} {zeros : List Nat}
    (found : valueUnder code zeros = some value) : value < 10 := by
  induction zeros with
  | nil => simp [valueUnder] at found
  | cons base rest inductionHypothesis =>
      simp only [valueUnder] at found
      split at found
      · simp at found
      · split at found
        · simp at found; omega
        · exact inductionHypothesis found

end ImageAtlas.Text
