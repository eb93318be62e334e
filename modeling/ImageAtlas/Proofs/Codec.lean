import Mathlib.Data.List.Basic
import Mathlib.Data.List.TakeWhile
import ImageAtlas.Codec
import ImageAtlas.Proofs.Image

/-!
# Text cells as rows of bytes

The bytes of a cell are a row: characters, the terminator, and whatever stands behind
it (`AsciiText.Terminated`). Measuring finds the terminator of such a row, encoding
writes one, and rendering shows the characters before the terminator. What is said here
of measuring is said for addresses from zero on, where no index counts from the end.
-/

namespace ImageAtlas

namespace AsciiText

/-- A byte that stands for a character. -/
def Printable (byte : UInt8) : Prop :=
  0x20 ≤ byte.toNat ∧ byte.toNat ≤ 0x7E

instance : DecidablePred Printable :=
  fun byte => inferInstanceAs (Decidable (0x20 ≤ byte.toNat ∧ byte.toNat ≤ 0x7E))

/-- The characters are those from 0x20 to 0x7E. -/
theorem isCharacter_natCast {value : Nat} :
    isCharacter value = true ↔ 0x20 ≤ value ∧ value ≤ 0x7E := by
  simp only [isCharacter, Bool.and_eq_true, decide_eq_true_eq]
  omega

/-- The terminator is the byte 0xFF. -/
theorem eq_terminator_iff {byte : UInt8} : (byte.toNat : Int) = terminator ↔ byte = 0xFF := by
  rw [terminator, ← UInt8.toNat_inj]
  exact Int.ofNat_inj

/-- The terminator is no character. -/
theorem Printable.ne_terminator {byte : UInt8} (printable : Printable byte) : byte ≠ 0xFF := by
  rintro rfl
  exact absurd printable.2 (by decide)

/-- A row of bytes made up of the characters of a text, the terminator and a rest. -/
structure Terminated (bytes text rest : List UInt8) : Prop where
  eq_append : bytes = text ++ 0xFF :: rest
  printable : ∀ byte ∈ text, Printable byte

namespace Terminated

variable {bytes text rest : List UInt8} {byte : UInt8}

/-- The terminator may stand first. -/
theorem nil (rest : List UInt8) : Terminated (0xFF :: rest) [] rest where
  eq_append := rfl
  printable := List.forall_mem_nil _

/-- A character may stand in front. -/
theorem cons (terminated : Terminated bytes text rest) (printable : Printable byte) :
    Terminated (byte :: bytes) (byte :: text) rest where
  eq_append := by
    rw [terminated.eq_append, List.cons_append]
  printable := List.forall_mem_cons.2 ⟨printable, terminated.printable⟩

/-- A terminated row begins with the terminator, or with a character in front of another
such row. -/
theorem cases_cons (terminated : Terminated (byte :: bytes) text rest) :
    (byte = 0xFF ∧ text = [] ∧ rest = bytes) ∨
      (Printable byte ∧ ∃ behind, text = byte :: behind ∧ Terminated bytes behind rest) := by
  obtain ⟨row, printable⟩ := terminated
  cases text with
  | nil =>
      obtain ⟨rfl, rfl⟩ := List.cons_eq_cons.1 row
      exact .inl ⟨rfl, rfl, rfl⟩
  | cons first behind =>
      obtain ⟨rfl, further⟩ := List.cons_eq_cons.1 row
      obtain ⟨head, tail⟩ := List.forall_mem_cons.1 printable
      exact .inr ⟨head, behind, rfl, further, tail⟩

/-- The number of bytes of a row. -/
theorem length_eq (terminated : Terminated bytes text rest) :
    bytes.length = text.length + 1 + rest.length := by
  rw [terminated.eq_append, List.length_append, List.length_cons]
  omega

/-- A terminated row has bytes. -/
theorem ne_nil (terminated : Terminated bytes text rest) : bytes ≠ [] := by
  simp [terminated.eq_append]

/-- What stands behind the terminator. -/
theorem drop_eq (terminated : Terminated bytes text rest) :
    bytes.drop (text.length + 1) = rest := by
  simp [terminated.eq_append]

/-- What comes before the terminator of a row is its text. -/
theorem visible_eq (terminated : Terminated bytes text rest) :
    visible terminator bytes = text := by
  have shown : ∀ byte ∈ text, decide ((byte.toNat : Int) ≠ terminator) = true := by
    intro byte member
    simpa [eq_terminator_iff] using (terminated.printable byte member).ne_terminator
  rw [visible, terminated.eq_append, List.takeWhile_append_of_pos shown]
  simp [eq_terminator_iff]

end Terminated

/-- Measuring from a place on finds the terminator of the row that stands there. -/
theorem measureFrom_eq_some_iff {image : Image} {reach place before total : Nat} :
    measureFrom terminator image reach place before = some total ↔
      ∃ text rest, Terminated ((image.toList.drop place).take reach) text rest ∧
        total = before + text.length + 1 := by
  induction reach generalizing place before with
  | zero =>
      simp only [measureFrom, List.take_zero, reduceCtorEq, false_iff]
      rintro ⟨text, rest, terminated, -⟩
      exact terminated.ne_nil rfl
  | succ reach inductionHypothesis =>
      have index : image.cyclic? place = image[place]? := by
        rw [Image.cyclic?, if_pos (Int.natCast_nonneg place), Int.toNat_natCast]
      rw [measureFrom, index]
      cases found : image[place]? with
      | none =>
          have past : image.toList.drop place = [] := by
            rw [List.drop_eq_nil_iff, Array.length_toList]
            exact Array.getElem?_eq_none_iff.1 found
          simp only [past, List.take_nil, reduceCtorEq, false_iff]
          rintro ⟨text, rest, terminated, -⟩
          exact terminated.ne_nil rfl
      | some byte =>
          obtain ⟨within, rfl⟩ := Array.getElem?_eq_some_iff.1 found
          have row : (image.toList.drop place).take (reach + 1) =
              image[place] :: (image.toList.drop (place + 1)).take reach := by
            rw [List.drop_eq_getElem_cons (by simpa using within), List.take_succ_cons,
              Array.getElem_toList]
          dsimp only
          rw [row]
          split
          · rename_i ends
            rw [eq_terminator_iff] at ends
            rw [ends]
            constructor
            · rintro ⟨rfl⟩
              exact ⟨[], _, .nil _, rfl⟩
            · rintro ⟨text, rest, terminated, rfl⟩
              rcases terminated.cases_cons with ⟨-, rfl, -⟩ | ⟨printable, -⟩
              · rfl
              · exact absurd rfl printable.ne_terminator
          · rename_i other
            rw [eq_terminator_iff] at other
            split
            · rename_i character
              have printable : Printable image[place] := isCharacter_natCast.1 character
              rw [← Int.natCast_succ, inductionHypothesis]
              constructor
              · rintro ⟨text, rest, terminated, rfl⟩
                refine ⟨_, _, terminated.cons printable, ?_⟩
                rw [List.length_cons]
                omega
              · rintro ⟨text, rest, terminated, rfl⟩
                rcases terminated.cases_cons with ⟨ends, -⟩ | ⟨-, behind, rfl, further⟩
                · exact absurd ends other
                · refine ⟨behind, rest, further, ?_⟩
                  rw [List.length_cons]
                  omega
            · rename_i strange
              refine iff_of_false (by simp) ?_
              rintro ⟨text, rest, terminated, -⟩
              rcases terminated.cases_cons with ⟨ends, -⟩ | ⟨printable, -⟩
              · exact other ends
              · exact strange (isCharacter_natCast.2 printable)

section Encoding

/-- A text whose characters are those of cells. -/
def PrintableText (text : String) : Prop :=
  ∀ character ∈ text.toList, 0x20 ≤ character.toNat ∧ character.toNat ≤ 0x7E

/-- The bytes of the characters of a text. -/
def textBytes (text : String) : List UInt8 :=
  text.toList.map fun character => UInt8.ofNat character.toNat

/-- A text with a backslash in front of each double quotation mark and backslash. -/
def escaped (text : String) : String :=
  String.ofList <| text.toList.flatMap fun character =>
    if character = '"' ∨ character = '\\' then ['\\', character] else [character]

variable {text : String}

/-- The byte of a printable character has its number. -/
theorem toNat_ofNat_of_le {character : Char} (small : character.toNat ≤ 0x7E) :
    (UInt8.ofNat character.toNat).toNat = character.toNat := by
  rw [UInt8.toNat_ofNat']
  omega

/-- The bytes of a printable text are printable. -/
theorem PrintableText.textBytes (printable : PrintableText text) :
    ∀ byte ∈ textBytes text, Printable byte := by
  intro byte member
  obtain ⟨character, among, rfl⟩ := List.mem_map.1 member
  obtain ⟨lower, upper⟩ := printable character among
  rw [Printable, toNat_ofNat_of_le upper]
  exact ⟨lower, upper⟩

/-- A printable text lies in the ASCII range. -/
theorem PrintableText.dropWhile_isAscii (printable : PrintableText text) :
    text.toList.dropWhile isAscii = [] := by
  rw [List.dropWhile_eq_nil_iff]
  intro character member
  have upper := (printable character member).2
  simp only [isAscii, decide_eq_true_eq]
  omega

/-- A text is printable if none of its characters is not. -/
theorem any_not_isCharacter_eq_false_iff :
    (text.toList.any fun character => !isCharacter character.toNat) = false ↔
      PrintableText text := by
  simp only [List.any_eq_false, Bool.not_eq_true, Bool.not_eq_false', isCharacter_natCast,
    PrintableText]

/-- The character of a byte has its number. -/
theorem toNat_charOfNat (byte : UInt8) : (Char.ofNat byte.toNat).toNat = byte.toNat := by
  have below := byte.toNat_lt
  have valid : byte.toNat.isValidChar := .inl (by omega)
  rw [Char.ofNat, dif_pos valid]
  rfl

/-- A byte is the byte of its value. -/
theorem byte?_toNat (byte : UInt8) : byte? byte.toNat = some byte := by
  have small := byte.toNat_lt
  simp only [byte?, Int.toNat_natCast, UInt8.ofNat_toNat]
  rw [if_pos (by omega)]

/-- A printable text that fits is written, with the terminator and padding. A cell whose
padding is longer than a word counts is not written. -/
theorem encode_of_fits {width : Int} (printable : PrintableText text)
    (fits : text.toList.length + 1 ≤ width) (pad : UInt8) :
    encode terminator text width pad.toNat =
      if wordBound ≤ width - (text.toList.length + 1) then .error .tooLong
      else .ok (textBytes text ++
        0xFF :: List.replicate (width - (text.toList.length + 1)).toNat pad) := by
  have ends : byte? terminator = some 0xFF := by decide
  simp only [encode, printable.dropWhile_isAscii, any_not_isCharacter_eq_false_iff.2 printable,
    ends, byte?_toNat, if_neg (Int.not_lt.2 fits), Bool.false_eq_true, if_false]
  rfl

/-- Any other text is refused, whatever its cell. -/
theorem exists_encode_refused {width : Int}
    (unfit : ¬ (PrintableText text ∧ text.toList.length + 1 ≤ width)) (pad : UInt8) :
    ∃ fault, encode terminator text width pad.toNat = .error fault ∧ fault ≠ .tooLong := by
  simp only [encode]
  cases beyond : text.toList.dropWhile isAscii with
  | cons first rest => exact ⟨_, rfl, by simp⟩
  | nil =>
      cases strange : text.toList.any fun character => !isCharacter character.toNat with
      | true => exact ⟨_, rfl, by simp⟩
      | false =>
          have printable := any_not_isCharacter_eq_false_iff.1 strange
          have wide : width < text.toList.length + 1 :=
            Int.not_le.1 fun fits => unfit ⟨printable, fits⟩
          simp only [Bool.false_eq_true, if_false, if_pos wide]
          exact ⟨_, rfl, by simp⟩

/-- So a text is refused exactly if a character of it is not printable or it does not fit. -/
theorem encode_refused_iff {width : Int} {pad : UInt8} :
    (∃ fault, encode terminator text width pad.toNat = .error fault ∧ fault ≠ .tooLong) ↔
      ¬ PrintableText text ∨ width < text.toList.length + 1 := by
  by_cases fit : PrintableText text ∧ text.toList.length + 1 ≤ width
  · refine iff_of_false ?_ ?_
    · rintro ⟨fault, refused, named⟩
      rw [encode_of_fits fit.1 fit.2] at refused
      split at refused
      · cases refused
        exact named rfl
      · cases refused
    · rintro (strange | narrow)
      · exact strange fit.1
      · exact absurd fit.2 (Int.not_le.2 narrow)
  · refine iff_of_true (exists_encode_refused fit pad) ?_
    rwa [not_and_or, Int.not_le] at fit

/-- Encoding writes the characters of a printable text that fits, the terminator and
padding. A cell whose padding is longer than a word counts is not written. -/
theorem encode_eq_ok_iff {width : Int} {pad : UInt8} {bytes : List UInt8} :
    encode terminator text width pad.toNat = .ok bytes ↔
      PrintableText text ∧ text.toList.length + 1 ≤ width ∧
        width - (text.toList.length + 1) < wordBound ∧
        bytes = textBytes text ++
          0xFF :: List.replicate (width - (text.toList.length + 1)).toNat pad := by
  by_cases fit : PrintableText text ∧ text.toList.length + 1 ≤ width
  · obtain ⟨printable, fits⟩ := fit
    rw [encode_of_fits printable fits]
    split
    · rename_i long
      exact iff_of_false (by simp) fun written => absurd long (Int.not_le.2 written.2.2.1)
    · rename_i short
      rw [Except.ok.injEq, eq_comm]
      exact ⟨fun same => ⟨printable, fits, Int.not_le.1 short, same⟩, fun written =>
        written.2.2.2⟩
  · obtain ⟨fault, refused, -⟩ := exists_encode_refused fit pad
    rw [refused]
    exact iff_of_false (by simp) fun written => fit ⟨written.1, written.2.1⟩

/-- An encoded cell is a row of its text. -/
theorem PrintableText.terminated (printable : PrintableText text) (rest : List UInt8) :
    Terminated (AsciiText.textBytes text ++ 0xFF :: rest) (AsciiText.textBytes text) rest where
  eq_append := rfl
  printable := printable.textBytes

/-- The bytes of a printable text are rendered as the text is escaped. -/
theorem PrintableText.flatMap_renderByte (printable : PrintableText text) :
    (AsciiText.textBytes text).flatMap renderByte = (escaped text).toList := by
  rw [escaped, String.toList_ofList, AsciiText.textBytes, List.flatMap_map]
  refine List.flatMap_congr fun character member => ?_
  have range := printable character member
  simp only [renderByte, toNat_ofNat_of_le range.2, isCharacter_natCast.2 range,
    Char.ofNat_toNat, Bool.not_true, Bool.false_eq_true, if_false]

/-- A row is rendered as its text is, escaped and between double quotation marks. -/
theorem PrintableText.renderBytes_eq (printable : PrintableText text) (rest : List UInt8) :
    renderBytes terminator (AsciiText.textBytes text ++ 0xFF :: rest) =
      "\"" ++ escaped text ++ "\"" := by
  rw [renderBytes, (printable.terminated rest).visible_eq, printable.flatMap_renderByte]
  apply String.toList_injective
  simp

end Encoding

end AsciiText

namespace Image

/-- How far an image reaches from a place on. -/
theorem reach_natCast (image : Image) (place : Nat) (length : Int) :
    image.reach place length = .ok (min length.toNat (image.size - place)) := by
  simp only [reach, if_pos (Int.natCast_nonneg place)]
  split
  · congr 1
    omega
  · congr 1
    omega

/-- The window at a place holds the bytes from there on. -/
theorem window_natCast (image : Image) (place : Nat) (length : Int) :
    image.window place length = .ok ((image.toList.drop place).take length.toNat) := by
  have bytes : (image.extract place (place + min length.toNat (image.size - place))).toList =
      (image.toList.drop place).take length.toNat := by
    rw [Array.toList_extract, List.extract_eq_take_drop, Nat.add_sub_cancel_left,
      List.take_eq_take_iff, List.length_drop, Array.length_toList]
    omega
  simp only [window, reach_natCast, if_pos (Int.natCast_nonneg place), Int.toNat_natCast, bytes]

end Image

namespace TextCodec

open AsciiText

/-- From a place on, a text is measured that stands there with its terminator. -/
theorem measure_ascii_eq_some_iff {image : Image} {place : Nat} {length total : Int} :
    ascii.measure image place length = .ok (some total) ↔
      ∃ text rest, Terminated ((image.toList.drop place).take length.toNat) text rest ∧
        total = text.length + 1 := by
  have reached : (image.toList.drop place).take (min length.toNat (image.size - place)) =
      (image.toList.drop place).take length.toNat := by
    rw [List.take_eq_take_iff, List.length_drop, Array.length_toList]
    omega
  simp only [ascii, endedBy, measureText, Image.reach_natCast, Except.ok.injEq,
    Option.map_eq_some_iff, measureFrom_eq_some_iff, reached]
  constructor
  · rintro ⟨_, ⟨text, rest, terminated, rfl⟩, rfl⟩
    exact ⟨text, rest, terminated, by simp⟩
  · rintro ⟨text, rest, terminated, rfl⟩
    exact ⟨_, ⟨text, rest, terminated, rfl⟩, by simp⟩

end TextCodec

end ImageAtlas
