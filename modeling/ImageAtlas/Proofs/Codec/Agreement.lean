import ImageAtlas.Proofs.Region.Listing

/-!
# Encoding, measuring and rendering agree

A cell into which a text was encoded is measured up to its terminator and shown as the text,
wherever in an image it stands. What is measured at an address is in turn a text encoded into
as many bytes, and neither measure nor rendering depends on how far behind its terminator one
may look. Nothing is measured exactly if no such cell stands there
(`measure_ascii_eq_none_iff`).
-/

namespace ImageAtlas

namespace AsciiText

variable {bytes text rest : List UInt8}

/-- The text whose characters have the numbers of bytes. -/
def textOf (bytes : List UInt8) : String :=
  String.ofList (bytes.map fun byte => Char.ofNat byte.toNat)

/-- A text has as many characters as it is given bytes. -/
theorem length_textOf (bytes : List UInt8) : (textOf bytes).toList.length = bytes.length := by
  rw [textOf, String.toList_ofList, List.length_map]

/-- The bytes of a text of bytes. -/
theorem textBytes_textOf (bytes : List UInt8) : textBytes (textOf bytes) = bytes := by
  rw [textBytes, textOf, String.toList_ofList, List.map_map]
  refine List.map_id'' (fun byte => ?_) bytes
  rw [Function.comp_apply, toNat_charOfNat, UInt8.ofNat_toNat]

/-- A text of printable bytes is printable. -/
theorem printableText_textOf (printable : ∀ byte ∈ bytes, Printable byte) :
    PrintableText (textOf bytes) := by
  intro character member
  rw [textOf, String.toList_ofList] at member
  obtain ⟨byte, among, rfl⟩ := List.mem_map.1 member
  rw [toNat_charOfNat]
  exact printable byte among

namespace Terminated

/-- Of a row, what reaches to the terminator and no further is a row of the same text. -/
theorem take (terminated : Terminated bytes text rest) {count : Nat}
    (reached : text.length + 1 ≤ count) :
    Terminated (bytes.take count) text (rest.take (count - (text.length + 1))) where
  eq_append := by
    rw [terminated.eq_append, List.take_append, List.take_of_length_le (by omega),
      show count - text.length = count - (text.length + 1) + 1 by omega, List.take_succ_cons]
  printable := terminated.printable

/-- A row that is the beginning of another one has the same text. -/
theorem of_take {count : Nat} (terminated : Terminated (bytes.take count) text rest) :
    Terminated bytes text (rest ++ bytes.drop count) where
  eq_append := by
    conv_lhs => rw [← List.take_append_drop count bytes, terminated.eq_append]
    rw [List.append_assoc, List.cons_append]
  printable := terminated.printable

end Terminated

end AsciiText

namespace Image

/-- What a shorter cell holds, a longer one begins with. -/
theorem cell_take (image : Image) (address : Int) {length longer : Int} (le : length ≤ longer) :
    (image.cell address longer).take length.toNat = image.cell address length := by
  rw [cell, cell, List.take_take, Nat.min_eq_left (Int.toNat_le_toNat le)]

end Image

namespace TextCodec

open AsciiText

variable {image : Image} {address length longer total : Int}

section Measured

variable (nonneg : 0 ≤ address)
include nonneg

/-- What is measured is the text of the row of bytes at the address. -/
theorem measure_ascii_cell_iff :
    ascii.measure image address length = .ok (some total) ↔
      ∃ text rest, Terminated (image.cell address length) text rest ∧ total = text.length + 1 := by
  obtain ⟨place, rfl⟩ := Int.eq_ofNat_of_zero_le nonneg
  exact measure_ascii_eq_some_iff

/-- Where a text is measured, its characters and the terminator are the bytes of a cell that it
fills, and lie in the image. -/
theorem exists_row_of_measure (measured : ascii.measure image address length = .ok (some total)) :
    ∃ text, Terminated (image.cell address total) text [] ∧ total = text.length + 1 ∧
      total ≤ length ∧ address + total ≤ image.size := by
  obtain ⟨text, rest, terminated, rfl⟩ := (measure_ascii_cell_iff nonneg).1 measured
  have held := terminated.length_eq
  simp only [Image.cell, List.length_take, List.length_drop, Array.length_toList] at held
  have le : (text.length : Int) + 1 ≤ length := by omega
  have exactly := terminated.take (Nat.le_refl _)
  rw [Nat.sub_self, List.take_zero, ← Int.toNat_natCast (text.length + 1), Int.natCast_succ,
    image.cell_take address le] at exactly
  exact ⟨text, exactly, rfl, le, by omega⟩

/-- Nothing is measured exactly if no characters with a terminator behind them stand there
within reach. -/
theorem measure_ascii_eq_none_iff :
    ascii.measure image address length = .ok none ↔
      ¬ ∃ total, 1 ≤ total ∧ total ≤ length ∧ address + total ≤ image.size ∧
        ∃ text, Terminated (image.cell address total) text [] := by
  obtain ⟨answer, answered⟩ : ∃ answer, ascii.measure image address length = .ok answer :=
    ascii.measure_answers length nonneg
  rw [answered, Except.ok.injEq]
  cases answer with
  | none =>
      refine iff_of_true rfl ?_
      rintro ⟨total, -, le, -, text, terminated⟩
      rw [← image.cell_take address le] at terminated
      rw [(measure_ascii_cell_iff nonneg).2 ⟨text, _, terminated.of_take, rfl⟩] at answered
      cases answered
  | some total =>
      refine iff_of_false (by simp) fun absent => absent ?_
      obtain ⟨text, terminated, rfl, le, inside⟩ := exists_row_of_measure nonneg answered
      exact ⟨_, by omega, le, inside, text, terminated⟩

/-- A longer reach does not change what is measured. -/
theorem measure_ascii_of_le (measured : ascii.measure image address length = .ok (some total))
    (le : total ≤ longer) : ascii.measure image address longer = .ok (some total) := by
  obtain ⟨text, terminated, rfl, -⟩ := exists_row_of_measure nonneg measured
  rw [← image.cell_take address le] at terminated
  exact (measure_ascii_cell_iff nonneg).2 ⟨text, _, terminated.of_take, rfl⟩

/-- What is rendered ends where what is measured ends. -/
theorem render_ascii_of_measure (measured : ascii.measure image address length = .ok (some total)) :
    ascii.render image address length = ascii.render image address total := by
  obtain ⟨text, terminated, rfl, le, -⟩ := exists_row_of_measure nonneg measured
  have shown := terminated.visible_eq
  rw [← image.cell_take address le] at terminated
  rw [render_eq _ _ _ nonneg, render_eq _ _ _ nonneg, renderBytes, renderBytes,
    show ascii.terminator = AsciiText.terminator from rfl, shown, terminated.of_take.visible_eq]

/-- What is measured is encoded by its bytes, with no padding. -/
theorem encode_of_measure (measured : ascii.measure image address length = .ok (some total))
    (pad : UInt8) :
    ascii.encode (textOf (image.cell address (total - 1))) total pad.toNat =
      .ok (image.cell address total) := by
  obtain ⟨text, terminated, rfl, -⟩ := exists_row_of_measure nonneg measured
  have before : image.cell address ((text.length : Int) + 1 - 1) = text := by
    rw [← image.cell_take address (Int.sub_le_self _ Int.one_nonneg), terminated.eq_append,
      Int.add_sub_cancel, Int.toNat_natCast, List.take_left]
  rw [before]
  have characters := length_textOf text
  refine encode_eq_ok_iff.2 ⟨printableText_textOf terminated.printable, by omega, ?_, ?_⟩
  · rw [characters, Int.sub_self]
    decide
  · rw [textBytes_textOf, characters, Int.sub_self, terminated.eq_append]
    rfl

/-- What was encoded into a cell is measured and rendered there. -/
theorem measure_render_of_encode {text : String} {width : Int} {pad : UInt8}
    (encoded : ascii.encode text width pad.toNat = .ok (image.cell address width)) :
    ascii.measure image address width = .ok (some (text.toList.length + 1)) ∧
      ascii.render image address width = .ok ("\"" ++ escaped text ++ "\"") := by
  obtain ⟨printable, -, -, row⟩ := encode_eq_ok_iff.1 encoded
  constructor
  · refine (measure_ascii_cell_iff nonneg).2 ⟨_, _, row ▸ printable.terminated _, ?_⟩
    rw [textBytes, List.length_map]
  · rw [render_eq _ _ _ nonneg, row]
    exact congrArg Except.ok (printable.renderBytes_eq _)

end Measured

/-- An encoded cell has as many bytes as it was given. -/
theorem length_of_encode {text : String} {width : Int} {pad : UInt8} {bytes : List UInt8}
    (encoded : ascii.encode text width pad.toNat = .ok bytes) : (bytes.length : Int) = width := by
  obtain ⟨-, fits, -, rfl⟩ := encode_eq_ok_iff.1 encoded
  simp only [List.length_append, List.length_cons, List.length_replicate, textBytes,
    List.length_map]
  omega

/-- Encoding, measuring and rendering agree on every cell.

A text is refused exactly if it has a character that is not printable or does not fit its cell.
Any other is encoded into as many bytes as the cell has, unless the padding is longer than a
word counts; wherever in an image these bytes stand, the text is measured there with its
terminator and rendered escaped and between double quotation marks.

What is measured at an address is at least one byte and within reach; these bytes are what the
text of all but the last of them is encoded to, and they alone decide what is rendered and
measured with any reach from them on. Nothing is measured exactly if no such bytes lie in the
image. -/
theorem encode_measure_render_agree :
    (∀ (text : String) (width : Int) (pad : UInt8),
      ((∃ fault, ascii.encode text width pad.toNat = .error fault ∧ fault ≠ .tooLong) ↔
        ¬ PrintableText text ∨ width < text.toList.length + 1) ∧
      (PrintableText text → text.toList.length + 1 ≤ width →
        if wordBound ≤ width - (text.toList.length + 1) then
          ascii.encode text width pad.toNat = .error .tooLong
        else
          ∃ bytes, ascii.encode text width pad.toNat = .ok bytes ∧ (bytes.length : Int) = width ∧
            ∀ (image : Image) (address : Int), 0 ≤ address → image.cell address width = bytes →
              ascii.measure image address width = .ok (some (text.toList.length + 1)) ∧
                ascii.render image address width = .ok ("\"" ++ escaped text ++ "\""))) ∧
    ∀ (image : Image) (address length : Int), 0 ≤ address →
      (∀ total, ascii.measure image address length = .ok (some total) →
        1 ≤ total ∧ total ≤ length ∧
        (∀ pad : UInt8, ascii.encode (textOf (image.cell address (total - 1))) total pad.toNat =
          .ok (image.cell address total)) ∧
        ascii.render image address length = ascii.render image address total ∧
        ∀ longer, total ≤ longer → ascii.measure image address longer = .ok (some total)) ∧
      (ascii.measure image address length = .ok none ↔
        ¬ ∃ total, 1 ≤ total ∧ total ≤ length ∧ address + total ≤ image.size ∧
          ∃ text, (∀ byte ∈ text, Printable byte) ∧ image.cell address total = text ++ [0xFF]) := by
  refine ⟨fun text width pad => ⟨?_, ?_⟩, fun image address length nonneg => ⟨?_, ?_⟩⟩
  · exact encode_refused_iff
  · intro printable fits
    have encoded := encode_of_fits printable fits pad
    split
    · rename_i long
      rwa [if_pos long] at encoded
    · rename_i short
      rw [if_neg short] at encoded
      refine ⟨_, encoded, length_of_encode encoded, fun image address nonneg stored => ?_⟩
      exact measure_render_of_encode nonneg (stored ▸ encoded)
  · intro total measured
    obtain ⟨row, terminated, same, le, -⟩ := exists_row_of_measure nonneg measured
    exact ⟨by omega, le, encode_of_measure nonneg measured, render_ascii_of_measure nonneg measured,
      fun longer => measure_ascii_of_le nonneg measured⟩
  · rw [measure_ascii_eq_none_iff nonneg]
    refine not_congr (exists_congr fun total => and_congr_right fun _ => and_congr_right fun _ =>
      and_congr_right fun _ => exists_congr fun text => ?_)
    exact ⟨fun row => ⟨row.printable, row.eq_append⟩, fun row => ⟨row.2, row.1⟩⟩

/-- The empty text is printable and fits a cell of 2 ^ 63 + 1 bytes, yet it is not encoded into
one: its padding is longer than a word counts. -/
theorem encode_padded_beyond_word :
    PrintableText "" ∧ ("".toList.length : Int) + 1 ≤ 0x8000000000000001 ∧
      ascii.encode "" 0x8000000000000001 0 = .error .tooLong := by
  refine ⟨fun character none => absurd none (by simp), by decide, by decide⟩

end TextCodec

end ImageAtlas
