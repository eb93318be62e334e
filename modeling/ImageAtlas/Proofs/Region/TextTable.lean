import ImageAtlas.Proofs.Element.TextCell
import ImageAtlas.Proofs.Region.Listing

/-!
# Tables of encoded texts

Texts that were encoded into cells of one width and lie one after the other in an image
(`TextTable`) are found there as elements: no cell but the last can have padding behind
it, since a cell begins with a character or with the terminator. An array placed over
them lists the texts themselves, escaped and between double quotation marks.
-/

namespace ImageAtlas

open AsciiText

variable {image : Image} {place width : Nat} {texts : List String}
  {cell : String → List UInt8} {text : String} {index : Nat}

/-- Encoded texts of one width, at least two bytes, lie one after the other in an image. -/
structure TextTable (image : Image) (place width : Nat) (texts : List String)
    (cell : String → List UInt8) : Prop where
  two_le_width : 2 ≤ width
  encoded : ∀ text ∈ texts, TextCodec.ascii.encode text width 0 = .ok (cell text)
  stored : (image.slice place (place + texts.length * width : Nat)).toList = texts.flatMap cell

/-- A cell that was encoded with zero padding. -/
structure EncodedCell (width : Nat) (text : String) (bytes : List UInt8) : Prop where
  printable : PrintableText text
  length_eq : bytes.length = width
  eq_append : ∃ padding, bytes = textBytes text ++ 0xFF :: List.replicate padding padByte

/-- What is encoded with zero padding is such a cell. -/
theorem encodedCell_of_encode {bytes : List UInt8}
    (encoded : TextCodec.ascii.encode text width 0 = .ok bytes) :
    EncodedCell width text bytes := by
  change TextCodec.ascii.encode text width padByte.toNat = .ok bytes at encoded
  obtain ⟨printable, fits, -, rfl⟩ := encode_eq_ok_iff.1 encoded
  refine ⟨printable, ?_, _, rfl⟩
  simp only [List.length_append, List.length_cons, List.length_replicate, textBytes,
    List.length_map]
  omega

namespace EncodedCell

variable {bytes : List UInt8}

/-- An encoded cell of at least two bytes is a text cell: it has a character or padding. -/
theorem textCell (cell : EncodedCell width text bytes) (wide : 2 ≤ width) : TextCell bytes := by
  obtain ⟨printable, length, padding, rfl⟩ := cell
  rw [(printable.terminated _).textCell_iff]
  refine ⟨fun byte member => .inl (List.eq_of_mem_replicate member), ?_⟩
  cases padding with
  | zero =>
      obtain ⟨byte, member⟩ : ∃ byte, byte ∈ textBytes text := by
        refine List.exists_mem_of_length_pos ?_
        rw [List.length_append, List.length_cons, List.length_replicate] at length
        omega
      exact ⟨byte, List.mem_append_left _ member,
        (printable.textBytes byte member).ne_terminator⟩
  | succ padding => exact ⟨padByte, by simp [List.replicate_succ], by decide⟩

/-- An encoded cell does not begin with padding. -/
theorem head?_ne_padByte (cell : EncodedCell width text bytes) : bytes.head? ≠ some padByte := by
  obtain ⟨printable, -, padding, rfl⟩ := cell
  have printed := printable.textBytes
  cases first : textBytes text with
  | nil => simp [padByte]
  | cons byte rest =>
      have lower := (printed byte (first ▸ List.mem_cons_self)).1
      rintro ⟨rfl⟩
      exact absurd lower (by decide)

end EncodedCell

/-- The row of one index among rows of one length that stand one after the other. -/
theorem take_drop_flatMap (uniform : ∀ text ∈ texts, (cell text).length = width)
    (found : texts[index]? = some text) :
    ((texts.flatMap cell).drop (index * width)).take width = cell text := by
  induction texts generalizing index with
  | nil => cases found
  | cons first rest inductionHypothesis =>
      obtain ⟨length, further⟩ := List.forall_mem_cons.1 uniform
      rw [List.flatMap_cons]
      cases index with
      | zero =>
          cases found
          rw [Nat.zero_mul, List.drop_zero, ← length, List.take_left]
      | succ index =>
          rw [Nat.succ_mul, Nat.add_comm, ← List.drop_drop, ← length, List.drop_left, length]
          exact inductionHypothesis further found

/-- What has an index below a number of rows ends with them at the latest. -/
theorem row_ends_le {rows : Nat} (before : index < rows) :
    index * width + width ≤ rows * width := by
  rw [← Nat.succ_mul]
  exact Nat.mul_le_mul_right width before

namespace TextTable

variable (table : TextTable image place width texts cell)
include table

/-- Every cell of a table is an encoded one. -/
theorem encodedCell (member : text ∈ texts) : EncodedCell width text (cell text) :=
  encodedCell_of_encode (table.encoded text member)

/-- The cells of a table have one length. -/
theorem length_cell (text : String) (member : text ∈ texts) : (cell text).length = width :=
  (table.encodedCell member).length_eq

/-- A table lies inside the image. -/
theorem inside (some : texts ≠ []) : place + texts.length * width ≤ image.size := by
  have length : (texts.flatMap cell).length = texts.length * width := by
    rw [List.length_flatMap, List.map_congr_left table.length_cell, List.map_const',
      List.sum_replicate_nat]
  have count := List.length_pos_iff.2 some
  have bytes : 0 < texts.length * width := Nat.mul_pos count (by have := table.two_le_width; omega)
  rw [← table.stored, Image.slice, Array.length_toList, Array.size_extract, Image.bound,
    Image.bound, Image.boundIn, Image.boundIn] at length
  omega

/-- The bytes of one cell of a table. -/
theorem row (found : texts[index]? = some text) :
    (image.toList.drop (place + index * width)).take width = cell text := by
  have some : texts ≠ [] := by
    rintro rfl
    cases found
  have ends : index * width + width ≤ texts.length * width :=
    row_ends_le (List.getElem?_eq_some_iff.1 found).1
  rw [← take_drop_flatMap table.length_cell found, ← table.stored,
    Image.toList_slice (Nat.le_add_right place _) (table.inside some), Nat.add_sub_cancel_left,
    List.drop_take, List.take_take, List.drop_drop, Nat.min_eq_left (by omega)]

/-- Where a cell of a table begins no padding stands. So none stands behind the cell in
front of it either. -/
theorem noPadAt_of_lt (behind : index < texts.length) :
    image.NoPadAt (place + index * width : Nat) := by
  have found := List.getElem?_eq_getElem behind
  have wide := table.two_le_width
  have row := table.row found
  have within := table.inside (List.ne_nil_of_length_pos (Nat.zero_lt_of_lt behind))
  have ends : index * width + width ≤ texts.length * width := row_ends_le behind
  have first : (cell texts[index]).head? = image[place + index * width]? := by
    rw [← row, List.head?_take, if_neg (by omega), List.head?_drop, Array.getElem?_toList]
  have other := (table.encodedCell (List.getElem_mem behind)).head?_ne_padByte
  rw [first] at other
  rw [Image.noPadAt_iff (by omega)]
  exact fun padded => other padded.2

/-- Where a table ends without padding behind it, every one of its cells is an element. -/
theorem fits (ends : image.NoPadAt (place + texts.length * width : Nat)) (name : String)
    (before : index < texts.length) :
    Layout.fits [⟨name, .delimitedText, width⟩] .ascii image (place + index * width : Nat) =
      .ok true := by
  have within := table.inside (List.ne_nil_of_length_pos (Nat.zero_lt_of_lt before))
  have bytes : index * width + width ≤ texts.length * width := row_ends_le before
  have noPad : image.NoPadAt (place + index * width + width : Nat) := by
    rw [Nat.add_assoc, ← Nat.succ_mul]
    rcases Nat.lt_or_eq_of_le (Nat.succ_le_of_lt before) with more | last
    · exact table.noPadAt_of_lt more
    · rw [last]
      exact ends
  have cell := (table.encodedCell (List.getElem_mem before)).textCell table.two_le_width
  rw [← table.row (List.getElem?_eq_getElem before)] at cell
  have fits : textFits .ascii image (place + index * width : Nat) width true = .ok true :=
    (textFits_ascii_iff (by omega)).2 ⟨cell, fun _ => noPad⟩
  have inside : ¬ (image.size : Int) < (place + index * width : Nat) + (width : Int) := by omega
  rw [Layout.fits, if_neg (by omega)]
  simp only [Layout.segmentsFit, if_neg inside]
  rw [show ([(⟨name, .delimitedText, width⟩ : Segment)].length == 1) = true from rfl, fits]

/-- The cell of a table is shown as its text, escaped and between double quotation marks. -/
theorem renderBytes_cell (found : texts[index]? = some text) :
    renderBytes terminator (image.cell (place + index * width : Nat) width) =
      "\"" ++ escaped text ++ "\"" := by
  have encoded := table.encodedCell (List.mem_of_getElem? found)
  obtain ⟨padding, bytes⟩ := encoded.eq_append
  rw [Image.cell, Int.toNat_natCast, Int.toNat_natCast, table.row found, bytes]
  exact encoded.printable.renderBytes_eq _

end TextTable

/-- An element of a single text of at least two bytes is plain. -/
theorem Layout.plain_single (name : String) (wide : 2 ≤ width) :
    Layout.Plain [⟨name, .delimitedText, width⟩] where
  ne_nil := List.cons_ne_nil _ _
  kind := by simp
  one_le_length := by
    simp only [List.mem_singleton, forall_eq]
    omega

/-- The line that shows an element of one text. -/
def textLine (text : String) : String :=
  "+\"" ++ escaped text ++ "\"\n"

namespace TextTable

variable (table : TextTable image place width texts cell)
include table

/-- The line of an element that lies over a table shows a text of the table. -/
theorem line_eq {region : ArrayRegion} {name : String} (start : region.start = place)
    (layout : region.layout = [⟨name, .delimitedText, width⟩]) (found : texts[index]? = some text) :
    region.line terminator image index = textLine text := by
  have address : region.cellAddress index 0 = (place + index * width : Nat) := by
    simp [ArrayRegion.cellAddress, ArrayRegion.addressOf, ArrayRegion.elementAddress,
      ArrayRegion.elementLength, start, layout, Layout.width]
  simp only [ArrayRegion.line, ArrayRegion.cellsText, layout, List.mapIdx_cons, List.mapIdx_nil,
    address, table.renderBytes_cell found]
  apply String.toList_injective
  simp [textLine]

/-- An array of single texts that lies over a table shows the texts of the table. -/
theorem linesFrom_eq {region : ArrayRegion} {name : String} (start : region.start = place)
    (layout : region.layout = [⟨name, .delimitedText, width⟩]) {remaining : Nat}
    (all : index + remaining = texts.length) :
    region.linesFrom (TextCodec.ascii.render image) remaining index =
      .ok ((texts.drop index).map textLine) := by
  have plain : region.layout.Plain := layout ▸ Layout.plain_single name table.two_le_width
  have nonneg : 0 ≤ region.start := start ▸ Int.natCast_nonneg place
  rw [region.linesFrom_eq plain nonneg, Except.ok.injEq]
  refine List.ext_getElem (by simp; omega) fun further before _ => ?_
  rw [List.length_map, List.length_range'] at before
  rw [List.getElem_map, List.getElem_range', List.getElem_map, List.getElem_drop, Nat.one_mul]
  exact table.line_eq start layout (List.getElem?_eq_getElem (by omega))

end TextTable

/-- Texts that were encoded into cells of one width of at least two bytes and lie one
after the other in an image, with no padding behind the last, are found as elements of a
single text: so many follow one another there, and no more if none fits behind them. An
array of so many of these elements placed there lists the texts, each on a line behind a
plus sign, between double quotation marks and with a backslash in front of each double
quotation mark and backslash. -/
theorem TextTable.found_and_listed (table : TextTable image place width texts cell)
    (ends : image.NoPadAt (place + texts.length * width : Nat)) (name : String) :
    (∃ count, Layout.count [⟨name, .delimitedText, width⟩] .ascii image place none = .ok count ∧
      texts.length ≤ count ∧
      (Layout.fits [⟨name, .delimitedText, width⟩] .ascii image
        (place + texts.length * width : Nat) = .ok false → count = texts.length)) ∧
    ∀ region : ArrayRegion, region.start = place →
      region.layout = [⟨name, .delimitedText, width⟩] → region.count = texts.length →
      region.serialize image .ascii = .ok (String.join (texts.map textLine)) := by
  have bytes : Layout.width [⟨name, .delimitedText, width⟩] = width := by
    simp [Layout.width]
  have elements : ∀ index < texts.length, Layout.fits [⟨name, .delimitedText, width⟩] .ascii image
      (place + index * Layout.width [⟨name, .delimitedText, width⟩]) = .ok true := by
    intro index before
    rw [bytes, ← Int.natCast_mul, ← Int.natCast_add]
    exact table.fits ends name before
  constructor
  · obtain ⟨count, run, counted⟩ :=
      (Layout.plain_single name table.two_le_width).exists_isRun .ascii image place
    refine ⟨count, counted, ?_, ?_⟩
    · by_contra fewer
      have failed := run.here
      rw [elements count (Nat.lt_of_not_le fewer)] at failed
      cases failed
    · intro failed
      refine run.unique ⟨fun before => elements _ before, ?_⟩
      rw [bytes, ← Int.natCast_mul, ← Int.natCast_add]
      exact failed
  · intro region start layout count
    rw [ArrayRegion.serialize, count, table.linesFrom_eq start layout (Nat.zero_add _),
      List.drop_zero]
    rfl

/-- Three texts in cells of four bytes, one of them empty and one with a double quotation
mark, between two other bytes. -/
def threeCells : Image :=
  #[9, 65, 98, 0xFF, 0, 0xFF, 0, 0, 0, 120, 34, 121, 0xFF, 5]

/-- The cell of four bytes of a text. -/
def cellOfFour (text : String) : List UInt8 :=
  textBytes text ++ 0xFF :: List.replicate (3 - text.toList.length) padByte

/-- The three texts are stored there. -/
theorem textTable_threeCells : TextTable threeCells 1 4 ["Ab", "", "x\"y"] cellOfFour where
  two_le_width := by decide
  encoded := by
    simp only [List.forall_mem_cons, List.not_mem_nil, false_implies, implies_true, and_true]
    exact ⟨rfl, rfl, rfl⟩
  stored := rfl

/-- Three texts are counted, and listed with the quotation mark escaped. -/
theorem threeCells_found_and_listed :
    Layout.count [⟨"n", .delimitedText, 4⟩] .ascii threeCells 1 none = .ok 3 ∧
      ArrayRegion.serialize
        { start := 1, schemaText := "[n\"\"4]3", layout := [⟨"n", .delimitedText, 4⟩]
          lengthRule := .fixed 3, count := 3, layout_ne_nil := List.cons_ne_nil _ _ }
        threeCells .ascii = .ok "+\"Ab\"\n+\"\"\n+\"x\\\"y\"\n" := by
  have ends : threeCells.NoPadAt (1 + 3 * 4 : Nat) := .inr ⟨5, rfl, by decide⟩
  obtain ⟨⟨count, counted, -, exact⟩, listed⟩ := textTable_threeCells.found_and_listed ends "n"
  refine ⟨?_, listed _ rfl rfl rfl⟩
  obtain rfl : count = 3 := exact rfl
  exact counted

end ImageAtlas
