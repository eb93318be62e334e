import ImageAtlas.Proofs.Codec
import ImageAtlas.Proofs.Element
import ImageAtlas.Proofs.Region.Coordinates
import ImageAtlas.Proofs.Text.Hexadecimal
import ImageAtlas.Region.Listing

/-!
# What a listing tells

A listing is written in a code from which what is written can be read off, although
nothing stands between bytes, cells and lines: a byte is shown by characters of which no
other byte's are the beginning, a cell ends with a quotation mark with which no shown byte
begins, and a line ends with a line feed with which no cell begins (`SelfDelimiting`). So
a listing tells its rows of cells (`rows_eq_of_listing`).

What a cell shows are its visible bytes. So two images have the same listing of an array
if and only if they agree in the visible bytes of its cells. A cell is read at the
address whose coordinates are its element, its segment and place zero.
-/

namespace ImageAtlas

namespace Text

variable {α : Type}

/-- What is written in a code can be told from its beginning alone, whatever follows. -/
def SelfDelimiting (code : α → List Char) : Prop :=
  ∀ ⦃first second rest otherRest⦄, code first ++ rest = code second ++ otherRest →
    first = second ∧ rest = otherRest

/-- Items one after the other in a code, up to a character behind the last. -/
def closedBy (code : α → List Char) (stop : Char) (items : List α) : List Char :=
  items.flatMap code ++ [stop]

/-- Without items the last character comes first. -/
theorem closedBy_nil_append (code : α → List Char) (stop : Char) (rest : List Char) :
    closedBy code stop [] ++ rest = stop :: rest :=
  rfl

/-- The first item comes first. -/
theorem closedBy_cons_append (code : α → List Char) (stop : Char) (item : α) (items : List α)
    (rest : List Char) :
    closedBy code stop (item :: items) ++ rest =
      code item ++ (closedBy code stop items ++ rest) := by
  rw [closedBy, closedBy, List.flatMap_cons]
  simp only [List.append_assoc]

namespace SelfDelimiting

variable {code : α → List Char}

/-- A mark may stand in front of everything. -/
theorem marked (selfDelimiting : SelfDelimiting code) (mark : Char) :
    SelfDelimiting fun item => mark :: code item := by
  intro first second rest otherRest same
  exact selfDelimiting (List.cons.inj same).2

/-- Items may follow one another up to a character with which none of them begins. -/
theorem closedBy (selfDelimiting : SelfDelimiting code) {stop : Char}
    (apart : ∀ item rest otherRest, code item ++ rest ≠ stop :: otherRest) :
    SelfDelimiting (closedBy code stop) := by
  intro first second rest otherRest same
  induction first generalizing second with
  | nil =>
      rw [closedBy_nil_append] at same
      cases second with
      | nil => exact ⟨rfl, (List.cons.inj same).2⟩
      | cons item items =>
          rw [closedBy_cons_append] at same
          exact absurd same.symm (apart item _ _)
  | cons item items inductionHypothesis =>
      rw [closedBy_cons_append] at same
      cases second with
      | nil => exact absurd same (apart item _ _)
      | cons other others =>
          rw [closedBy_cons_append] at same
          obtain ⟨rfl, behind⟩ := selfDelimiting same
          obtain ⟨rfl, sameRest⟩ := inductionHypothesis behind
          exact ⟨rfl, sameRest⟩

end SelfDelimiting

end Text

namespace AsciiText

open Text

/-- How a byte is shown: as the character that it is, with a backslash in front of a
quotation mark and of a backslash, or else by its two hexadecimal digits. -/
inductive Shown (byte : UInt8) : List Char → Prop where
  | plain {character : Char} (code : character.toNat = byte.toNat) (printable : Printable byte)
      (noQuote : character ≠ '"') (noBackslash : character ≠ '\\') : Shown byte [character]
  | marked {character : Char} (code : character.toNat = byte.toNat)
      (special : character = '"' ∨ character = '\\') : Shown byte ['\\', character]
  | coded {high low : Char} (upper : hexValue? high = some (byte.toNat / 16))
      (lower : hexValue? low = some (byte.toNat % 16)) : Shown byte ['\\', 'x', high, low]

/-- A byte has two hexadecimal digits. -/
theorem padded_hexCharacters {value : Nat} (below : value < 256) :
    padded 2 (hexCharacters value) =
      [digitCharacter (value / 16), digitCharacter (value % 16)] := by
  revert value
  decide +kernel

/-- Every byte is shown. -/
theorem shown_renderByte (byte : UInt8) : Shown byte (renderByte byte) := by
  have below := byte.toNat_lt
  rw [renderByte]
  split
  · rw [padded_hexCharacters below]
    exact .coded (hexValue?_digitCharacter (by omega)) (hexValue?_digitCharacter (by omega))
  · rename_i character
    have printable : Printable byte := by simpa [isCharacter_natCast, Printable] using character
    have code := toNat_charOfNat byte
    dsimp only
    split
    · rename_i special
      exact .marked code special
    · rename_i ordinary
      rw [not_or] at ordinary
      exact .plain code printable ordinary.1 ordinary.2

namespace Shown

variable {byte other : UInt8} {characters otherCharacters rest otherRest : List Char}

/-- What shows a byte tells that byte, whatever follows. -/
theorem unique (shown : Shown byte characters) (otherShown : Shown other otherCharacters)
    (same : characters ++ rest = otherCharacters ++ otherRest) :
    byte = other ∧ rest = otherRest := by
  cases shown with
  | plain code printable noQuote noBackslash =>
      cases otherShown with
      | plain otherCode _ _ _ =>
          obtain ⟨rfl, sameRest⟩ := List.cons.inj same
          exact ⟨UInt8.toNat_inj.1 (code.symm.trans otherCode), sameRest⟩
      | marked _ _ => exact absurd (List.cons.inj same).1 noBackslash
      | coded _ _ => exact absurd (List.cons.inj same).1 noBackslash
  | marked code special =>
      cases otherShown with
      | plain _ _ _ noBackslash => exact absurd (List.cons.inj same).1.symm noBackslash
      | marked otherCode _ =>
          obtain ⟨rfl, sameRest⟩ := List.cons.inj (List.cons.inj same).2
          exact ⟨UInt8.toNat_inj.1 (code.symm.trans otherCode), sameRest⟩
      | coded _ _ =>
          obtain ⟨rfl, -⟩ := List.cons.inj (List.cons.inj same).2
          exact absurd special (by decide)
  | coded upper lower =>
      cases otherShown with
      | plain _ _ _ noBackslash => exact absurd (List.cons.inj same).1.symm noBackslash
      | marked _ special =>
          obtain ⟨rfl, -⟩ := List.cons.inj (List.cons.inj same).2
          exact absurd special (by decide)
      | coded otherUpper otherLower =>
          simp only [List.cons_append, List.nil_append, List.cons.injEq, true_and] at same
          obtain ⟨rfl, rfl, sameRest⟩ := same
          rw [upper, Option.some.injEq] at otherUpper
          rw [lower, Option.some.injEq] at otherLower
          exact ⟨UInt8.toNat_inj.1 (by omega), sameRest⟩

/-- A quotation mark that ends a cell does not show a byte. -/
theorem append_ne_quote (shown : Shown byte characters) :
    characters ++ rest ≠ '"' :: otherRest := by
  intro same
  cases shown with
  | plain _ _ noQuote _ => exact noQuote (List.cons.inj same).1
  | marked _ _ => exact absurd (List.cons.inj same).1 (by decide)
  | coded _ _ => exact absurd (List.cons.inj same).1 (by decide)

/-- No byte is shown by a line feed. -/
theorem lineFeed_not_mem (shown : Shown byte characters) : '\n' ∉ characters := by
  intro member
  cases shown with
  | plain code printable _ _ =>
      rw [List.mem_singleton] at member
      have bounds := printable.1
      rw [← code, ← member] at bounds
      exact absurd bounds (by decide)
  | marked _ special =>
      simp only [List.mem_cons, List.not_mem_nil, or_false] at member
      rcases member with backslash | rfl
      · exact absurd backslash (by decide)
      · exact absurd special (by decide)
  | coded upper lower =>
      have noDigit : hexValue? '\n' = none := rfl
      simp only [List.mem_cons, List.not_mem_nil, or_false] at member
      rcases member with backslash | letter | rfl | rfl
      · exact absurd backslash (by decide)
      · exact absurd letter (by decide)
      · rw [noDigit] at upper
        cases upper
      · rw [noDigit] at lower
        cases lower

end Shown

/-- The characters that show a row of bytes between double quotation marks. -/
def quoted (bytes : List UInt8) : List Char :=
  '"' :: closedBy renderByte '"' bytes

/-- The characters of a line that shows cells, each by its bytes. -/
def lineOf (cells : List (List UInt8)) : List Char :=
  '+' :: closedBy quoted '\n' cells

/-- Quoted bytes can be told apart. -/
theorem selfDelimiting_quoted : SelfDelimiting quoted := by
  have bytes : SelfDelimiting renderByte := fun first second _ _ same =>
    (shown_renderByte first).unique (shown_renderByte second) same
  exact (bytes.closedBy fun byte _ _ => (shown_renderByte byte).append_ne_quote).marked '"'

/-- Lines can be told apart. -/
theorem selfDelimiting_lineOf : SelfDelimiting lineOf := by
  refine (selfDelimiting_quoted.closedBy ?_).marked '+'
  intro cell rest otherRest same
  exact absurd (List.cons.inj same).1 (by decide)

/-- A listing tells its rows of cells. -/
theorem rows_eq_of_listing {rows otherRows : List (List (List UInt8))}
    (same : rows.flatMap lineOf = otherRows.flatMap lineOf) : rows = otherRows := by
  -- Any character with which no line begins would do.
  have told : SelfDelimiting (closedBy lineOf '\n') := by
    refine selfDelimiting_lineOf.closedBy ?_
    intro cells rest otherRest begins
    exact absurd (List.cons.inj begins).1 (by decide)
  have sameClosed : closedBy lineOf '\n' rows = closedBy lineOf '\n' otherRows := by
    rw [closedBy, closedBy, same]
  exact (told (congrArg (· ++ []) sameClosed)).1

/-- A cell is shown without a line feed. -/
theorem lineFeed_not_mem_renderBytes (terminator : Int) (bytes : List UInt8) :
    '\n' ∉ (renderBytes terminator bytes).toList := by
  intro member
  simp only [renderBytes, String.toList_ofList, List.cons_append, List.mem_cons,
    List.mem_append, List.mem_flatMap, List.not_mem_nil, or_false] at member
  rcases member with opening | ⟨byte, -, inByte⟩ | closing
  · exact absurd opening (by decide)
  · exact (shown_renderByte byte).lineFeed_not_mem inByte
  · exact absurd closing (by decide)

end AsciiText

/-- The bytes of a cell from an address on, as far as the image goes. -/
def Image.cell (image : Image) (address length : Int) : List UInt8 :=
  (image.toList.drop address.toNat).take length.toNat

/-- A cell is rendered by its bytes. -/
theorem TextCodec.render_eq (codec : TextCodec) (image : Image) {address : Int} (length : Int)
    (nonneg : 0 ≤ address) : codec.render image address length =
      .ok (AsciiText.renderBytes codec.terminator (image.cell address length)) := by
  obtain ⟨place, rfl⟩ := Int.eq_ofNat_of_zero_le nonneg
  rw [render, Image.window_natCast, Image.cell, Int.toNat_natCast]

/-- The text of an element is that of its cells, each at its address. -/
theorem Layout.elementText_eq {layout : Layout}
    (texts : ∀ segment ∈ layout, segment.kind = .delimitedText)
    (widths : ∀ segment ∈ layout, 0 ≤ segment.length) (codec : TextCodec) (image : Image)
    {address : Int} (nonneg : 0 ≤ address) :
    layout.elementText (codec.render image) address =
      .ok (String.join (layout.mapIdx fun place segment =>
        AsciiText.renderBytes codec.terminator
          (image.cell (address + layout.widthBefore place) segment.length))) := by
  induction layout generalizing address with
  | nil => rfl
  | cons first rest inductionHypothesis =>
      obtain ⟨firstText, restTexts⟩ := List.forall_mem_cons.1 texts
      obtain ⟨firstWidth, restWidths⟩ := List.forall_mem_cons.1 widths
      have behind : 0 ≤ address + first.length := Int.add_nonneg nonneg firstWidth
      simp only [elementText, firstText, codec.render_eq image first.length nonneg,
        inductionHypothesis restTexts restWidths behind, List.mapIdx_cons, widthBefore_zero,
        widthBefore_cons_succ, Int.add_zero, Int.add_assoc]
      congr 1
      apply String.toList_injective
      simp

namespace ArrayRegion

open AsciiText

variable {region : ArrayRegion}

/-- Where the cell of a segment of an element begins. -/
def cellAddress (region : ArrayRegion) (index place : Nat) : Int :=
  region.addressOf ⟨index, place, 0⟩

/-- The visible bytes of the cells of an element. -/
def visibleCells (region : ArrayRegion) (terminator : Int) (image : Image) (index : Nat) :
    List (List UInt8) :=
  region.layout.mapIdx fun place segment =>
    visible terminator (image.cell (region.cellAddress index place) segment.length)

/-- The text of the cells of an element. -/
def cellsText (region : ArrayRegion) (terminator : Int) (image : Image) (index : Nat) : String :=
  String.join <| region.layout.mapIdx fun place segment =>
    renderBytes terminator (image.cell (region.cellAddress index place) segment.length)

/-- The line of an element. -/
def line (region : ArrayRegion) (terminator : Int) (image : Image) (index : Nat) : String :=
  "+" ++ region.cellsText terminator image index ++ "\n"

/-- The text of cells shows their visible bytes. -/
theorem toList_cellsText (terminator : Int) (image : Image) (index : Nat) :
    (region.cellsText terminator image index).toList =
      (region.visibleCells terminator image index).flatMap quoted := by
  have shown : (region.layout.mapIdx fun place segment =>
      renderBytes terminator (image.cell (region.cellAddress index place) segment.length)) =
      (region.visibleCells terminator image index).map fun bytes =>
        String.ofList (quoted bytes) := by
    apply List.ext_getElem?
    intro place
    rw [visibleCells, List.getElem?_map, List.getElem?_mapIdx, List.getElem?_mapIdx,
      Option.map_map]
    rfl
  rw [cellsText, shown, String.toList_join, List.flatMap_map]
  simp only [String.toList_ofList]

/-- A line shows the visible bytes of its cells. -/
theorem toList_line (terminator : Int) (image : Image) (index : Nat) :
    (region.line terminator image index).toList =
      lineOf (region.visibleCells terminator image index) := by
  rw [line, String.toList_append, String.toList_append, toList_cellsText]
  rfl

/-- Cells are shown without a line feed. -/
theorem lineFeed_not_mem_cellsText (terminator : Int) (image : Image) (index : Nat) :
    '\n' ∉ (region.cellsText terminator image index).toList := by
  intro member
  rw [cellsText, String.toList_join] at member
  obtain ⟨text, listed, inText⟩ := List.mem_flatMap.1 member
  obtain ⟨place, before, rfl⟩ := List.mem_mapIdx.1 listed
  exact lineFeed_not_mem_renderBytes _ _ inText

/-- Two images show the same lines of an array if and only if they agree in the visible
bytes of its cells. -/
theorem join_lines_eq_iff {terminator : Int} {image other : Image} :
    String.join ((List.range region.count).map (region.line terminator image)) =
        String.join ((List.range region.count).map (region.line terminator other)) ↔
      ∀ index < region.count,
        region.visibleCells terminator image index =
          region.visibleCells terminator other index := by
  have characters : ∀ shown : Image,
      (String.join ((List.range region.count).map (region.line terminator shown))).toList =
        ((List.range region.count).map (region.visibleCells terminator shown)).flatMap lineOf := by
    intro shown
    rw [String.toList_join, List.flatMap_map, List.flatMap_map]
    simp only [toList_line]
  rw [← String.toList_inj, characters, characters]
  constructor
  · intro same index before
    exact List.map_inj_left.1 (rows_eq_of_listing same) index (List.mem_range.2 before)
  · intro agree
    rw [List.map_congr_left fun index member => agree index (List.mem_range.1 member)]

/-- Images agree in the visible bytes of an element if they do so in each of its cells. -/
theorem visibleCells_eq_iff {terminator : Int} {image other : Image} {index : Nat} :
    region.visibleCells terminator image index = region.visibleCells terminator other index ↔
      ∀ (place : Nat) (segment : Segment), region.layout[place]? = some segment →
        visible terminator (image.cell (region.cellAddress index place) segment.length) =
          visible terminator (other.cell (region.cellAddress index place) segment.length) := by
  rw [visibleCells, visibleCells, List.mapIdx_eq_mapIdx_iff]
  constructor
  · intro agree place segment found
    obtain ⟨before, rfl⟩ := List.getElem?_eq_some_iff.1 found
    exact agree place before
  · intro agree place before
    exact agree place _ (List.getElem?_eq_getElem before)

/-- Where a cell begins, so do its segment and its place within that. -/
theorem toOffset_cellAddress (plain : region.layout.Plain) {index place : Nat}
    {segment : Segment} (before : index < region.count)
    (found : region.layout[place]? = some segment) :
    region.toOffset (region.cellAddress index place) =
      .ok ⟨index, place, region.cellAddress index place, 0⟩ := by
  have wide := plain.one_le_length segment (List.mem_of_getElem? found)
  have held : region.Holds ⟨index, place, 0⟩ :=
    ⟨Int.natCast_nonneg index, Int.ofNat_lt.2 before, Int.le_refl 0, segment, found, wide⟩
  have located := held.toOffset_addressOf plain.length_nonneg
  rw [Coordinates.offsetAt, Int.sub_zero] at located
  exact located

section Serialized

variable (plain : region.layout.Plain) (nonneg : 0 ≤ region.start)
include plain nonneg

/-- The lines of elements are those of their cells. -/
theorem linesFrom_eq (codec : TextCodec) (image : Image) (remaining index : Nat) :
    region.linesFrom (codec.render image) remaining index =
      .ok ((List.range' index remaining).map (region.line codec.terminator image)) := by
  induction remaining generalizing index with
  | zero => rfl
  | succ remaining inductionHypothesis =>
      have element : 0 ≤ region.elementAddress index :=
        Int.add_nonneg nonneg (Int.mul_nonneg (Int.natCast_nonneg index)
          (Int.le_trans (by decide) plain.one_le_width))
      have cells := Layout.elementText_eq plain.kind plain.length_nonneg codec image element
      have addresses : ∀ place, region.elementAddress index + region.layout.widthBefore place =
          region.cellAddress index place := fun place => (Int.add_zero _).symm
      simp only [addresses] at cells
      rw [linesFrom, cells]
      simp only [inductionHypothesis, List.range'_succ, List.map_cons]
      rfl

/-- A listing is made up of the lines of all elements. -/
theorem serialize_eq (codec : TextCodec) (image : Image) :
    region.serialize image codec =
      .ok (String.join ((List.range region.count).map (region.line codec.terminator image))) := by
  rw [serialize, linesFrom_eq plain nonneg, List.range_eq_range']
  rfl

end Serialized

/-- A listing is unambiguous. Two images have the same listing of an array from address
zero on exactly if they agree in the visible bytes of each of its cells. A listing has a
line for each element, which begins with a plus sign, ends with the only line feed in it and
shows the cells of the element one after the other. A cell is read at the address whose
coordinates are its element, its segment and place zero. -/
theorem serialize_tells_visible_bytes (region : ArrayRegion) (plain : region.layout.Plain)
    (nonneg : 0 ≤ region.start) (codec : TextCodec) (image other : Image) :
    (region.serialize image codec = region.serialize other codec ↔
      ∀ index < region.count, ∀ (place : Nat) (segment : Segment),
        region.layout[place]? = some segment →
          visible codec.terminator (image.cell (region.cellAddress index place) segment.length) =
            visible codec.terminator
              (other.cell (region.cellAddress index place) segment.length)) ∧
    (∃ lines, region.serialize image codec = .ok (String.join lines) ∧
      lines.length = region.count ∧
      ∀ (index : Nat) (line : String), lines[index]? = some line →
        ∃ body, line = "+" ++ body ++ "\n" ∧ '\n' ∉ body.toList ∧
          body = String.join (region.layout.mapIdx fun place segment =>
            renderBytes codec.terminator
              (image.cell (region.cellAddress index place) segment.length))) ∧
    ∀ index < region.count, ∀ (place : Nat) (segment : Segment),
      region.layout[place]? = some segment →
        region.toOffset (region.cellAddress index place) =
          .ok ⟨index, place, region.cellAddress index place, 0⟩ := by
  refine ⟨?_, ⟨(List.range region.count).map (region.line codec.terminator image),
    serialize_eq plain nonneg codec image, ?_, ?_⟩, ?_⟩
  · rw [serialize_eq plain nonneg, serialize_eq plain nonneg, Except.ok.injEq, join_lines_eq_iff]
    exact forall_congr' fun index => forall_congr' fun before => visibleCells_eq_iff
  · rw [List.length_map, List.length_range]
  · intro index line listed
    rw [List.getElem?_map, Option.map_eq_some_iff] at listed
    obtain ⟨element, counted, rfl⟩ := listed
    obtain ⟨before, rfl⟩ := List.getElem?_eq_some_iff.1 counted
    rw [List.getElem_range]
    exact ⟨_, rfl, lineFeed_not_mem_cellsText _ _ _, rfl⟩
  · intro index before place segment found
    exact toOffset_cellAddress plain before found

/-- Two elements of three and two bytes from address one on. -/
def pairs : ArrayRegion where
  start := 1
  schemaText := "[a\"\"3b\"\"2]2"
  layout := [⟨"a", .delimitedText, 3⟩, ⟨"b", .delimitedText, 2⟩]
  lengthRule := .fixed 2
  count := 2
  layout_ne_nil := List.cons_ne_nil _ _

/-- A visible byte, a zero and a hidden byte in the first cell, a backslash and a byte that
is no character in the second; in the third the image ends. -/
def pairsImage (seen hidden : UInt8) : Image :=
  #[9, seen, 0, hidden, 0x5C, 0x80, 0x41]

/-- With zero for a terminator, what stands behind it does not matter to the listing. What
stands before it does, and the last cell is read at address nine. -/
theorem serialize_pairs :
    pairs.layout.Plain ∧ 0 ≤ pairs.start ∧
      pairs.serialize (pairsImage 0x22 7) (.endedBy 0) =
        pairs.serialize (pairsImage 0x22 8) (.endedBy 0) ∧
      pairs.serialize (pairsImage 0x22 7) (.endedBy 0) ≠
        pairs.serialize (pairsImage 0x78 7) (.endedBy 0) ∧
      pairs.toOffset 9 = .ok ⟨1, 1, 9, 0⟩ := by
  have plain : pairs.layout.Plain :=
    ⟨List.cons_ne_nil _ _, by simp [pairs], by simp [pairs]⟩
  have start : 0 ≤ pairs.start := by decide
  obtain ⟨hidden, -, located⟩ := serialize_tells_visible_bytes pairs plain start (.endedBy 0)
    (pairsImage 0x22 7) (pairsImage 0x22 8)
  obtain ⟨seen, -⟩ := serialize_tells_visible_bytes pairs plain start (.endedBy 0)
    (pairsImage 0x22 7) (pairsImage 0x78 7)
  refine ⟨plain, start, hidden.2 ?_, ?_, located 1 (by decide) 1 _ rfl⟩
  · intro index before place segment found
    have agree : ∀ index < pairs.count, ∀ place : Fin pairs.layout.length,
        visible 0 ((pairsImage 0x22 7).cell (pairs.cellAddress index place)
            (pairs.layout.get place).length) =
          visible 0 ((pairsImage 0x22 8).cell (pairs.cellAddress index place)
            (pairs.layout.get place).length) := by
      decide
    obtain ⟨inside, rfl⟩ := List.getElem?_eq_some_iff.1 found
    exact agree index before ⟨place, inside⟩
  · intro same
    have first := seen.1 same 0 (by decide) 0 _ rfl
    revert first
    decide

end ArrayRegion

end ImageAtlas
