import ImageAtlas.Profile.Writing
import ImageAtlas.Proofs.Profile.Readable

/-!
# Usable profiles

A profile is usable if each of its parts is accepted for what it has to fulfil beyond its type:
codes of four characters, header fields of at least one byte and formats that are the texts of
schemas. The default profile is usable, and so is every profile that was read, whatever its
value left out or gave in another form. A usable profile, written as a value, is read back as
itself (`ReadsBack`), so the usable profiles are those that can be read.
-/

namespace ImageAtlas

namespace Profile

open Checked

variable {α : Type} {check : Value → Checked α} {write : α → Value} {value : α} {key : String}
  {input : Value}

/-- A field with a default is what is given. -/
theorem optional_of_given {default : α} {given : Value} (found : input.get? key = some given)
    (passed : check given = .ok value) :
    Profile.optional key check default input = .ok value := by
  rw [Profile.optional, found]
  exact under_eq_ok_iff.2 passed

/-- A field with a default is read from its key alone. -/
theorem optional_congr {other : Value} (same : input.get? key = other.get? key) (default : α) :
    Profile.optional key check default input = Profile.optional key check default other := by
  rw [Profile.optional, Profile.optional, same]

/-- The keys from which a profile is read. -/
def keys : List String :=
  ["game_code_address", "pointers", "games", "header", "arrays"]

/-- What else a table holds is passed over. -/
theorem ofValue_congr {left right : Value} (leftTable : left.isTable = true)
    (rightTable : right.isTable = true)
    (same : ∀ key ∈ keys, left.get? key = right.get? key) : ofValue left = ofValue right := by
  simp only [keys, List.forall_mem_cons] at same
  obtain ⟨address, pointers, games, header, arrays, -⟩ := same
  rw [ofValue, model, model, if_pos leftTable, if_pos rightTable]
  dsimp only
  rw [optional_congr address, optional_congr pointers, optional_congr games,
    optional_congr header, optional_congr arrays]

/-- A key that is no text is passed over as well. -/
example : ofValue (.unpairedTable [([0xD800], .list []), (Value.codesOf "games", .list [])]) =
    .ok { games := [] } :=
  rfl

/-- A value is read back from what is written of it. -/
def ReadsBack (check : Value → Checked α) (write : α → Value) (value : α) : Prop :=
  check (write value) = .ok value

namespace ReadsBack

/-- Items that are read back are read back one after the other. -/
theorem items {values : List α} (each : ∀ value ∈ values, ReadsBack check write value)
    (index : Nat) : Checked.items check index (values.map write) = .ok values := by
  induction values generalizing index with
  | nil => rfl
  | cons first rest inductionHypothesis =>
      obtain ⟨head, tail⟩ := List.forall_mem_cons.1 each
      exact map_eq_ok_iff.2
        ⟨(first, rest), both_eq_ok_iff.2 ⟨under_eq_ok_iff.2 head, inductionHypothesis tail _⟩, rfl⟩

/-- A list is read back if its members are. -/
theorem listOf {values : List α} (each : ∀ value ∈ values, ReadsBack check write value) :
    ReadsBack (Profile.listOf check) (fun values => .list (values.map write)) values :=
  items each 0

/-- What is accepted beyond its type is read back with that. -/
theorem such {accept : α → Except String Unit} (readsBack : ReadsBack check write value)
    (accepted : accept value = .ok ()) : ReadsBack (Profile.such check accept) write value := by
  rw [ReadsBack] at readsBack ⊢
  rw [Profile.such, readsBack]
  dsimp only
  rw [accepted]

/-- A model is read back from the table that was written. -/
theorem model {name : String} (table : (write value).isTable = true)
    (readsBack : ReadsBack check write value) :
    ReadsBack (Profile.model name check) write value := by
  rw [ReadsBack, Profile.model, if_pos table]
  exact readsBack

/-- A field that has to be there is read back from where it was written. -/
theorem required (readsBack : ReadsBack check write value)
    (written : input.get? key = some (write value)) :
    Profile.required key check input = .ok value := by
  rw [Profile.required, written]
  exact under_eq_ok_iff.2 readsBack

/-- A field with a default is read back from where it was written. -/
theorem optional {default : α} (readsBack : ReadsBack check write value)
    (written : input.get? key = some (write value)) :
    Profile.optional key check default input = .ok value :=
  optional_of_given written readsBack

end ReadsBack

/-- A whole number is read back. -/
theorem readsBack_integer (value : Int) : ReadsBack integer .integer value :=
  rfl

/-- A text is read back. -/
theorem readsBack_text (value : String) : ReadsBack text .text value :=
  rfl

/-- A truth value is read back. -/
theorem readsBack_truthValue (value : Bool) : ReadsBack truthValue .bool value :=
  rfl

/-- A list of texts is read back. -/
theorem readsBack_texts (values : List String) : ReadsBack (listOf text) Value.texts values :=
  .listOf fun value _ => readsBack_text value

/-- A number that is not negative is accepted as such. -/
theorem notNegative_natCast (value : Nat) : notNegative value = .ok () :=
  if_neg (Int.not_lt.2 (Int.natCast_nonneg value))

/-- Pointer rules are read back. -/
theorem readsBack_pointerRules (rules : PointerRules) :
    ReadsBack pointerRules PointerRules.toValue rules := by
  have base := (readsBack_integer rules.base).such (notNegative_natCast rules.base)
  have earliest :=
    (readsBack_integer rules.earliestAnchor).such (notNegative_natCast rules.earliestAnchor)
  have discover := readsBack_truthValue rules.discover
  refine .model rfl ?_
  refine map_eq_ok_iff.2 ⟨((rules.base : Int), (rules.earliestAnchor : Int), rules.discover),
    both_eq_ok_iff.2 ⟨base.optional ?_, both_eq_ok_iff.2
      ⟨earliest.optional ?_, discover.optional ?_⟩⟩, rfl⟩
  · rfl
  · rfl
  · rfl

/-- A code of four characters is accepted. -/
theorem fourCharacters_eq_ok_iff {code : String} :
    fourCharacters code = .ok () ↔ code.length = 4 := by
  simp [fourCharacters]

/-- A length of at least one byte is accepted. -/
theorem atLeastOneByte_eq_ok_iff {length : Int} : atLeastOneByte length = .ok () ↔ 0 < length := by
  simp [atLeastOneByte]

/-- A game with a code of four characters is read back. -/
theorem readsBack_game {game : Game} (four : game.code.length = 4) :
    ReadsBack Profile.game Game.toValue game := by
  have code := (readsBack_text game.code).such (fourCharacters_eq_ok_iff.2 four)
  have name := readsBack_text game.name
  have extraPointers : ReadsBack (listOf integer) _ game.extraPointers :=
    .listOf fun value _ => readsBack_integer value
  refine .model rfl ?_
  refine map_eq_ok_iff.2 ⟨(game.code, game.name, game.extraPointers),
    both_eq_ok_iff.2 ⟨code.required ?_, both_eq_ok_iff.2
      ⟨name.optional ?_, extraPointers.optional ?_⟩⟩, rfl⟩
  · rfl
  · rfl
  · rfl

/-- A header field of at least one byte is read back. -/
theorem readsBack_headerField {field : HeaderField} (positive : 0 < field.length) :
    ReadsBack Profile.headerField HeaderField.toValue field := by
  have name := readsBack_text field.name
  have address := readsBack_integer field.address
  have length := (readsBack_integer field.length).such (atLeastOneByte_eq_ok_iff.2 positive)
  have excluded := readsBack_texts field.excludedGames
  refine .model rfl ?_
  refine map_eq_ok_iff.2 ⟨(field.name, field.address, field.length, field.excludedGames),
    both_eq_ok_iff.2 ⟨name.required ?_, both_eq_ok_iff.2 ⟨address.required ?_,
      both_eq_ok_iff.2 ⟨length.required ?_, excluded.optional ?_⟩⟩⟩, rfl⟩
  · rfl
  · rfl
  · rfl
  · rfl

/-- An array whose format is the text of a schema is read back. -/
theorem readsBack_nameArray {array : NameArray}
    (schemed : ∃ schema, Schema.read array.format = .ok schema) :
    ReadsBack Profile.nameArray NameArray.toValue array := by
  have anchor := readsBack_text array.anchor
  have format := (readsBack_text array.format).such (readable_eq_ok_iff.2 schemed)
  have games := readsBack_texts array.games
  refine .model rfl ?_
  refine map_eq_ok_iff.2 ⟨(array.anchor, array.format, array.games),
    both_eq_ok_iff.2 ⟨anchor.required ?_, both_eq_ok_iff.2
      ⟨format.required ?_, games.optional ?_⟩⟩, rfl⟩
  · rfl
  · rfl
  · rfl

/-- What a profile has to fulfil beyond the types of its fields. -/
structure Usable (profile : Profile) : Prop where
  four : ∀ game ∈ profile.games, game.code.length = 4
  positive : ∀ field ∈ profile.header, 0 < field.length
  readable : profile.Readable

/-- A usable profile is read back. -/
theorem Usable.readsBack {profile : Profile} (usable : profile.Usable) :
    ReadsBack ofValue toValue profile := by
  have address := readsBack_integer profile.gameCodeAddress
  have pointers := readsBack_pointerRules profile.pointers
  have games : ReadsBack (listOf game) _ profile.games :=
    .listOf fun game member => readsBack_game (usable.four game member)
  have header : ReadsBack (listOf headerField) _ profile.header :=
    .listOf fun field member => readsBack_headerField (usable.positive field member)
  have arrays : ReadsBack (listOf nameArray) _ profile.arrays :=
    .listOf fun array member => readsBack_nameArray (usable.readable array member)
  refine .model rfl ?_
  refine map_eq_ok_iff.2 ⟨(profile.gameCodeAddress, profile.pointers, profile.games,
      profile.header, profile.arrays),
    both_eq_ok_iff.2 ⟨address.optional ?_, both_eq_ok_iff.2 ⟨pointers.optional ?_,
      both_eq_ok_iff.2 ⟨games.optional ?_, both_eq_ok_iff.2
        ⟨header.optional ?_, arrays.optional ?_⟩⟩⟩⟩, rfl⟩
  · rfl
  · rfl
  · rfl
  · rfl
  · rfl

/-- A game that was read has a code of four characters. -/
theorem gives_game : Gives Profile.game fun game => game.code.length = 4 := by
  refine .model fun input game passed => ?_
  obtain ⟨⟨code, name, extraPointers⟩, fields, rfl⟩ := map_eq_ok_iff.1 passed
  obtain ⟨accepted, -⟩ := both_eq_ok_iff.1 fields
  exact fourCharacters_eq_ok_iff.1 (Gives.required gives_such accepted)

/-- A header field that was read has at least one byte. -/
theorem gives_headerField : Gives Profile.headerField fun field => 0 < field.length := by
  refine .model fun input field passed => ?_
  obtain ⟨⟨name, address, length, excludedGames⟩, fields, rfl⟩ := map_eq_ok_iff.1 passed
  obtain ⟨-, fields⟩ := both_eq_ok_iff.1 fields
  obtain ⟨-, fields⟩ := both_eq_ok_iff.1 fields
  obtain ⟨accepted, -⟩ := both_eq_ok_iff.1 fields
  exact atLeastOneByte_eq_ok_iff.1 (Gives.required gives_such accepted)

/-- The default profile is usable. -/
theorem usable_default : Usable {} where
  four := by
    intro game member
    have lengths : defaultGames.map (fun game => game.code.length) = [4, 4, 4, 4, 4] := rfl
    have listed : game.code.length ∈ [4, 4, 4, 4, 4] := lengths ▸ List.mem_map_of_mem member
    simpa using listed
  positive := by
    simp [defaultHeader]
  readable := readable_default

/-- A profile that was read is usable. -/
theorem gives_usable : Gives ofValue Usable := by
  refine .model fun input profile passed => ?_
  obtain ⟨⟨address, pointers, games, header, arrays⟩, fields, rfl⟩ := map_eq_ok_iff.1 passed
  obtain ⟨-, fields⟩ := both_eq_ok_iff.1 fields
  obtain ⟨-, fields⟩ := both_eq_ok_iff.1 fields
  obtain ⟨givenGames, fields⟩ := both_eq_ok_iff.1 fields
  obtain ⟨givenHeader, givenArrays⟩ := both_eq_ok_iff.1 fields
  exact
    { four := gives_game.listOf.optional usable_default.four givenGames
      positive := gives_headerField.listOf.optional usable_default.positive givenHeader
      readable := gives_nameArray.listOf.optional usable_default.readable givenArrays }

/-- The usable profiles are those that can be read. -/
theorem usable_iff_exists {profile : Profile} :
    profile.Usable ↔ ∃ value, ofValue value = .ok profile :=
  ⟨fun usable => ⟨_, usable.readsBack⟩, fun ⟨_, passed⟩ => gives_usable _ _ passed⟩

end Profile

end ImageAtlas
