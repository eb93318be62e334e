import ImageAtlas.Profile.Basic
import ImageAtlas.Value.Basic

/-!
# Writing a profile

A profile as a structured value, from which it can be read again.
-/

namespace ImageAtlas

/-- A list of texts. -/
def Value.texts (texts : List String) : Value :=
  .list (texts.map .text)

/-- Pointer rules as a table. -/
def PointerRules.toValue (rules : PointerRules) : Value :=
  .table
    [("base", .integer rules.base), ("earliest_allowed_anchor", .integer rules.earliestAnchor),
      ("discover", .bool rules.discover)]

/-- A game as a table. -/
def Game.toValue (game : Game) : Value :=
  .table
    [("code", .text game.code), ("name", .text game.name),
      ("extra_pointers", .list (game.extraPointers.map .integer))]

/-- A header field as a table. -/
def HeaderField.toValue (field : HeaderField) : Value :=
  .table
    [("name", .text field.name), ("address", .integer field.address),
      ("length", .integer field.length), ("exclude_games", .texts field.excludedGames)]

/-- An array to look for as a table. -/
def NameArray.toValue (array : NameArray) : Value :=
  .table
    [("anchor", .text array.anchor), ("format", .text array.format),
      ("games", .texts array.games)]

/-- A profile as a table. -/
def Profile.toValue (profile : Profile) : Value :=
  .table
    [("game_code_address", .integer profile.gameCodeAddress),
      ("pointers", profile.pointers.toValue),
      ("games", .list (profile.games.map Game.toValue)),
      ("header", .list (profile.header.map HeaderField.toValue)),
      ("arrays", .list (profile.arrays.map NameArray.toValue))]

end ImageAtlas
