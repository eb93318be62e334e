import ImageAtlas.Space.Basic

/-!
# Search profiles

What a discovery looks for: the supported games with the pointers that are
listed for them, the text fields of the header, and the name arrays in the
order in which they are searched. The default profile describes five games.
-/

namespace ImageAtlas

/-- A supported game, known by the code in its header. -/
structure Game where
  code : String
  name : String := ""
  extraPointers : List Int := []
deriving DecidableEq, Repr

/-- A text field of the header, for all games but some. -/
structure HeaderField where
  name : String
  address : Int
  length : Int
  excludedGames : List String := []
deriving DecidableEq, Repr

/-- An array to look for and the name to anchor it under. Where no games are
listed it is looked for in every game. -/
structure NameArray where
  anchor : String
  format : String
  games : List String := []
deriving DecidableEq, Repr

/-- Whether a header field is in the games of a code. -/
def HeaderField.appliesTo (field : HeaderField) (code : String) : Bool :=
  !field.excludedGames.contains code

/-- Whether an array is looked for in the games of a code. -/
def NameArray.appliesTo (array : NameArray) (code : String) : Bool :=
  array.games.isEmpty || array.games.contains code

namespace Profile

def ruby : String := "AXVE"
def sapphire : String := "AXPE"
def emerald : String := "BPEE"
def fireRed : String := "BPRE"
def leafGreen : String := "BPGE"

/-- The older three of the supported games. -/
def olderGames : List String := [ruby, sapphire, emerald]

/-- The newer two of the supported games. -/
def newerGames : List String := [fireRed, leafGreen]

/-- The games supported by default. One pointer of the third is not aligned. -/
def defaultGames : List Game :=
  [{ code := ruby, name := "Ruby" }, { code := sapphire, name := "Sapphire" },
    { code := emerald, name := "Emerald", extraPointers := [0x1C0] },
    { code := fireRed, name := "FireRed" }, { code := leafGreen, name := "LeafGreen" }]

/-- The header fields of the default profile. -/
def defaultHeader : List HeaderField :=
  [{ name := "GameTitle", address := 0xA0, length := 12 },
    { name := "GameCode", address := 0xAC, length := 4 },
    { name := "MakerCode", address := 0xB0, length := 2 },
    { name := "RomName", address := 0x108, length := 0x20, excludedGames := [ruby, sapphire] }]

/-- The arrays of the default profile. The same format finds a different array
each time, so their order matters. -/
def defaultArrays : List NameArray :=
  [{ anchor := "movenames", format := "[name\"\"13]" },
    { anchor := "pokenames", format := "[name\"\"11]" },
    { anchor := "abilitynames", format := "[name\"\"13]", games := olderGames },
    { anchor := "trainerclassnames", format := "[name\"\"13]", games := olderGames },
    { anchor := "trainerclassnames", format := "[name\"\"13]", games := newerGames },
    { anchor := "abilitynames", format := "[name\"\"13]", games := newerGames },
    { anchor := "types", format := "[name\"\"7]" }]

end Profile

/-- All that a discovery needs to know. -/
structure Profile where
  gameCodeAddress : Int := 0xAC
  pointers : PointerRules := {}
  games : List Game := Profile.defaultGames
  header : List HeaderField := Profile.defaultHeader
  arrays : List NameArray := Profile.defaultArrays
deriving DecidableEq, Repr

namespace Profile

/-- The codes of the supported games. -/
def supportedCodes (profile : Profile) : List String :=
  profile.games.map Game.code

/-- The first game of a code. -/
def game? (profile : Profile) (code : String) : Option Game :=
  profile.games.find? fun game => game.code == code

/-- The header fields of a game. -/
def headerFor (profile : Profile) (code : String) : List HeaderField :=
  profile.header.filter fun field => field.appliesTo code

/-- The arrays to look for in a game. -/
def arraysFor (profile : Profile) (code : String) : List NameArray :=
  profile.arrays.filter fun array => array.appliesTo code

end Profile

end ImageAtlas
