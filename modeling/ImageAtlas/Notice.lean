import ImageAtlas.Region.Basic

/-!
# Notices

What an operation reports beside its result, for a reader who follows the work:
each notice has a level, the part of the program it comes from and a message.
Operations return their notices in order; which of them are shown is decided
where they are written out.
-/

namespace ImageAtlas

/-- How much a notice matters, the least first. -/
inductive NoticeLevel where
  | debug
  | info
  | warning
  | error
deriving DecidableEq, Repr

namespace NoticeLevel

/-- The name of a level. -/
def name : NoticeLevel → String
  | debug => "DEBUG"
  | info => "INFO"
  | warning => "WARNING"
  | error => "ERROR"

/-- The level of a name. -/
def ofName? : String → Option NoticeLevel
  | "DEBUG" => some debug
  | "INFO" => some info
  | "WARNING" => some warning
  | "ERROR" => some error
  | _ => none

/-- The place of a level in the order of importance. -/
def rank : NoticeLevel → Nat
  | debug => 0
  | info => 1
  | warning => 2
  | error => 3

end NoticeLevel

/-- What an operation can report beside its result. -/
inductive Notice where
  /-- An image was loaded. -/
  | imageLoaded (name : String) (size : Nat)
  /-- A name was bound to the start of a region. -/
  | anchorWritten (name : String) (start : Int) (kind : RegionKind)
  /-- An array took over the count of the array it follows. -/
  | countFollowed (start : Int) (count : Nat) (anchor : String)
  /-- All aligned pointers were looked for. -/
  | pointersDiscovered (count : Nat)
  /-- A length was derived from a name that is not bound. -/
  | lengthAnchorUnknown (anchor : String)
  /-- A length was derived from a name that leads to no array. -/
  | lengthAnchorNoArray (anchor : String) (address : Int)
  /-- A search was asked for a malformed schema. -/
  | searchMalformed (malformation : Schema.Malformation)
  /-- A search found no placement. -/
  | placementMissing (schema : String)
  /-- A search found a placement. -/
  | placementFound (schema : String) (start : Int) (count : Nat)
  /-- An image belongs to no supported game. -/
  | gameUnsupported (code : String)
  /-- A pointer listed for a game was added. -/
  | extraPointerAdded (source : Int)
  /-- A discovery anchored a region. -/
  | regionAnchored (name : String) (start : Int)
  /-- A discovery found no array for a name. -/
  | arrayMissing (anchor schema : String)
  /-- A discovery ended. -/
  | discoveryEnded (count : Nat) (code : String)
deriving DecidableEq, Repr

namespace Notice

/-- The level of a notice. -/
def level : Notice → NoticeLevel
  | searchMalformed _ => .warning
  | imageLoaded _ _ => .info
  | pointersDiscovered _ => .info
  | gameUnsupported _ => .info
  | arrayMissing _ _ => .info
  | discoveryEnded _ _ => .info
  | _ => .debug

/-- The part of the program from which a notice comes. -/
def source : Notice → String
  | imageLoaded _ _ => "romlayout.memory.address_space"
  | anchorWritten _ _ _ => "romlayout.memory.address_space"
  | countFollowed _ _ _ => "romlayout.memory.address_space"
  | pointersDiscovered _ => "romlayout.memory.address_space"
  | lengthAnchorUnknown _ => "romlayout.arrays.length"
  | lengthAnchorNoArray _ _ => "romlayout.arrays.length"
  | searchMalformed _ => "romlayout.arrays.search"
  | placementMissing _ => "romlayout.arrays.search"
  | placementFound _ _ _ => "romlayout.arrays.search"
  | gameUnsupported _ => "romlayout.memory.auto_search"
  | extraPointerAdded _ => "romlayout.memory.auto_search"
  | regionAnchored _ _ => "romlayout.memory.auto_search"
  | arrayMissing _ _ => "romlayout.memory.auto_search"
  | discoveryEnded _ _ => "romlayout.memory.auto_search"

/-- The wording of a notice. -/
def message : Notice → String
  | imageLoaded name size => "Loaded " ++ name ++ " (" ++ Text.decimal size ++ " bytes)"
  | anchorWritten name start kind =>
      "Anchor " ++ name ++ " -> " ++ Text.address start ++ " (" ++ kind.name ++ ")"
  | countFollowed start count anchor =>
      "Array at " ++ Text.address start ++ " now has " ++ Text.decimal count
        ++ " elements (follows " ++ anchor ++ ")"
  | pointersDiscovered count => "Discovered " ++ Text.decimal count ++ " pointers"
  | lengthAnchorUnknown anchor =>
      "Length anchor " ++ Text.quoted anchor ++ " is unknown; length is zero for now"
  | lengthAnchorNoArray anchor address =>
      "Length anchor " ++ Text.quoted anchor ++ " at " ++ Text.address address
        ++ " is not an array; length is zero for now"
  | searchMalformed malformation =>
      "Cannot search for malformed schema: " ++ malformation.report
  | placementMissing schema => "No placement found for " ++ schema
  | placementFound schema start count =>
      "Best placement for " ++ schema ++ ": " ++ Text.address start ++ " x"
        ++ Text.decimal count
  | gameUnsupported code =>
      "Game code " ++ Text.quoted code ++ " is not in the search profile; nothing to decode"
  | extraPointerAdded source => "Added extra pointer at " ++ Text.address source
  | regionAnchored name start => "Anchored " ++ name ++ " at " ++ Text.address start
  | arrayMissing anchor schema => "No match for " ++ anchor ++ " " ++ schema
  | discoveryEnded count code =>
      "Decoded " ++ Text.decimal count ++ " anchors for " ++ code

/-- A notice as it is written out. -/
def line (notice : Notice) : String :=
  "[" ++ notice.level.name ++ "] " ++ notice.source ++ ": " ++ notice.message

/-- Whether a notice can be written out: whether the count in it has few enough
digits. -/
def isWritable : Notice → Bool
  | countFollowed _ count _ => Text.isWritable count
  | _ => true

/-- The notices that matter at least as much as a level asks. -/
def atLeast (level : NoticeLevel) (notices : List Notice) : List Notice :=
  notices.filter fun notice => level.rank ≤ notice.level.rank

/-- The lines of the notices that matter at least as much as a level asks. A
notice that cannot be written out has none. -/
def lines (level : NoticeLevel) (notices : List Notice) : List String :=
  ((atLeast level notices).filter isWritable).map line

end Notice

/-- A result together with the notices given on the way to it. -/
structure Noted (α : Type) where
  value : α
  notices : List Notice := []

instance : Monad Noted where
  pure value := { value }
  bind noted next :=
    let result := next noted.value
    { value := result.value, notices := noted.notices ++ result.notices }

namespace Noted

/-- A result with one notice. -/
def note (notice : Notice) (value : α) : Noted α :=
  { value, notices := [notice] }

/-- A result that was there from the start. -/
@[simp] theorem value_pure (value : α) : (pure value : Noted α).value = value :=
  rfl

/-- The result of a sequence is that of its last step. -/
@[simp] theorem value_bind (noted : Noted α) (next : α → Noted β) :
    (noted >>= next).value = (next noted.value).value :=
  rfl

/-- A notice does not change the result. -/
@[simp] theorem value_note (notice : Notice) (value : α) : (note notice value).value = value :=
  rfl

/-- A result that was there from the start has no notices. -/
@[simp] theorem notices_pure (value : α) : (pure value : Noted α).notices = [] :=
  rfl

/-- The notices of a sequence are those of its steps. -/
@[simp] theorem notices_bind (noted : Noted α) (next : α → Noted β) :
    (noted >>= next).notices = noted.notices ++ (next noted.value).notices :=
  rfl

/-- A result with one notice has that notice. -/
@[simp] theorem notices_note (notice : Notice) (value : α) :
    (note notice value).notices = [notice] :=
  rfl

end Noted

end ImageAtlas
