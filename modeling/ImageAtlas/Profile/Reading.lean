import ImageAtlas.Fault
import ImageAtlas.Profile.Basic
import ImageAtlas.Profile.Issue
import ImageAtlas.Schema.Reader

/-!
# Reading a profile

A profile is read from a structured value. Fields that are not there take
their defaults and unknown keys are passed over, whatever they are; a table
with a key that is no text is read like any other. A whole number may also be
written as a text, a truth value or a floating-point number without fraction,
and a truth value as a number or a word. What a field has to fulfil beyond its
type is checked only when its type is right.
-/

namespace ImageAtlas.Profile

open ImageAtlas.Checked

/-- Whether a character is removed at the ends of a numeral: a blank that is no
information separator. -/
def isNumeralBlank (character : Char) : Bool :=
  Text.isBlank character && !(0x1C ≤ character.toNat && character.toNat ≤ 0x1F)

/-- Removes the blanks at the ends of a numeral. -/
def trimNumeral (characters : List Char) : List Char :=
  ((characters.dropWhile isNumeralBlank).reverse.dropWhile isNumeralBlank).reverse

/-- What a text is as a numeral: none, one that is too long, or a number. -/
inductive Numeral where
  | unreadable
  | tooLong
  | number (value : Int)
deriving DecidableEq, Repr

/-- Reads a numeral of a minus sign, if any, and digits without leading zeros. A
run of digits that is too long is noticed whatever follows it. -/
def plainNumeral (characters : List Char) : Numeral :=
  let (negative, rest) :=
    match characters with
    | '-' :: rest => (true, rest)
    | _ => (false, characters)
  let digits := rest.takeWhile Text.isAsciiDigit
  if digits = [] then .unreadable
  else if digits.head? = some '0' ∧ rest ≠ ['0'] then .unreadable
  else if Text.numeralLimit < digits.length then .tooLong
  else if digits.length < rest.length then .unreadable
  else
    let value : Int := Text.decimalValue digits
    .number (if negative then -value else value)

/-- Removes zeros in front, with underscores among them, but keeps one that
stands before a point or at the end. A minus sign may follow them. The last
character read is given. -/
def dropZeros : Char → List Char → Option (List Char)
  | last, [] => some [last]
  | last, character :: rest =>
      if character = '0' ∨ character = '_' then dropZeros character rest
      else if Text.isAsciiDigit character ∨ character = '-' then some (character :: rest)
      else if character = '.' then some (last :: character :: rest)
      else none

/-- Removes zeros in front of a numeral without a sign. -/
def dropLeadingZeros (characters : List Char) : Option (List Char) :=
  match characters with
  | '0' :: rest => dropZeros '0' rest
  | first :: _ => if Text.isAsciiDigit first then some characters else none
  | [] => none

/-- Removes a point with zeros and nothing else behind it. -/
def dropZeroFraction (characters : List Char) : List Char :=
  let whole := characters.takeWhile (· != '.')
  let fraction := characters.drop (whole.length + 1)
  if fraction ≠ [] ∧ fraction.all (· == '0') then whole else characters

/-- Whether two underscores stand side by side. -/
def hasDoubleUnderscore : List Char → Bool
  | '_' :: '_' :: _ => true
  | _ :: rest => hasDoubleUnderscore rest
  | [] => false

/-- Removes single underscores inside a numeral. -/
def dropUnderscores (characters : List Char) : List Char :=
  if characters.head? = some '_' ∨ characters.getLast? = some '_'
      ∨ hasDoubleUnderscore characters then characters
  else characters.filter (· != '_')

/-- The plain form of a numeral without a sign: no zeros in front, no fraction
and no underscores. -/
def plainForm? (characters : List Char) : Option (List Char) :=
  (dropLeadingZeros characters).map fun numeral => dropUnderscores (dropZeroFraction numeral)

/-- The plain form of a numeral that may have blanks around it and a sign. -/
def cleaned? (characters : List Char) : Option (List Char) :=
  match trimNumeral characters with
  | '+' :: '-' :: _ => none
  | '+' :: rest => plainForm? rest
  | '-' :: rest => (plainForm? rest).map ('-' :: ·)
  | trimmed => plainForm? trimmed

/-- The whole number that a text stands for, as it is or in plain form. Only a
text that is too long as it is counts as too long. -/
def integerOfText (text : String) (input : Value) : Checked Int :=
  match plainNumeral text.toList with
  | .number value => .ok value
  | .tooLong => issue .integerTooLong input
  | .unreadable =>
      match (cleaned? text.toList).map plainNumeral with
      | some (.number value) => .ok value
      | _ => issue .integerUnreadable input

/-- The whole number that a floating-point number is, if a word of 64 bits with
a sign holds it. -/
def integerOfReal (value : Binary64) (input : Value) : Checked Int :=
  match value with
  | .nan => issue .notFinite input
  | .infinite _ => issue .notFinite input
  | .finite _ _ _ =>
      match value.toInt? with
      | none => issue .integerFractional input
      | some whole =>
          if -wordBound < whole ∧ whole < wordBound then .ok whole
          else issue .integerTooLong input

/-- Reads a whole number. -/
def integer (input : Value) : Checked Int :=
  match input with
  | .integer value => .ok value
  | .bool value => .ok (if value then 1 else 0)
  | .real value => integerOfReal value input
  | .text text => integerOfText text input
  | _ => issue .noInteger input

/-- The words for false. -/
def falseWords : List String := ["0", "f", "n", "no", "off", "false"]

/-- The words for true. -/
def trueWords : List String := ["1", "t", "y", "on", "yes", "true"]

/-- The truth value of a number. -/
def truthOfInteger (value : Int) (input : Value) : Checked Bool :=
  if value = 0 then .ok false
  else if value = 1 then .ok true
  else issue .truthValueUnreadable input

/-- Reads a truth value. -/
def truthValue (input : Value) : Checked Bool :=
  match input with
  | .bool value => .ok value
  | .integer value =>
      if -wordBound ≤ value ∧ value < wordBound then truthOfInteger value input
      else issue .noTruthValue input
  | .real value =>
      match integerOfReal value input with
      | .ok whole => truthOfInteger whole input
      | .error _ => issue .noTruthValue input
  | .text text =>
      let word := String.ofList (text.toList.map Char.toLower)
      if falseWords.contains word then .ok false
      else if trueWords.contains word then .ok true
      else issue .truthValueUnreadable input
  | _ => issue .noTruthValue input

/-- Reads a text. -/
def text (input : Value) : Checked String :=
  match input with
  | .text text => .ok text
  | _ => issue .noText input

/-- Reads a list. -/
def listOf (check : Value → Checked α) (input : Value) : Checked (List α) :=
  match input with
  | .list values => items check 0 values
  | _ => issue .noList input

/-- Reads a model, which has to be a table. -/
def model (name : String) (check : Value → Checked α) (input : Value) : Checked α :=
  if input.isTable then check input else issue (.noModel name) input

/-- Reads a value that has to fulfil more than its type says. -/
def such (check : Value → Checked α) (accept : α → Except String Unit) (input : Value) :
    Checked α :=
  match check input with
  | .error issues => .error issues
  | .ok value =>
      match accept value with
      | .ok () => .ok value
      | .error reason => issue (.refused reason) input

/-- Reads a field that has to be there. -/
def required (key : String) (check : Value → Checked α) (input : Value) : Checked α :=
  under (.key key) <|
    match input.get? key with
    | some value => check value
    | none => issue .missing input

/-- Reads a field that has a default. -/
def optional (key : String) (check : Value → Checked α) (default : α) (input : Value) :
    Checked α :=
  match input.get? key with
  | some value => under (.key key) (check value)
  | none => .ok default

/-- Accepts what is not negative. -/
def notNegative (value : Int) : Except String Unit :=
  if value < 0 then .error "Pointer settings must be non-negative" else .ok ()

/-- Accepts the length of a game code. -/
def fourCharacters (code : String) : Except String Unit :=
  if code.length = 4 then .ok () else .error "Game codes are exactly 4 characters"

/-- Accepts the length of a header field. -/
def atLeastOneByte (length : Int) : Except String Unit :=
  if length ≤ 0 then .error "Header fields must be at least one byte long" else .ok ()

/-- Accepts a schema text. -/
def readable (format : String) : Except String Unit :=
  match Schema.read format with
  | .ok _ => .ok ()
  | .error refusal => .error refusal.report

/-- Reads pointer rules. -/
def pointerRules : Value → Checked PointerRules :=
  model "PointerConfig" fun input =>
    let defaults : PointerRules := {}
    (both (optional "base" (such integer notNegative) defaults.base input)
      (both (optional "earliest_allowed_anchor" (such integer notNegative)
          defaults.earliestAnchor input)
        (optional "discover" truthValue defaults.discover input))).map
      fun (base, earliest, discover) =>
        { base := base.toNat, earliestAnchor := earliest.toNat, discover }

/-- Reads a game. -/
def game : Value → Checked Game :=
  model "GameConfig" fun input =>
    (both (required "code" (such text fourCharacters) input)
      (both (optional "name" text "" input)
        (optional "extra_pointers" (listOf integer) [] input))).map
      fun (code, name, extraPointers) => { code, name, extraPointers }

/-- Reads a header field. -/
def headerField : Value → Checked HeaderField :=
  model "HeaderField" fun input =>
    (both (required "name" text input)
      (both (required "address" integer input)
        (both (required "length" (such integer atLeastOneByte) input)
          (optional "exclude_games" (listOf text) [] input)))).map
      fun (name, address, length, excludedGames) => { name, address, length, excludedGames }

/-- Reads an array to look for. -/
def nameArray : Value → Checked NameArray :=
  model "NameArrayConfig" fun input =>
    (both (required "anchor" text input)
      (both (required "format" (such text readable) input)
        (optional "games" (listOf text) [] input))).map
      fun (anchor, format, games) => { anchor, format, games }

/-- The name of the whole profile in reports. -/
def modelName : String := "SearchProfile"

/-- Reads a profile. -/
def ofValue : Value → Checked Profile :=
  model modelName fun input =>
    let defaults : Profile := {}
    (both (optional "game_code_address" integer defaults.gameCodeAddress input)
      (both (optional "pointers" pointerRules defaults.pointers input)
        (both (optional "games" (listOf game) defaults.games input)
          (both (optional "header" (listOf headerField) defaults.header input)
            (optional "arrays" (listOf nameArray) defaults.arrays input))))).map
      fun (gameCodeAddress, pointers, games, header, arrays) =>
        { gameCodeAddress, pointers, games, header, arrays }

end ImageAtlas.Profile
