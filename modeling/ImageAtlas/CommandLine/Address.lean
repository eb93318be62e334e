import ImageAtlas.Text.Quoted

/-!
# Addresses on the command line

An address is written in hexadecimal: a sign, if any, the mark `0x`, if any,
and digits. A single underscore may stand between two digits and behind the
mark, blanks may stand around the whole, and a decimal digit of any script
counts as what it is worth. An address is not negative.
-/

namespace ImageAtlas

/-- Why a text is no address. -/
inductive AddressRefusal where
  | unreadable (text : String)
  | negative (text : String)
deriving DecidableEq, Repr

/-- What a refused address reports. -/
def AddressRefusal.message : AddressRefusal → String
  | unreadable text => "not a hex address: " ++ Text.quoted text
  | negative text => "address must be non-negative: " ++ Text.quoted text

namespace Text

/-- The value of hexadecimal digits behind those worth `before`; there has to
be one in front and behind every underscore. -/
def hexDigits? (before : Nat) : List Char → Option Nat
  | [] => none
  | character :: rest =>
      match hexValue? character with
      | none => none
      | some digit =>
          match rest with
          | [] => some (16 * before + digit)
          | '_' :: behind => hexDigits? (16 * before + digit) behind
          | next :: behind => hexDigits? (16 * before + digit) (next :: behind)

/-- What follows the mark of a hexadecimal number, if it has one. -/
def behindMark : List Char → List Char
  | '0' :: mark :: rest =>
      if mark = 'x' ∨ mark = 'X' then
        match rest with
        | '_' :: behind => behind
        | _ => rest
      else '0' :: mark :: rest
  | characters => characters

/-- The value of a hexadecimal number. -/
def readHexadecimal? (text : String) : Option Int :=
  match plainCharacters text with
  | '-' :: rest => (hexDigits? 0 (behindMark rest)).map fun magnitude => -(magnitude : Int)
  | '+' :: rest => (hexDigits? 0 (behindMark rest)).map Int.ofNat
  | characters => (hexDigits? 0 (behindMark characters)).map Int.ofNat

end Text

/-- Reads an address. -/
def readAddress (text : String) : Except AddressRefusal Nat :=
  match Text.readHexadecimal? text with
  | none => .error (.unreadable text)
  | some value => if value < 0 then .error (.negative text) else .ok value.toNat

end ImageAtlas
