import ImageAtlas.Toml.Text

/-!
# Numbers and times in profile files

Whole numbers in decimal, hexadecimal, octal and binary, floating-point
numbers, days, times of day and both together. Single underscores may stand
between digits. Each reader gives nothing when the text does not begin with
its form.
-/

namespace ImageAtlas.Toml

open ImageAtlas.Text

/-- The digits at the front of a text, single underscores between them left
out. -/
def takeDigits (isDigit : Char → Bool) : List Char → List Char × List Char
  | [] => ([], [])
  | [character] => if isDigit character then ([character], []) else ([], [character])
  | character :: '_' :: next :: rest =>
      if isDigit character then
        if isDigit next then
          let (digits, behind) := takeDigits isDigit (next :: rest)
          (character :: digits, behind)
        else ([character], '_' :: next :: rest)
      else ([], character :: '_' :: next :: rest)
  | character :: next :: rest =>
      if isDigit character then
        let (digits, behind) := takeDigits isDigit (next :: rest)
        (character :: digits, behind)
      else ([], character :: next :: rest)

/-- The whole number of a base behind its mark. -/
def radix? (base : Nat) (characters : List Char) : Option (Value × List Char) :=
  let isDigit (character : Char) : Bool := (hexValue? character).any (· < base)
  let (digits, rest) := takeDigits isDigit characters
  if digits = [] then none
  else
    let value := valueInHalves base (digits.map fun digit => (hexValue? digit).getD 0)
    some (.integer value, rest)

/-- The fraction behind a point. -/
def fraction? : List Char → Option (List Char × List Char)
  | '.' :: rest =>
      let (digits, behind) := takeDigits isAsciiDigit rest
      if digits = [] then none else some (digits, behind)
  | _ => none

/-- A sign, negative or not, and what follows it. -/
def takeSign : List Char → Bool × List Char
  | '-' :: rest => (true, rest)
  | '+' :: rest => (false, rest)
  | characters => (false, characters)

/-- The exponent behind its mark. -/
def exponent? : List Char → Option (Int × List Char)
  | mark :: rest =>
      if mark = 'e' ∨ mark = 'E' then
        let (negative, behind) := takeSign rest
        let (digits, after) := takeDigits isAsciiDigit behind
        if digits = [] then none
        else
          let amount : Int := decimalValue digits
          some (if negative then -amount else amount, after)
      else none
  | [] => none

/-- A decimal number. Only zero itself begins with the digit zero. -/
def decimal? (characters : List Char) : Option (Except Refusal (Value × List Char)) :=
  let (negative, unsigned) := takeSign characters
  let (run, behindRun) := takeDigits isAsciiDigit unsigned
  let (whole, rest) :=
    if run.head? = some '0' then (['0'], unsigned.drop 1) else (run, behindRun)
  if whole = [] then none
  else
    let fraction := fraction? rest
    let (decimals, behindFraction) := fraction.getD ([], rest)
    let exponent := exponent? behindFraction
    let (power, behindExponent) := exponent.getD (0, behindFraction)
    if fraction.isNone && exponent.isNone then
      match readDecimal whole with
      | .error length => some (.error (.numeralTooLong length))
      | .ok value => some (.ok (.integer (if negative then -value else value), rest))
    else
      some (.ok (.real (.ofDecimal negative (decimalValue (whole ++ decimals))
        (power - decimals.length)), behindExponent))

/-- A number. -/
def number? (characters : List Char) : Option (Except Refusal (Value × List Char)) :=
  let marked :=
    match characters with
    | '0' :: 'x' :: rest => radix? 16 rest
    | '0' :: 'b' :: rest => radix? 2 rest
    | '0' :: 'o' :: rest => radix? 8 rest
    | _ => none
  match marked with
  | some reading => some (.ok reading)
  | none => decimal? characters

/-- A floating-point value that has a name. -/
def named? (characters : List Char) : Option (Value × List Char) :=
  let (negative, unsigned) := takeSign characters
  match unsigned with
  | 'i' :: 'n' :: 'f' :: rest => some (.real (.infinite negative), rest)
  | 'n' :: 'a' :: 'n' :: rest => some (.real .nan, rest)
  | _ => none

/-- A run of exactly so many digits with a value between two bounds. -/
def field? (length least greatest : Nat) (characters : List Char) : Option (Nat × List Char) :=
  let digits := characters.take length
  if digits.length = length ∧ digits.all isAsciiDigit then
    let value := decimalValue digits
    if least ≤ value ∧ value ≤ greatest then some (value, characters.drop length) else none
  else none

/-- What follows a given character. -/
def behind? (mark : Char) : List Char → Option (List Char)
  | character :: rest => if character = mark then some rest else none
  | [] => none

/-- The microseconds behind a point; further digits are dropped. -/
def microseconds : List Char → Nat × List Char
  | '.' :: rest =>
      let digits := rest.takeWhile isAsciiDigit
      if digits = [] then (0, '.' :: rest)
      else
        let kept := digits.take 6
        (decimalValue kept * Nat.pow 10 (6 - kept.length), rest.dropWhile isAsciiDigit)
  | characters => (0, characters)

/-- A time of day. -/
def time? (characters : List Char) : Option (TimeOfDay × List Char) := do
  let (hour, rest) ← field? 2 0 23 characters
  let (minute, rest) ← field? 2 0 59 (← behind? ':' rest)
  let (second, rest) ← field? 2 0 59 (← behind? ':' rest)
  let (microsecond, rest) := microseconds rest
  pure ({ hour, minute, second, microsecond }, rest)

/-- An offset from universal time, in minutes. -/
def offset? (characters : List Char) : Option (Int × List Char) :=
  match characters with
  | 'Z' :: rest => some (0, rest)
  | 'z' :: rest => some (0, rest)
  | mark :: rest => do
      if mark ≠ '+' ∧ mark ≠ '-' then none
      else
        let (hours, rest) ← field? 2 0 23 rest
        let (minutes, rest) ← field? 2 0 59 (← behind? ':' rest)
        let amount : Int := (hours * 60 + minutes : Nat)
        pure (if mark = '-' then -amount else amount, rest)
  | [] => none

/-- The number of days of a month. -/
def daysInMonth (year month : Nat) : Nat :=
  if month = 2 then
    if year % 4 = 0 ∧ (year % 100 ≠ 0 ∨ year % 400 = 0) then 29 else 28
  else if month = 4 ∨ month = 6 ∨ month = 9 ∨ month = 11 then 30
  else 31

/-- A day with the text behind it. Month and day are in range, but the month
may be too short. -/
def date? (characters : List Char) : Option (Date × List Char) := do
  let (year, rest) ← field? 4 0 9999 characters
  let (month, rest) ← field? 2 1 12 (← behind? '-' rest)
  let (day, rest) ← field? 2 1 31 (← behind? '-' rest)
  pure ({ year, month, day }, rest)

/-- Whether a day is in the calendar. -/
def Date.exists (date : Date) : Bool :=
  1 ≤ date.year && date.day ≤ daysInMonth date.year date.month

/-- The time of day behind a day, if one follows. -/
def timeBehind? : List Char → Option (TimeOfDay × List Char)
  | mark :: rest => if mark = 'T' ∨ mark = 't' ∨ mark = ' ' then time? rest else none
  | [] => none

/-- A day, a time of day or both. -/
def moment? (characters : List Char) : Option (Except Refusal (Value × List Char)) :=
  match date? characters with
  | some (date, rest) =>
      if !Date.exists date then some (.error .malformed)
      else
        match timeBehind? rest with
        | none => some (.ok (.moment (.date date), rest))
        | some (time, behind) =>
            match offset? behind with
            | none => some (.ok (.moment (.dateTime date time none), behind))
            | some (offset, after) =>
                some (.ok (.moment (.dateTime date time (some offset)), after))
  | none => (time? characters).map fun (time, rest) => .ok (.moment (.time time), rest)

/-- Reads a truth value, a moment or a number. -/
def readScalar (characters : List Char) : Except Refusal (Value × List Char) :=
  match characters with
  | 't' :: 'r' :: 'u' :: 'e' :: rest => .ok (.bool true, rest)
  | 'f' :: 'a' :: 'l' :: 's' :: 'e' :: rest => .ok (.bool false, rest)
  | _ =>
      match moment? characters with
      | some reading => reading
      | none =>
          match number? characters with
          | some reading => reading
          | none =>
              match named? characters with
              | some reading => .ok reading
              | none => .error .malformed

end ImageAtlas.Toml
