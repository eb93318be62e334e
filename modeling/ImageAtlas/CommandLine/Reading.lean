import ImageAtlas.CommandLine.Grammar

/-!
# Reading the arguments of a command

Options take effect one after the other, where they stand. Operands are taken
as soon as there are as many as can be taken in front of the next option; what
is left over is kept, so that it can be reported together. Reading stops at a
request for help and at the first fault.

An option whose argument is the separator is set without a value: it counts as
given, it takes the place of what was given before, and nothing is read from
it. An unknown letter behind an option without argument is an ignored argument
of that option. Both are the rules of argument parsers up to release 3.11.8;
later releases take the separator for the text `--` and leave the letters over.
-/

namespace ImageAtlas.CommandLine

/-- What the arguments make of an option that takes a value. -/
inductive Setting (α : Type) where
  | unset
  | blank
  | value (content : α)
deriving DecidableEq, Repr

namespace Setting

/-- The setting of an argument that is read in some way. The separator is not
read, as up to release 3.11.8. -/
def ofArgument (read : String → Except ε α) (argument : String) : Except ε (Setting α) :=
  if argument = "--" then .ok .blank else (read argument).map .value

/-- The setting of an argument that is taken as it is, but for the separator. -/
def ofText (argument : String) : Setting String :=
  if argument = "--" then .blank else .value argument

/-- The value of a setting. -/
def value? : Setting α → Option α
  | .value content => some content
  | _ => none

/-- The last setting of an option among settings with the later ones in
front. -/
def last (settings : List (String × Setting α)) (title : String) : Setting α :=
  ((settings.find? fun entry => entry.1 == title).map Prod.snd).getD .unset

end Setting

/-- What arguments say. Later settings of an option stand in front. -/
structure Reading where
  seen : List String := []
  texts : List (String × Setting String) := []
  addresses : List (String × Setting Nat) := []
  awaited : List String
  operands : List (String × Option String) := []
  command : List String := []
  leftover : List String := []
deriving DecidableEq, Repr

/-- Why reading came to an end early. -/
inductive Stop where
  | help
  | fault (fault : ArgumentFault)
deriving DecidableEq, Repr

namespace Reading

/-- Whether an option was given. -/
def has (reading : Reading) (title : String) : Bool :=
  reading.seen.contains title

/-- The last setting of an option that takes a text. -/
def text (reading : Reading) (title : String) : Setting String :=
  Setting.last reading.texts title

/-- The last setting of an option that takes an address. -/
def address (reading : Reading) (title : String) : Setting Nat :=
  Setting.last reading.addresses title

/-- The text of an operand. -/
def operand? (reading : Reading) (name : String) : Option String :=
  (reading.operands.find? fun entry => entry.1 == name).bind Prod.snd

/-- The reading after an option took effect. -/
def takeOption (reading : Reading) (rule : OptionRule) (argument : Option String) :
    Except Stop Reading :=
  let noticed := { reading with seen := rule.title :: reading.seen }
  match rule.effect, argument with
  | .help, _ => .error .help
  | .flag, _ => .ok noticed
  | .text, some argument =>
      .ok { noticed with texts := (rule.title, .ofText argument) :: noticed.texts }
  | .address, some argument =>
      match Setting.ofArgument readAddress argument with
      | .error refusal => .error (.fault (.addressRefused rule.title refusal))
      | .ok address =>
          .ok { noticed with addresses := (rule.title, address) :: noticed.addresses }
  | _, none => .error (.fault (.argumentMissing rule.title))

/-- The reading after several options took effect. -/
def takeOptions (reading : Reading) (given : List (OptionRule × Option String)) :
    Except Stop Reading :=
  given.foldlM (fun reading use => reading.takeOption use.1 use.2) reading

/-- The reading with more that is left over. -/
def leave (reading : Reading) (words : List Word) : Reading :=
  { reading with leftover := reading.leftover ++ words.map Word.text }

end Reading

/-- What one argument holds: options with their arguments, and perhaps one
option whose argument may follow. -/
structure Bundle where
  given : List (OptionRule × Option String) := []
  last : Option OptionRule := none

/-- Takes apart what stands behind the name of an option in the same argument.
An option without argument under its short name may be followed by the letters
of other short names, and by nothing else, as up to release 3.11.8. -/
def Bundle.unfold (grammar : Grammar) (rule : OptionRule) (short : Bool) (behind : List Char) :
    Except Stop Bundle :=
  if rule.takesArgument then .ok { given := [(rule, some (String.ofList behind))] }
  else
    match behind with
    | [] => .error (.fault (.argumentIgnored rule.title ""))
    | letter :: others =>
        match short, grammar.rule? (String.ofList ['-', letter]) with
        | true, some next =>
            let bundle : Except Stop Bundle :=
              match others with
              | [] => .ok { last := some next }
              | other :: more => unfold grammar next true (other :: more)
            bundle.map fun bundle => { bundle with given := (rule, none) :: bundle.given }
        | _, _ => .error (.fault (.argumentIgnored rule.title (String.ofList behind)))

/-- What the use of an option holds. -/
def OptionUse.bundle (grammar : Grammar) (use : OptionUse) : Except Stop Bundle :=
  match use.argument with
  | none => .ok { last := some use.rule }
  | some argument =>
      Bundle.unfold grammar use.rule (!"--".isPrefixOf use.name) argument.toList

/-- Gives an option the argument that follows, if it needs one. -/
def withFollowing (rule : OptionRule) (following : List Word) :
    Except Stop ((OptionRule × Option String) × List Word) :=
  if rule.takesArgument then
    match following with
    | ⟨text, .operand⟩ :: rest => .ok ((rule, some text), rest)
    | _ => .error (.fault (.argumentMissing rule.title))
  else .ok ((rule, none), following)

/-- Reads an option and gives the words behind it. -/
def readOption (grammar : Grammar) (reading : Reading) (word : Word) (following : List Word) :
    Except Stop (Reading × List Word) :=
  match word.role with
  | .option (some use) => do
      let bundle ← use.bundle grammar
      match bundle.last with
      | none =>
          let reading ← reading.takeOptions bundle.given
          pure (reading, following)
      | some rule =>
          let (last, rest) ← withFollowing rule following
          let reading ← reading.takeOptions (bundle.given ++ [last])
          pure (reading, rest)
  | _ => .ok (reading.leave [word], following)

/-- Takes one operand from the front, with the separator in front of it or
behind it. Behind the separator a second one counts as an operand; where it
would be the only word, nothing is left of it. -/
def operand? (words : List Word) : Option (Option String × List Word) :=
  let inner := words.dropWhile Word.isSeparator
  match inner with
  | ⟨text, .operand⟩ :: rest =>
      let behind := rest.dropWhile Word.isSeparator
      let alone := inner.length == words.length && behind.length == rest.length
      some (if alone && text == "--" then none else some text, behind)
  | _ => none

/-- Takes as many of the awaited operands as there are at the front. -/
def takeOperands (words : List Word) :
    List String → List (String × Option String) × List String × List Word
  | [] => ([], [], words)
  | name :: names =>
      match operand? words with
      | none => ([], name :: names, words)
      | some (text, rest) =>
          let (taken, awaited, left) := takeOperands rest names
          ((name, text) :: taken, awaited, left)

/-- Takes operands, and behind them the command that follows with all its
arguments. -/
def readOperands (grammar : Grammar) (reading : Reading) (words : List Word) :
    Reading × List Word :=
  let (taken, awaited, rest) := takeOperands words reading.awaited
  let reading := { reading with operands := reading.operands ++ taken, awaited }
  if grammar.commands.isEmpty || !reading.command.isEmpty || (operand? rest).isNone then
    (reading, rest)
  else ({ reading with command := rest.map Word.text }, [])

/-- Reads words. Every turn uses up a word, so their number is enough fuel. -/
def readWords (grammar : Grammar) : Nat → Reading → List Word → Except Stop Reading
  | 0, reading, words => .ok (reading.leave words)
  | fuel + 1, reading, words =>
      let front := words.takeWhile fun word => !word.isOption
      let (taken, rest) := readOperands grammar reading words
      match words.drop front.length with
      | [] => .ok (taken.leave rest)
      | word :: following =>
          if rest.length < words.length ∧ front ≠ [] then readWords grammar fuel taken rest
          else
            match readOption grammar (reading.leave front) word following with
            | .error stop => .error stop
            | .ok (reading, rest) => readWords grammar fuel reading rest

/-- The arguments that a command still needs. -/
def missing (grammar : Grammar) (reading : Reading) : List String :=
  reading.awaited
    ++ (grammar.options.filter fun rule => rule.required && !reading.has rule.title).map
      OptionRule.title

/-- Reads the arguments of a command. -/
def Grammar.read (grammar : Grammar) (arguments : List String) : Except Stop Reading := do
  let words ← (grammar.words arguments).mapError .fault
  let reading ← readWords grammar (words.length + 1) { awaited := grammar.operands } words
  match missing grammar reading with
  | [] => pure reading
  | names => .error (.fault (.required names))

end ImageAtlas.CommandLine
