import ImageAtlas.CommandLine.Address

/-!
# The grammar of a command

A command takes options and operands. What an argument is depends on its form
and on the options of the command alone: a name of an option, a beginning of
one long name, a short name with more behind it, or anything else that begins
with a dash is an option; a lone dash, a negative number and a text with a
space are operands, and so is everything behind the separator `--`.
-/

namespace ImageAtlas.CommandLine

/-- What an option does: it asks for the help text, it is taken notice of, or
it takes a text or an address. -/
inductive OptionEffect where
  | help
  | flag
  | text
  | address
deriving DecidableEq, Repr

/-- An option under its names. A name with one dash has one letter. -/
structure OptionRule where
  names : List String
  effect : OptionEffect
  required : Bool := false
deriving DecidableEq, Repr

/-- An option as errors name it. -/
def OptionRule.title (rule : OptionRule) : String :=
  "/".intercalate rule.names

/-- Whether an option needs an argument. -/
def OptionRule.takesArgument (rule : OptionRule) : Bool :=
  rule.effect == .text || rule.effect == .address

/-- What the arguments of a command may be. Behind the operands one of the
commands listed may follow, with arguments of its own. -/
structure Grammar where
  program : String
  usage : String
  help : List String
  options : List OptionRule
  operands : List String
  commands : List String := []
deriving DecidableEq, Repr

/-- What is wrong with the arguments of a command. -/
inductive ArgumentFault where
  | ambiguous (written : String) (names : List String)
  | argumentMissing (option : String)
  | argumentIgnored (option argument : String)
  | addressRefused (option : String) (refusal : AddressRefusal)
  | commandUnknown (name : String) (commands : List String)
  | required (names : List String)
  | unrecognised (arguments : List String)
deriving DecidableEq, Repr

/-- The wording of what is wrong. -/
def ArgumentFault.message : ArgumentFault → String
  | ambiguous written names =>
      "ambiguous option: " ++ written ++ " could match " ++ ", ".intercalate names
  | argumentMissing option => "argument " ++ option ++ ": expected one argument"
  | argumentIgnored option argument =>
      "argument " ++ option ++ ": ignored explicit argument " ++ Text.quoted argument
  | addressRefused option refusal => "argument " ++ option ++ ": " ++ refusal.message
  | commandUnknown name commands =>
      "argument command: invalid choice: " ++ Text.quoted name ++ " (choose from "
        ++ ", ".intercalate (commands.map Text.quoted) ++ ")"
  | required names => "the following arguments are required: " ++ ", ".intercalate names
  | unrecognised arguments => "unrecognized arguments: " ++ " ".intercalate arguments

/-- An option as it was written: the name it goes by and, if one was written in
the same argument, its own argument. -/
structure OptionUse where
  rule : OptionRule
  name : String
  argument : Option String := none
deriving DecidableEq, Repr

/-- What an argument is. An option may be unknown. -/
inductive Role where
  | operand
  | separator
  | option (use : Option OptionUse)
deriving DecidableEq, Repr

/-- An argument with what it is. -/
structure Word where
  text : String
  role : Role
deriving DecidableEq, Repr

/-- Whether a word is an option. -/
def Word.isOption (word : Word) : Bool :=
  match word.role with
  | .option _ => true
  | _ => false

/-- Whether a word is the separator. -/
def Word.isSeparator (word : Word) : Bool :=
  word.role == .separator

/-- Whether the characters behind a dash make a negative number, with a point
or without. A line feed may end it. -/
def isNumber (characters : List Char) : Bool :=
  let shown := if characters.getLast? = some '\n' then characters.dropLast else characters
  match shown.dropWhile Text.isDecimal with
  | [] => !shown.isEmpty
  | '.' :: fraction => !fraction.isEmpty && fraction.all Text.isDecimal
  | _ => false

/-- Divides a text at its first equals sign. -/
def splitAtEquals (text : String) : String × Option String :=
  let characters := text.toList
  let front := characters.takeWhile (· != '=')
  match characters.drop front.length with
  | [] => (text, none)
  | _ :: behind => (String.ofList front, some (String.ofList behind))

namespace Grammar

/-- The names of all options, each with its rule. -/
def named (grammar : Grammar) : List (String × OptionRule) :=
  grammar.options.flatMap fun rule => rule.names.map fun name => (name, rule)

/-- The option of a name. -/
def rule? (grammar : Grammar) (name : String) : Option OptionRule :=
  (grammar.named.find? fun entry => entry.1 == name).map Prod.snd

/-- The options for which an argument may stand that begins with a dash and is
no name itself. -/
def possible (grammar : Grammar) (argument : String) : List OptionUse :=
  if "--".isPrefixOf argument then
    let (written, value) := splitAtEquals argument
    (grammar.named.filter fun entry => written.isPrefixOf entry.1).map fun (name, rule) =>
      { rule, name, argument := value }
  else
    let short := String.ofList (argument.toList.take 2)
    (grammar.named.filter fun entry => entry.1 == short).map fun (name, rule) =>
      { rule, name, argument := some (String.ofList (argument.toList.drop 2)) }

/-- The option that an argument names in front of an equals sign. -/
def equated? (grammar : Grammar) (argument : String) : Option OptionUse :=
  match splitAtEquals argument with
  | (name, some value) =>
      (grammar.rule? name).map fun rule => { rule, name, argument := some value }
  | _ => none

/-- What an argument in front of the separator is. -/
def role (grammar : Grammar) (argument : String) : Except ArgumentFault Role :=
  match argument.toList with
  | '-' :: rest =>
      match grammar.rule? argument with
      | some rule => .ok (.option (some { rule, name := argument }))
      | none =>
          if rest = [] then .ok .operand
          else
            match grammar.equated? argument with
            | some use => .ok (.option (some use))
            | none =>
                match grammar.possible argument with
                | [use] => .ok (.option (some use))
                | [] =>
                    if isNumber rest ∨ ' ' ∈ rest then .ok .operand else .ok (.option none)
                | uses => .error (.ambiguous argument (uses.map OptionUse.name))
  | _ => .ok .operand

/-- The arguments with what they are. -/
def words (grammar : Grammar) : List String → Except ArgumentFault (List Word)
  | [] => .ok []
  | argument :: rest =>
      if argument = "--" then
        .ok (⟨argument, .separator⟩ :: rest.map fun text => ⟨text, .operand⟩)
      else
        match grammar.role argument with
        | .error fault => .error fault
        | .ok role =>
            match words grammar rest with
            | .error fault => .error fault
            | .ok others => .ok (⟨argument, role⟩ :: others)

end Grammar

end ImageAtlas.CommandLine
