import ImageAtlas.CommandLine.Reading

/-!
# Invocations

The commands of the program with their help texts, and what a row of arguments
asks for: to place a schema at an address, to search for its best placement, or
to discover what a profile lists.
-/

namespace ImageAtlas.CommandLine

/-- The option that asks for help, of every command. -/
def helpOption : OptionRule := { names := ["-h", "--help"], effect := .help }

/-- The option that asks for all notices. -/
def verboseOption : OptionRule := { names := ["-v", "--verbose"], effect := .flag }

/-- The option that names a profile. -/
def profileOption : OptionRule := { names := ["--profile"], effect := .text }

/-- The option that gives the address of an array. -/
def atOption : OptionRule := { names := ["--at"], effect := .address, required := true }

/-- The option that gives an address to translate. -/
def offsetOption : OptionRule := { names := ["--offset"], effect := .address }

/-- The option that asks for a listing. -/
def dumpOption : OptionRule := { names := ["--dump"], effect := .flag }

/-- The option that names the file of a trace. -/
def traceOption : OptionRule := { names := ["--save-trace"], effect := .text }

/-- The operand that names an image. -/
def fileOperand : String := "file"

/-- The operand that is a schema text. -/
def schemaOperand : String := "schema"

/-- The arguments in front of a command. -/
def program : Grammar where
  program := "romlayout"
  usage := "usage: romlayout [-h] [-v] [--profile PROFILE] \x7bparse,search,discover\x7d ..."
  help :=
    ["",
      "Describe, validate and discover arrays inside ROM images",
      "",
      "positional arguments:",
      "  \x7bparse,search,discover\x7d",
      "                        Available commands",
      "    parse               Place a schema at an address",
      "    search              Find the best placement for a schema",
      "    discover            Anchor the header and name arrays of a known game",
      "",
      "options:",
      "  -h, --help            show this help message and exit",
      "  -v, --verbose         Enable verbose output",
      "  --profile PROFILE     Path to a search profile (TOML); defaults to the",
      "                        built-in GBA profile"]
  options := [helpOption, verboseOption, profileOption]
  operands := []
  commands := ["parse", "search", "discover"]

/-- The arguments of the command that places a schema. -/
def parseCommand : Grammar where
  program := "romlayout parse"
  usage := "usage: romlayout parse [-h] --at AT [--offset OFFSET] [--dump] file schema"
  help :=
    ["",
      "positional arguments:",
      "  file             Image file",
      "  schema           Schema text, e.g. [name\"\"13]354",
      "",
      "options:",
      "  -h, --help       show this help message and exit",
      "  --at AT          Array start address (hex)",
      "  --offset OFFSET  Translate this address (hex) into element/segment",
      "                   coordinates",
      "  --dump           Print every element as text"]
  options := [helpOption, atOption, offsetOption, dumpOption]
  operands := [fileOperand, schemaOperand]

/-- The arguments of the command that searches. -/
def searchCommand : Grammar where
  program := "romlayout search"
  usage := "usage: romlayout search [-h] [--dump] file schema"
  help :=
    ["",
      "positional arguments:",
      "  file        Image file",
      "  schema      Schema text, e.g. [name\"\"13]",
      "",
      "options:",
      "  -h, --help  show this help message and exit",
      "  --dump      Print every element of the match as text"]
  options := [helpOption, dumpOption]
  operands := [fileOperand, schemaOperand]

/-- The arguments of the command that discovers. -/
def discoverCommand : Grammar where
  program := "romlayout discover"
  usage := "usage: romlayout discover [-h] [--save-trace SAVE_TRACE] [--dump] file"
  help :=
    ["",
      "positional arguments:",
      "  file                  Image file",
      "",
      "options:",
      "  -h, --help            show this help message and exit",
      "  --save-trace SAVE_TRACE",
      "                        Save event trace to file",
      "  --dump                Print every discovered array as text"]
  options := [helpOption, traceOption, dumpOption]
  operands := [fileOperand]

/-- The whole help text of a command. -/
def Grammar.helpText (grammar : Grammar) : String :=
  String.join ((grammar.usage :: grammar.help).map (· ++ "\n"))

/-- What is to be done with an image. A schema operand of which nothing is left
is no text. -/
inductive Task where
  | parse (schema : Option String) (address offset : Setting Nat) (dump : Bool)
  | search (schema : Option String) (dump : Bool)
  | discover (trace : Setting String) (dump : Bool)
deriving DecidableEq, Repr

/-- What a row of arguments asks for. -/
structure Invocation where
  verbose : Bool
  profile : Setting String
  task : Option (String × Task)
deriving DecidableEq, Repr

/-- Why arguments lead to no invocation, and the command at which it arose. -/
structure Interruption where
  grammar : Grammar
  stop : Stop
deriving DecidableEq, Repr

/-- The image and the task of a command, and the arguments that it left over. -/
def readCommand (name : String) (arguments : List String) :
    Except Interruption ((String × Task) × List String) :=
  let reading (grammar : Grammar) : Except Interruption Reading :=
    (grammar.read arguments).mapError fun stop => { grammar, stop }
  let finish (reading : Reading) (task : Task) : (String × Task) × List String :=
    (((reading.operand? fileOperand).getD "", task), reading.leftover)
  if name = "parse" then do
    let reading ← reading parseCommand
    pure <| finish reading <|
      .parse (reading.operand? schemaOperand) (reading.address atOption.title)
        (reading.address offsetOption.title) (reading.has dumpOption.title)
  else if name = "search" then do
    let reading ← reading searchCommand
    pure <| finish reading <|
      .search (reading.operand? schemaOperand) (reading.has dumpOption.title)
  else if name = "discover" then do
    let reading ← reading discoverCommand
    pure <| finish reading <|
      .discover (reading.text traceOption.title) (reading.has dumpOption.title)
  else .error ⟨program, .fault (.commandUnknown name program.commands)⟩

/-- Reads the arguments of the program. Arguments that neither the program nor
the command could place are reported together, at the end. -/
def readInvocation (arguments : List String) : Except Interruption Invocation := do
  let reading ← (program.read arguments).mapError fun stop => ⟨program, stop⟩
  let (task, leftover) ←
    match reading.command with
    | [] => pure (none, [])
    | name :: rest => do
        let (task, leftover) ← readCommand name rest
        pure (some task, leftover)
  match reading.leftover ++ leftover with
  | [] =>
      pure
        { verbose := reading.has verboseOption.title
          profile := reading.text profileOption.title
          task }
  | arguments => .error ⟨program, .fault (.unrecognised arguments)⟩

end ImageAtlas.CommandLine
