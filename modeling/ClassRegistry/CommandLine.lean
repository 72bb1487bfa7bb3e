import ClassRegistry.Path

/-!
# The command line

From the words of a command line to what is asked for. Words are read from left to right. An
option is settled, and with it whether its value will do, only when the next known option is read
or the line ends; a word that is out of place is refused at once.
-/

namespace ClassRegistry

/-- Options of the commands that read a project. -/
structure ProjectOptions where
  sourceRoot : Option Path
  isVerbose : Bool
  deriving DecidableEq, Repr

/-- What a command line can have done. -/
inductive Command where
  | generate (options : ProjectOptions) (outDir : Option String) (isCheck : Bool)
  | list (options : ProjectOptions)
  | init
  deriving DecidableEq, Repr

/-- What a command line asks for. -/
inductive Invocation where
  /-- Nothing: an overview of the commands is shown. -/
  | overview
  | help
  | version
  | run (command : Command)
  deriving DecidableEq, Repr

/-- Why a command line is refused. -/
inductive UsageError where
  | unknownCommand (word : String)
  | unknownArgument (word : String)
  /-- An option without a value. -/
  | missingValue (option : String)
  /-- A switch with a value. -/
  | unwantedValue (option : String)
  | repeatedOption (option : String)
  deriving DecidableEq, Repr

/-- The wording of an error. -/
def UsageError.message : UsageError → String
  | .unknownCommand word => "unrecognized subcommand '" ++ word ++ "'"
  | .unknownArgument word => "unexpected argument '" ++ word ++ "' found"
  | .missingValue option => "a value is required for '" ++ option ++ "' but none was supplied"
  | .unwantedValue option => "unexpected value for '" ++ option ++ "' found; no more were expected"
  | .repeatedOption option => "the argument '" ++ option ++ "' cannot be used multiple times"

namespace CommandLine

/-- The name of a command. -/
inductive CommandName where
  | generate
  | list
  | init
  deriving DecidableEq, Repr

/-- The command of a name. -/
def CommandName.ofText? : String → Option CommandName
  | "generate" => some .generate
  | "list" => some .list
  | "init" => some .init
  | _ => none

/-- An option without a value. -/
inductive Switch where
  | check
  | verbose
  deriving DecidableEq, Repr

/-- An option with a value. -/
inductive Parameter where
  | outDir
  | sourceRoot
  deriving DecidableEq, Repr

/-- The written form of a switch. -/
def Switch.text : Switch → String
  | .check => "--check"
  | .verbose => "--verbose"

/-- The written form of an option with a value. -/
def Parameter.text : Parameter → String
  | .outDir => "--out-dir"
  | .sourceRoot => "--source-root"

/-- The switches of a command. -/
def CommandName.switches : CommandName → List Switch
  | .generate => [.check, .verbose]
  | .list => [.verbose]
  | .init => []

/-- The options of a command that have a value. -/
def CommandName.parameters : CommandName → List Parameter
  | .generate => [.outDir, .sourceRoot]
  | .list => [.sourceRoot]
  | .init => []

/-! ## Words -/

/-- What a word is by its form. -/
inductive Word where
  /-- `--`: all that follows is plain. -/
  | separator
  /-- `--name` or `--name=value`. -/
  | long (name : String) (value : Option String)
  /-- `-abc`: several options of one letter. -/
  | cluster (letters : List Char)
  | plain (text : String)
  deriving DecidableEq, Repr

/-- The form of a word. A lone minus is plain. -/
def Word.ofText (text : String) : Word :=
  match text.toList with
  | ['-', '-'] => .separator
  | '-' :: '-' :: body =>
    let name := String.ofList (body.takeWhile (· ≠ '='))
    match body.dropWhile (· ≠ '=') with
    | [] => .long name none
    | _ :: value => .long name (some (String.ofList value))
  | ['-'] => .plain text
  | '-' :: letters => .cluster letters
  | _ => .plain text

/-- The written form of an option of one letter. -/
def letterText (c : Char) : String :=
  String.ofList ['-', c]

/-! ## The words behind a command -/

/-- The options read so far. The last one may not be settled yet, and may lack its value. -/
structure Given where
  switches : List Switch
  parameters : List (Parameter × String)
  pending : Option (Parameter × Option String)
  deriving DecidableEq, Repr

/-- No options. -/
def Given.none : Given :=
  ⟨[], [], .none⟩

namespace Given

/-- The value of an option. -/
def value? (g : Given) (parameter : Parameter) : Option String :=
  (g.parameters.find? (·.1 = parameter)).map (·.2)

/-- Settles the last option: it needs a value, must not be there twice, and the value must not be
empty. -/
def settle (g : Given) : Except UsageError Given :=
  match g.pending with
  | .none => .ok g
  | some (parameter, .none) => .error (.missingValue parameter.text)
  | some (parameter, some value) =>
    if (g.value? parameter).isSome then .error (.repeatedOption parameter.text)
    else if value.isEmpty then .error (.missingValue parameter.text)
    else .ok ⟨g.switches, g.parameters ++ [(parameter, value)], .none⟩

/-- Reads a switch. -/
def addSwitch (g : Given) (switch : Switch) : Except UsageError Given := do
  let g ← g.settle
  if switch ∈ g.switches then throw (.repeatedOption switch.text)
  return { g with switches := switch :: g.switches }

/-- Reads an option with a value that is part of the word or follows. -/
def addParameter (g : Given) (parameter : Parameter) (value : Option String) :
    Except UsageError Given := do
  let g ← g.settle
  let g := { g with pending := some (parameter, value) }
  if value.isSome then g.settle else return g

/-- Reads a plain word, which can only be the value of the last option. -/
def addPlain (g : Given) (text : String) : Except UsageError Given :=
  match g.pending with
  | some (parameter, .none) => .ok { g with pending := some (parameter, some text) }
  | _ => .error (.unknownArgument text)

/-- The options of a project. -/
def projectOptions (g : Given) : ProjectOptions where
  sourceRoot := (g.value? .sourceRoot).map Path.mk
  isVerbose := g.switches.contains .verbose

/-- The command with the options read. -/
def command (g : Given) : CommandName → Command
  | .generate => .generate g.projectOptions (g.value? .outDir) (g.switches.contains .check)
  | .list => .list g.projectOptions
  | .init => .init

end Given

/-- What a word comes to: help is asked for, or the options are read on. -/
inductive Reading where
  | help
  | more (given : Given)
  deriving DecidableEq, Repr

/-- Reads a long option. -/
def readLong (c : CommandName) (g : Given) (name : String) (value : Option String) :
    Except UsageError Reading := do
  let text := "--" ++ name
  if name = "help" then
    if value.isSome then throw (.unwantedValue text)
    let _ ← g.settle
    return .help
  match c.switches.find? (·.text = text), c.parameters.find? (·.text = text) with
  | some switch, _ =>
    if value.isSome then throw (.unwantedValue text)
    return .more (← g.addSwitch switch)
  | none, some parameter => return .more (← g.addParameter parameter value)
  | none, none => throw (.unknownArgument text)

/-- Reads options of one letter. -/
def readCluster (c : CommandName) (g : Given) : List Char → Except UsageError Reading
  | [] => return .more g
  | 'h' :: _ => do
    let _ ← g.settle
    return .help
  | letter :: rest => do
    if letter = 'v' && c.switches.contains .verbose then
      readCluster c (← g.addSwitch .verbose) rest
    else throw (.unknownArgument (letterText letter))

/-- Reads the words behind the name of a command. -/
def readOptions (c : CommandName) (g : Given) : List String → Except UsageError Invocation
  | [] => do return .run ((← g.settle).command c)
  | text :: rest => do
    let reading ← match Word.ofText text with
      | .separator =>
        match rest with
        | [] => pure (.more g)
        | extra :: _ => throw (.unknownArgument extra)
      | .long name value => readLong c g name value
      | .cluster letters => readCluster c g letters
      | .plain text => pure (.more (← g.addPlain text))
    match reading with
    | .help => return .help
    | .more g => readOptions c g rest

/-! ## The whole line -/

/-- Reads the words behind `help`: at most the name of one command. -/
def readHelp : List String → Except UsageError Invocation
  | [] => .ok .help
  | [name] =>
    if (CommandName.ofText? name).isSome || name = "help" then .ok .help
    else .error (.unknownCommand name)
  | name :: extra :: _ =>
    if (CommandName.ofText? name).isSome || name = "help" then .error (.unknownCommand extra)
    else .error (.unknownCommand name)

/-- Reads a word behind `--` that comes in place of a command. -/
def readSeparated (name : String) : UsageError :=
  if (CommandName.ofText? name).isSome || name = "help" then .unknownArgument name
  else .unknownCommand name

/-- Reads a long option that comes in place of a command. -/
def readGlobalLong (name : String) (value : Option String) : Except UsageError Invocation :=
  let asked : Option Invocation :=
    if name = "help" then some .help else if name = "version" then some .version else none
  match asked with
  | none => .error (.unknownArgument ("--" ++ name))
  | some invocation =>
    if value.isSome then .error (.unwantedValue ("--" ++ name)) else .ok invocation

/-- Reads options of one letter that come in place of a command; the first one counts. -/
def readGlobalCluster : List Char → Except UsageError Invocation
  | 'h' :: _ => .ok .help
  | 'V' :: _ => .ok .version
  | letter :: _ => .error (.unknownArgument (letterText letter))
  | [] => .ok .overview

/-- Reads the words of a command line. -/
def parse : List String → Except UsageError Invocation
  | [] => .ok .overview
  | text :: rest =>
    match Word.ofText text with
    | .separator =>
      match rest with
      | [] => .ok .overview
      | name :: _ => .error (readSeparated name)
    | .long name value => readGlobalLong name value
    | .cluster letters => readGlobalCluster letters
    | .plain name =>
      match CommandName.ofText? name with
      | some c => readOptions c .none rest
      | none => if name = "help" then readHelp rest else .error (.unknownCommand name)

end CommandLine

end ClassRegistry
