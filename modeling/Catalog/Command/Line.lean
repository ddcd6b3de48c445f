import Catalog.Command.Basic

/-!
Reading a command line. It has two levels, each with its own options: what stands before the name of
a command, and what stands behind it. Options that all commands share may stand on both levels, and
the later one counts.

The value of an option that is written as an argument of its own is checked late: when the next
option is complete, or at the end of its level. So where a line has several faults, another one may
be found before it.
-/

namespace Catalog.CommandLine

/-- Why there is nothing to run. -/
inductive Fault
  /-- The line asks for help. -/
  | help
  /-- The line asks for the version. -/
  | version
  /-- The line is empty. -/
  | empty
  | missingCommand
  | unknownCommand
  | unknownArgument
  | invalidValue
  | missingArgument
  | repeated
  | surplusValue
  deriving DecidableEq, Repr

/-- An option with a value. -/
inductive Key
  | root
  | program
  | format
  | output
  deriving DecidableEq, Repr

/-- An option without a value. -/
inductive Flag
  | verbose
  | help
  | version
  deriving DecidableEq, Repr

/-- An option. -/
inductive Switch
  | key (key : Key)
  | flag (flag : Flag)
  deriving DecidableEq, Repr

/-- How many arguments that are no options a level takes. -/
inductive Operands
  | none
  | one
  | many
  deriving DecidableEq, Repr

/-- The names of the commands. -/
inductive CommandName
  | registry
  | registryTable
  | settings
  | schema
  | suggest
  | completions
  | version
  deriving DecidableEq, Repr

/-- A level of the line: what stands before the name of the command, or what stands behind it. -/
inductive Level
  | outer
  | inner (command : CommandName)
  deriving DecidableEq, Repr

namespace CommandName

/-- All commands. -/
def all : List CommandName :=
  [registry, registryTable, settings, schema, suggest, completions, version]

/-- The text of a name. -/
def text : CommandName → String
  | registry => "registry"
  | registryTable => "registry-table"
  | settings => "settings"
  | schema => "schema"
  | suggest => "suggest"
  | completions => "completions"
  | version => "version"

/-- The command of a name. Names are not abbreviated. -/
def ofText? (name : String) : Option CommandName :=
  all.find? (·.text = name)

end CommandName

/-- The name that asks for help about a command. -/
def helpName : String :=
  "help"

/-- Whether a text names a command or asks for help. -/
def isCommandName (name : String) : Bool :=
  name = helpName || (CommandName.ofText? name).isSome

/-- The switches that both levels have, by their long names. -/
def sharedSwitches : List (String × Switch) :=
  [("root", .key .root), ("mise", .key .program), ("verbose", .flag .verbose),
    ("help", .flag .help)]

/-- The switches of a level, by their long names. -/
def Level.switches : Level → List (String × Switch)
  | outer => sharedSwitches ++ [("version", .flag .version)]
  | inner .registry => sharedSwitches ++ [("format", .key .format), ("output", .key .output)]
  | inner .registryTable | inner .settings => sharedSwitches ++ [("output", .key .output)]
  | inner _ => sharedSwitches

/-- The letter that is short for a switch. -/
def Switch.letter? : Switch → Option Char
  | key .output => some 'o'
  | flag .verbose => some 'v'
  | flag .help => some 'h'
  | flag .version => some 'V'
  | _ => none

/-- The switch of a long name. -/
def Level.long? (level : Level) (name : String) : Option Switch :=
  Keyed.get? level.switches name

/-- The switch of a letter. -/
def Level.short? (level : Level) (letter : Char) : Option Switch :=
  (level.switches.map (·.2)).find? (·.letter? = some letter)

/-- The operands that a level takes. -/
def Level.operands : Level → Operands
  | inner .suggest => .many
  | inner .completions => .one
  | _ => .none

/-- What is wrong with an argument that is no option, on a level that takes none. Before the name of
a command it is taken for such a name, unless it is the right one behind two dashes. -/
def Level.refusal (level : Level) (closed : Bool) (text : String) : Fault :=
  match level with
  | outer => if closed && isCommandName text then .unknownArgument else .unknownCommand
  | inner _ => .unknownArgument

/-- An argument by its form. -/
inductive Word
  /-- Two dashes: no options follow. -/
  | closing
  | long (name : String) (value : Option String)
  | short (letters : List Char)
  | plain
  deriving DecidableEq, Repr

/-- The form of an argument. A single dash is no option. -/
def Word.of (argument : String) : Word :=
  match argument.toList with
  | ['-', '-'] => closing
  | '-' :: '-' :: rest =>
    match Text.cut? '=' rest with
    | some (name, value) => long (String.ofList name) (some (String.ofList value))
    | none => long (String.ofList rest) none
  | '-' :: c :: rest => short (c :: rest)
  | _ => plain

/-- What is accepted on a level. -/
structure Given where
  root : Option String := none
  program : Option String := none
  format : Option Format := none
  output : Option String := none
  verbose : Bool := false
  generators : List Suggestion.Generator := []
  shell : Option Shell := none
  deriving DecidableEq, Repr

/-- What was read and is still to be checked. -/
inductive Pending
  | nothing
  /-- An option whose value has to follow. -/
  | awaiting (key : Key)
  | value (key : Key) (text : String)
  | operands (texts : List String)
  deriving DecidableEq, Repr

/-- Where the reader of a level stands. -/
structure State where
  given : Given := {}
  pending : Pending := .nothing
  closed : Bool := false
  deriving DecidableEq, Repr

/-- A value that has to be right. -/
def required {α : Type} (value : Option α) : Except Fault α :=
  match value with
  | some value => .ok value
  | none => .error .invalidValue

/-- A path, which is not empty. -/
def path? (text : String) : Option String :=
  if text = "" then none else some text

/-- Sets something that may be set once. -/
def once {α : Type} (old new : Option α) : Except Fault (Option α) :=
  if old.isSome then .error .repeated else (required new).map some

namespace Given

/-- Accepts the value of an option. -/
def accept (given : Given) (key : Key) (text : String) : Except Fault Given :=
  match key with
  | .root => (once given.root (path? text)).map fun root => { given with root }
  | .program => (once given.program (some text)).map fun program => { given with program }
  | .format => (once given.format (Format.ofName? text)).map fun format => { given with format }
  | .output => (once given.output (path? text)).map fun output => { given with output }

/-- Accepts operands. -/
def acceptOperands (given : Given) (level : Level) (texts : List String) : Except Fault Given :=
  match level.operands with
  | .none => .error .unknownArgument
  | .one => do
    let shells ← texts.mapM fun text => required (Shell.ofName? text)
    return { given with shell := shells.head?.or given.shell }
  | .many => do
    let generators ← texts.mapM fun text => required (Suggestion.Generator.ofName? text)
    return { given with generators := given.generators ++ generators }

end Given

namespace State

/-- Checks what is pending. -/
def settle (level : Level) (state : State) : Except Fault State :=
  match state.pending with
  | .nothing => .ok state
  | .awaiting _ => .error .invalidValue
  | .value key text =>
    (state.given.accept key text).map fun given => { state with given, pending := .nothing }
  | .operands texts =>
    (state.given.acceptOperands level texts).map fun given =>
      { state with given, pending := .nothing }

/-- Reads an option with the value that is attached to it. -/
def attach (level : Level) (state : State) (key : Key) (text : String) : Except Fault State := do
  let state ← state.settle level
  return { state with given := ← state.given.accept key text }

/-- Reads an option whose value has to follow. -/
def await (level : Level) (state : State) (key : Key) : Except Fault State := do
  return { ← state.settle level with pending := .awaiting key }

/-- Reads an option without a value. -/
def raise (level : Level) (state : State) (flag : Flag) : Except Fault State := do
  let state ← state.settle level
  match flag with
  | .help => throw .help
  | .version => throw .version
  | .verbose =>
    if state.given.verbose then throw .repeated
    return { state with given := { state.given with verbose := true } }

/-- Reads an option with a long name. -/
def long (level : Level) (state : State) (name : String) (value : Option String) :
    Except Fault State :=
  match level.long? name, value with
  | some (.key key), some text => state.attach level key text
  | some (.key key), none => state.await level key
  | some (.flag _), some _ => .error .surplusValue
  | some (.flag flag), none => state.raise level flag
  | none, _ => .error .unknownArgument

/-- Reads letters, each of which is an option. What follows the letter of an option with a value is
that value, with or without an equals sign before it. -/
def short (level : Level) (state : State) : List Char → Except Fault State
  | [] => .ok state
  | letter :: rest =>
    match level.short? letter, rest with
    | some (.flag flag), _ => do short level (← state.raise level flag) rest
    | some (.key key), [] => state.await level key
    | some (.key key), '=' :: text => state.attach level key (String.ofList text)
    | some (.key key), text => state.attach level key (String.ofList text)
    | none, _ => .error .unknownArgument

/-- Whether the level has its only operand. -/
def hasOperand (state : State) : Bool :=
  state.given.shell.isSome || state.pending matches .operands _

/-- Reads an argument that is no option. -/
def operand (level : Level) (state : State) (text : String) : Except Fault State :=
  match level.operands, state.pending with
  | .none, _ => .error (level.refusal state.closed text)
  | .one, _ =>
    if state.hasOperand then .error .unknownArgument
    else do return { ← state.settle level with pending := .operands [text] }
  | .many, .operands texts => .ok { state with pending := .operands (texts ++ [text]) }
  | .many, _ => do return { ← state.settle level with pending := .operands [text] }

/-- Whether an option waits for its value. -/
def isAwaiting (state : State) : Bool :=
  !state.closed && state.pending matches .awaiting _

/-- Reads an argument on a level. -/
def step (state : State) (level : Level) (argument : String) : Except Fault State :=
  if state.closed then state.operand level argument
  else
    match Word.of argument, state.pending with
    | .closing, _ => .ok { state with closed := true }
    | .long name value, _ => state.long level name value
    | .short letters, _ => state.short level letters
    | .plain, .awaiting key => .ok { state with pending := .value key argument }
    | .plain, _ => state.operand level argument

end State

/-- Reads the arguments behind the name of a command. -/
def readInner (command : CommandName) (arguments : List String) : Except Fault Given := do
  let state ← arguments.foldlM (State.step · (.inner command)) {}
  return (← state.settle (.inner command)).given

/-- What a request for help about a command comes to: the fault that shows help, unless the command
is unknown. -/
def helpFault : List String → Fault
  | [] => .help
  | [name] => if isCommandName name then .help else .unknownCommand
  | _ => .unknownCommand

/-- The command with what was given for it. -/
def CommandName.command (name : CommandName) (given : Given) : Except Fault Command :=
  match name with
  | registry => .ok (.registry (given.format.getD .json) given.output)
  | registryTable => .ok (.registryTable given.output)
  | settings => .ok (.settings given.output)
  | schema => .ok .schema
  | suggest =>
    if given.generators = [] then .error .missingArgument else .ok (.suggest given.generators)
  | completions =>
    match given.shell with
    | some shell => .ok (.completions shell)
    | none => .error .missingArgument
  | version => .ok .version

/-- The program that manages the tools, if no other is given. -/
def defaultProgram : String :=
  "mise"

/-- Reads the name of a command and what stands behind it. -/
def enter (program : Option String) (outer : State) (name : String) (rest : List String) :
    Except Fault Invocation :=
  match CommandName.ofText? name with
  | none => .error (helpFault rest)
  | some name => do
    let inner ← readInner name rest
    let command ← name.command inner
    let outer := (← outer.settle .outer).given
    return {
      root := inner.root.or outer.root
      program := ((inner.program.or outer.program).or program).getD defaultProgram
      verbose := inner.verbose || outer.verbose
      command }

/-- The fault of a line without a command. -/
def commandless (program : Option String) (outer : State) : Fault :=
  match outer.settle .outer with
  | .error fault => fault
  | .ok state =>
    if state.given = {} && program.isNone then .empty else .missingCommand

/-- Reads the arguments from the outer level on. -/
def readOuter (program : Option String) (state : State) : List String → Except Fault Invocation
  | [] => .error (commandless program state)
  | argument :: rest =>
    if isCommandName argument && !state.closed && !state.isAwaiting then
      enter program state argument rest
    else do readOuter program (← state.step .outer argument) rest

/-- Reads a command line. The program that manages the tools may be given outside the line. -/
def parse (program : Option String) (arguments : List String) : Except Fault Invocation :=
  readOuter program {} arguments

end Catalog.CommandLine
