import Intake.Cli.Invocation
import Intake.Text.Decimal

/-!
# Reading arguments

Options of the program may stand before and after the command, those of a command after it. The
value of an option follows as the next argument, after an equals sign, or directly after a short
option; short options without values may share a dash. Two dashes end the options.

A value is judged when the next option or plain argument is met, or at the end. An argument that is
not known is reported first, whatever values wait to be judged.
-/

namespace Intake

namespace Cli

/-- The options. -/
inductive OptionName where
  | config | format | verbose | help | version | table | input | workers | batch
  deriving DecidableEq, Repr

namespace OptionName

/-- The long form, after two dashes. -/
def long : OptionName → String
  | config => "config"
  | format => "format"
  | verbose => "verbose"
  | help => "help"
  | version => "version"
  | table => "table"
  | input => "input"
  | workers => "workers"
  | batch => "batch-size"

/-- The short form, after one dash. -/
def short? : OptionName → Option Char
  | config => some 'C'
  | format => some 'f'
  | verbose => some 'v'
  | help => some 'h'
  | version => some 'V'
  | table => some 't'
  | input => some 'i'
  | workers => some 'w'
  | batch => none

/-- The option has a value. -/
def takesValue : OptionName → Bool
  | verbose | help | version => false
  | _ => true

end OptionName

/-- The commands. -/
inductive CommandName where
  | discover | extract | detect | datetime | layouts
  deriving DecidableEq, Repr

namespace CommandName

/-- The word for a command. -/
def word : CommandName → String
  | discover => "discover"
  | extract => "extract"
  | detect => "detect"
  | datetime => "datetime"
  | layouts => "layouts"

/-- All commands. -/
def all : List CommandName := [discover, extract, detect, datetime, layouts]

/-- The command that a word stands for. -/
def ofWord? (word : String) : Option CommandName := all.find? fun command => command.word = word

/-- The options of a command alone. -/
def options : CommandName → List OptionName
  | discover => [.table, .input, .workers, .batch]
  | extract => [.table, .input]
  | detect => [.input]
  | datetime => []
  | layouts => []

/-- The command has an argument that is no option. -/
def takesArgument (command : CommandName) : Bool := command = datetime

end CommandName

/-- The word that asks for help on a command. -/
def helpWord : String := "help"

/-- A word stands for a command, help included. -/
def isCommandWord (word : String) : Bool := word = helpWord || (CommandName.ofWord? word).isSome

/-- The options that are understood after a command, or before any. -/
def optionsIn : Option CommandName → List OptionName
  | none => [.config, .format, .verbose, .help, .version]
  | some command => command.options ++ [.config, .format, .verbose, .help]

/-!
## Values
-/

/-- The format with a name. -/
def formatValue : String → Except UsageError Format
  | "json" => .ok .json
  | "pretty" => .ok .pretty
  | _ => .error .badValue

/-- A path, which must not be empty. -/
def pathValue (text : String) : Except UsageError String :=
  if text = "" then .error .badValue else .ok text

/-- A whole number of at most 64 bits, with or without a plus sign. -/
def numberValue (text : String) : Except UsageError Nat :=
  let digits := match text.toList with
    | '+' :: digits => digits
    | digits => digits
  let value := digitsValue digits 0
  if digits ≠ [] ∧ digits.all isDigit ∧ value < 0x10000000000000000 then .ok value
  else .error .unreadableValue

/-- The values given on one side of the command. -/
structure Given where
  config : Option String := none
  format : Option Format := none
  verbose : Bool := false
  table : Option String := none
  input : Option String := none
  workers : Option Nat := none
  batch : Option Nat := none
  /-- The argument that is no option. -/
  argument : Option String := none
  deriving DecidableEq

namespace Given

/-- A value that must not have been given before. -/
def once {α : Type} (old : Option α) (read : Except UsageError α) : Except UsageError (Option α) :=
  if old.isSome then .error .repeated else read.map some

/-- Give the value of an option. -/
def setValue (given : Given) (name : OptionName) (text : String) : Except UsageError Given := do
  match name with
  | .config => pure { given with config := ← once given.config (pathValue text) }
  | .format => pure { given with format := ← once given.format (formatValue text) }
  | .table => pure { given with table := ← once given.table (.ok text) }
  | .input => pure { given with input := ← once given.input (pathValue text) }
  | .workers => pure { given with workers := ← once given.workers (numberValue text) }
  | .batch => pure { given with batch := ← once given.batch (numberValue text) }
  | .verbose | .help | .version => throw .extraValue

/-- Give an option without a value. -/
def setFlag (given : Given) (name : OptionName) : Except UsageError Given :=
  match name with
  | .help => .error .help
  | .version => .error .version
  | .verbose => if given.verbose then .error .repeated else .ok { given with verbose := true }
  | _ => .error .badValue

end Given

/-!
## Arguments one by one
-/

/-- The arguments read on one side of the command. -/
structure Reading where
  /-- The command, once it is known. -/
  command : Option CommandName := none
  given : Given := {}
  /-- The option given last, with its value once it is known, as long as it is not judged. -/
  pending : Option (OptionName × Option String) := none
  /-- The options have ended. -/
  ended : Bool := false

namespace Reading

/-- The option given last waits for its value. -/
def awaits (reading : Reading) : Bool :=
  match reading.pending with
  | some (_, none) => true
  | _ => false

/-- Judge the option given last. -/
def settle (reading : Reading) : Except UsageError Reading := do
  match reading.pending with
  | none => pure reading
  | some (_, none) => throw .badValue
  | some (name, some value) =>
    pure { reading with given := ← reading.given.setValue name value, pending := none }

/-- Give an option that has its value with it. -/
def withValue (reading : Reading) (name : OptionName) (value : String) :
    Except UsageError Reading := do
  let reading ← reading.settle
  pure { reading with given := ← reading.given.setValue name value }

/-- Give an option whose value is still to come. -/
def withoutValue (reading : Reading) (name : OptionName) : Except UsageError Reading := do
  let reading ← reading.settle
  pure { reading with pending := some (name, none) }

/-- Give an option that has no value. -/
def withFlag (reading : Reading) (name : OptionName) : Except UsageError Reading := do
  let reading ← reading.settle
  pure { reading with given := ← reading.given.setFlag name }

/-- Read an argument with two dashes in front. -/
def longOption (reading : Reading) (text : List Char) : Except UsageError Reading :=
  let name := String.ofList (text.takeWhile (· ≠ '='))
  let value := (text.dropWhile (· ≠ '=')).tail?.map String.ofList
  match (optionsIn reading.command).find? fun option => option.long = name with
  | none => .error .unknownArgument
  | some option =>
    match option.takesValue, value with
    | true, some value => reading.withValue option value
    | true, none => reading.withoutValue option
    | false, some _ => .error .extraValue
    | false, none => reading.withFlag option

/-- Read the letters behind a single dash. -/
def shortOptions (reading : Reading) : List Char → Except UsageError Reading
  | [] => .ok reading
  | letter :: rest =>
    match (optionsIn reading.command).find? fun option => option.short? = some letter with
    | none => .error .unknownArgument
    | some option =>
      if option.takesValue then
        match rest with
        | [] => reading.withoutValue option
        | '=' :: value => reading.withValue option (String.ofList value)
        | value => reading.withValue option (String.ofList value)
      else do
        shortOptions (← reading.withFlag option) rest

/-- Read an argument that is no option. -/
def plainArgument (reading : Reading) (text : String) : Except UsageError Reading := do
  match reading.command with
  | none =>
    throw (if reading.ended && isCommandWord text then .unknownArgument else .unknownCommand)
  | some command =>
    if command.takesArgument && reading.given.argument.isNone then
      let reading ← reading.settle
      pure { reading with given := { reading.given with argument := some text } }
    else throw .unknownArgument

/-- Read an argument. -/
def argument (reading : Reading) (text : String) : Except UsageError Reading :=
  if reading.ended then reading.plainArgument text
  else
    match text.toList with
    | ['-', '-'] => .ok { reading with ended := true }
    | '-' :: '-' :: rest => reading.longOption rest
    | '-' :: letter :: rest => reading.shortOptions (letter :: rest)
    | _ =>
      match reading.pending with
      | some (name, none) => .ok { reading with pending := some (name, some text) }
      | _ => reading.plainArgument text

end Reading

/-!
## Invocations
-/

/-- A value that the command needs. -/
def needed {α : Type} (value : Option α) : Except UsageError α :=
  match value with
  | some value => .ok value
  | none => .error .missingArgument

/-- The command with the values given for it. -/
def CommandName.toCommand (command : CommandName) (given : Given) : Except UsageError Command := do
  match command with
  | .discover =>
    let table ← needed given.table
    pure (.discover table given.input (given.workers.getD 4) (given.batch.getD 256))
  | .extract => pure (.extract (← needed given.table) given.input)
  | .detect => pure (.detect given.input)
  | .datetime => pure (.datetime (← needed given.argument))
  | .layouts => pure .layouts

/-- The invocation of a command, given the options before it and the arguments behind it. What is
given behind the command counts more. -/
def invocationOf (before : Given) (command : CommandName) (arguments : List String) :
    Except UsageError Invocation := do
  let start : Reading := { command := some command }
  let reading ← (← arguments.foldlM Reading.argument start).settle
  let given := reading.given
  let asked ← command.toCommand given
  pure
    { config := given.config <|> before.config
      format := (given.format <|> before.format).getD .json
      verbose := given.verbose || before.verbose
      command := asked }

/-- What a request for help on some words comes to. -/
def helpOn : List String → UsageError
  | [] => .help
  | [word] => if isCommandWord word then .help else .unknownCommand
  | word :: next :: _ =>
    if word = helpWord && isCommandWord next then .help else .unknownCommand

/-- Read the arguments from some reading on, before any command. -/
def readFrom (reading : Reading) : List String → Except UsageError Invocation
  | [] => do
    let reading ← reading.settle
    throw (if reading.given = {} then .nothingGiven else .missingCommand)
  | text :: rest =>
    let command := if reading.ended || reading.awaits then none else CommandName.ofWord? text
    match command with
    | some command => do
      let reading ← reading.settle
      invocationOf reading.given command rest
    | none =>
      if text = helpWord && !reading.ended && !reading.awaits then .error (helpOn rest)
      else do
        readFrom (← reading.argument text) rest

/-- The invocation that arguments describe. -/
def Invocation.ofArguments (arguments : List String) : Except UsageError Invocation :=
  readFrom {} arguments

end Cli

end Intake
