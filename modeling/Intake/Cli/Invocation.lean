/-!
# Invocations

What the program is asked to do, and what can be wrong with the way it is asked.
-/

namespace Intake

namespace Cli

/-- How messages are printed: one to a line, or laid out for reading. -/
inductive Format where
  | json | pretty
  deriving DecidableEq, Repr

/-- What the program is asked to do. A missing input stands for the standard input. -/
inductive Command where
  /-- Find the fields that a table does not have. -/
  | discover (table : String) (input : Option String) (workers batch : Nat)
  /-- Print the row of each record. -/
  | extract (table : String) (input : Option String)
  /-- Print the field types of each record. -/
  | detect (input : Option String)
  /-- Read one date-time. -/
  | datetime (value : String)
  /-- List the layouts in force. -/
  | layouts
  deriving DecidableEq, Repr

/-- A command with the options of the program. -/
structure Invocation where
  /-- The file that the settings are read from. -/
  config : Option String := none
  format : Format := .json
  verbose : Bool := false
  command : Command
  deriving DecidableEq, Repr

/-- What is wrong with arguments. -/
inductive UsageError where
  /-- There are no arguments. -/
  | nothingGiven
  /-- There are options, but no command. -/
  | missingCommand
  | unknownCommand
  /-- An option or a value that the command does not take. -/
  | unknownArgument
  /-- An argument that the command needs is missing. -/
  | missingArgument
  /-- A value is not one of those possible, or is not there. -/
  | badValue
  /-- A value cannot be read. -/
  | unreadableValue
  /-- An option that takes no value has one. -/
  | extraValue
  /-- An option is given twice. -/
  | repeated
  /-- Help was asked for. -/
  | help
  /-- The version was asked for. -/
  | version
  deriving DecidableEq, Repr

/-- The file that a command reads records from; none for the standard input. -/
def Command.inputFile? : Command → Option String
  | discover _ input _ _ | extract _ input | detect input => input.filter (· ≠ "-")
  | datetime _ | layouts => none

end Cli

end Intake
