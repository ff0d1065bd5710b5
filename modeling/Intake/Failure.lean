import Intake.Json.Cursor

/-!
# Failures

What can go wrong with a configuration, with one record, and with a run. Mismatches inside a record
are no failures: they give default values.
-/

namespace Intake

/-- What is wrong with an input that cannot be read. -/
inductive InputProblem where
  /-- There is no such file. -/
  | missing
  /-- The bytes are not UTF-8. -/
  | notText
  deriving DecidableEq, Repr

/-- The description of an input problem. -/
def InputProblem.message : InputProblem → String
  | missing => "No such file or directory (os error 2)"
  | notText => "stream did not contain valid UTF-8"

/-- A cause of failure. -/
inductive Failure where
  /-- The configuration as a whole does not hold together. -/
  | configuration (message : String)
  /-- One setting has a value it must not have. -/
  | setting (field message : String)
  /-- The configuration is not a document of the right shape. -/
  | document
  /-- A field pattern cannot be used. -/
  | pattern (text : String)
  /-- A text names no zone. -/
  | zone (text : String)
  /-- The configuration has no table of this name. -/
  | unknownTable (table : String)
  /-- A record is not JSON. -/
  | malformed (fault : Json.Fault)
  /-- A record is JSON, but no object. -/
  | notObject (found : Json.Kind)
  /-- A batch of work failed. -/
  | batch (message : String)
  /-- An input cannot be read. -/
  | input (problem : InputProblem)
  /-- Anything else, with its description. -/
  | other (message : String)
  deriving DecidableEq, Repr

namespace Failure

/-- The description of a failure. Documents and patterns are described by whoever reads them. -/
def message : Failure → String
  | configuration message => "Configuration error: " ++ message
  | setting field message => "Invalid config value for '" ++ field ++ "': " ++ message
  | document => "Failed to parse YAML"
  | pattern text => "Invalid pattern '" ++ text ++ "'"
  | zone text => "Invalid timezone '" ++ text ++ "', expected UTC, Local or an offset like +08:00"
  | unknownTable table => "Table '" ++ table ++ "' not found in configuration"
  | malformed fault => "Failed to parse record: " ++ fault.message
  | notObject found => "Record is not a JSON object (found " ++ found.name ++ ")"
  | batch message => "Worker task failed: " ++ message
  | input problem => "IO error: " ++ problem.message
  | other message => message

/-- The failure concerns a single record, which is dropped; any other failure ends the run. -/
def isOfRecord : Failure → Bool
  | malformed _ | notObject _ => true
  | _ => false

/-- The failure with a description of what was being done in front. -/
def inContext (failure : Failure) (context : String) : Failure :=
  other (context ++ ": " ++ failure.message)

end Failure

end Intake
