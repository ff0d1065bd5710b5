import Intake.Cli.Arguments
import Intake.Cli.Run

/-!
# The program

Reads what an invocation needs, runs it, and prints what it gives.
-/

namespace Intake

namespace Cli

/-- All bytes of a stream. -/
partial def readAll (stream : IO.FS.Stream) (read : ByteArray) : IO ByteArray := do
  let chunk ← stream.read 65536
  if chunk.isEmpty then return read else readAll stream (read ++ chunk)

/-- The contents of the files among some paths that can be read. -/
def readFiles (paths : List String) : IO (List (String × List UInt8)) :=
  paths.filterMapM fun (path : String) => do
    match ← (IO.FS.readBinFile path).toBaseIO with
    | .ok bytes => return some (path, bytes.toList)
    | .error _ => return none

/-- The files that an invocation reads. -/
def Invocation.paths (invocation : Invocation) : List String :=
  invocation.config.toList ++ invocation.command.inputFile?.toList

/-- The invocation reads the standard input. -/
def Invocation.readsStandardInput (invocation : Invocation) : Bool :=
  match invocation.command with
  | .datetime _ | .layouts => false
  | command => command.inputFile?.isNone

/-- The hint printed when arguments cannot be used. -/
def usageHint : String :=
  "usage: intake [-C FILE] [-f json|pretty] [-v] discover|extract|detect|datetime|layouts ..."

/-- Run an invocation and say whether it ended well. -/
def perform (invocation : Invocation) : IO UInt32 := do
  let files ← readFiles invocation.paths
  let standard ←
    if invocation.readsStandardInput then readAll (← IO.getStdin) .empty else pure .empty
  let run := invocation.run { file := fun path => files.lookup path, standard := standard.toList }
  for message in run.messages do
    IO.println (message.text invocation.format)
  match run.ending with
  | .done => return 0
  | .failed cause =>
    IO.eprintln ("Error: " ++ cause.message)
    return 1
  | .refused misuse =>
    IO.eprintln misuse.message
    return 101

end Cli

end Intake

/-- The program: reads its arguments and runs the command they ask for. -/
def main (arguments : List String) : IO UInt32 := do
  match Intake.Cli.Invocation.ofArguments arguments with
  | .ok invocation => Intake.Cli.perform invocation
  | .error _ =>
    IO.eprintln Intake.Cli.usageHint
    return 2
