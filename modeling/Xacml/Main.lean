import Std.Time.DateTime.Timestamp
import Xacml.CommandLine.Run

/-!
# The program

Reads the inputs that a command names, runs it, and writes its outcome.
-/

namespace Xacml
namespace CommandLine

/-- The files that a command names, and whether it also reads the standard input. -/
def sources : Command → List String × Bool
  | .authorize policies request config _ _ => (policies :: request :: config.toList, false)
  | .check policies config | .format policies config =>
      (policies.toList ++ config.toList, policies.isNone)

def readFile? (file : String) : IO (Option String) := do
  try
    return some (← IO.FS.readFile file)
  catch _ => return none

/-- The text of the standard input, if it can be read. -/
def readStandardInput? : IO (Option String) := do
  try
    return some (← (← IO.getStdin).readToEnd)
  catch _ => return none

def readInputs (command : Command) : IO Inputs := do
  let (files, usesStandard) := sources command
  let texts ← files.mapM fun file => do return (file, ← readFile? file)
  let standard ← if usesStandard then readStandardInput? else pure none
  return ⟨fun file => (texts.lookup file).join, standard⟩

def readClock : IO Clock := do
  let now ← Std.Time.Timestamp.now
  match DateTime.ofUnixTime? now.toNanosecondsSinceUnixEpoch.val with
  | some now => return ⟨now⟩
  | none => throw (IO.userError "the time is out of range")

/-- Writes an outcome and gives the exit code. -/
def writeOutcome (outcome : Outcome) : IO UInt32 := do
  IO.print outcome.output
  for note in outcome.notes do
    IO.eprintln note
  return outcome.code.number.toUInt32

/-- Runs a command, and reports how long it took if this is asked for. -/
def runCommand (command : Command) : IO UInt32 := do
  let inputs ← readInputs command
  let clock ← readClock
  let start ← IO.monoNanosNow
  let outcome ← IO.lazyPure fun _ => command.run clock .main inputs
  let stop ← IO.monoNanosNow
  if let .authorize _ _ _ _ true := command then
    if outcome.code != .failure then
      let elapsed := (stop - start) / 1000
      IO.eprintln s!"Authorization Time (micro seconds) : {elapsed}"
  writeOutcome outcome

end CommandLine
end Xacml

def main (arguments : List String) : IO UInt32 := do
  match Xacml.Command.ofArguments (← IO.getEnv "XACML_CONFIG") arguments with
  | .ok command => Xacml.CommandLine.runCommand command
  | .error stop => Xacml.CommandLine.writeOutcome stop.outcome
