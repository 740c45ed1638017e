import ServerInventory.CommandLine.Run
import ServerInventory.Host.Launch
import Std.Time

/-!
The program at the command line. It looks up the variables of its options, reads the files
that it is given, and writes down what comes of it.
-/

namespace ServerInventory.CommandLine

/-- The variables of the options as they are set. -/
def readEnvironment : List (String × String) → IO (StringMap String)
  | [] => return ∅
  | (_, name) :: rest => do
    let environment ← readEnvironment rest
    match ← IO.getEnv name with
    | none => return environment
    | some value => return environment.insert name value

/-- The texts of those of some files that can be read. -/
def readFiles : List String → IO (StringMap String)
  | [] => return ∅
  | path :: rest => do
    let texts ← readFiles rest
    try return texts.insert path (← IO.FS.readFile path)
    catch _ => return texts

/-- The files that an invocation names. -/
def namedFiles (invocation : Invocation) : List String :=
  invocation.config.toList ++
    match invocation.order with
    | .inventory device => device.toList
    | .resolve _ _ => []

/-- The time of day everywhere, as it is written in a report. -/
def timeStamp : IO String := do
  let now := Std.Time.DateTime.ofTimestamp (← Std.Time.Timestamp.now) .UTC
  return now.toISO8601String

end ServerInventory.CommandLine

open ServerInventory in
/-- Runs the program and ends with its exit code. -/
def main (arguments : List String) : IO UInt32 := do
  let environment ← CommandLine.readEnvironment CommandLine.variableNames
  let named :=
    match CommandLine.invocation? environment arguments with
    | none => []
    | some invocation => CommandLine.namedFiles invocation
  let texts ← CommandLine.readFiles named
  let outcome :=
    CommandLine.run environment texts.get?
      (fun config => Host.bare { timeout := config.commandTimeoutSecs.toNat * 1000 }) arguments
  IO.print (outcome.output (← CommandLine.timeStamp))
  if let .failure error := outcome then
    IO.eprintln ("Error: " ++ error.message?.getD "a file cannot be read")
  return UInt32.ofNat outcome.exitCode
