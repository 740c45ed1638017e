import ServerInventory.Host.Shell.Running

/-!
Commands run on a host that has nothing but a few small programs and a shell. That is enough
to see how a command succeeds, fails, is killed, takes too long or cannot be started at all.
-/

namespace ServerInventory.Host

/-- Whether a text cannot be handed to the system. -/
def holdsNul (text : String) : Bool :=
  text.toList.contains '\x00'

/-- All texts that a command hands to the system. -/
def textsOf (command : Command) : List String :=
  command.program :: command.args ++
    command.environment.entries.flatMap fun entry => [entry.1, entry.2]

/-- Whether a text is longer than the system takes. -/
def isTooLong (text : String) : Bool :=
  0x20000 ≤ text.utf8ByteSize

/-- The variables that a shell finds in its environment. What stands behind the first equals
sign is the value, and only what can be a name is one. -/
def inherited (environment : StringMap String) : StringMap String :=
  .ofList (environment.entries.filterMap fun entry =>
    let text := entry.1 ++ "=" ++ entry.2
    let name := Text.before '=' text
    if isName name.toList && name != "IFS" then
      some (name, String.ofList (text.toList.drop (name.length + 1)))
    else none)

/-- An environment with a path list in it. -/
def withPath (environment : StringMap String) : StringMap String :=
  if (environment.get? "PATH").isSome then environment
  else environment.insert "PATH" Shell.usualPath

/-- How many steps a shell may take one inside the other; one that takes more goes on
forever. -/
def patience : Nat := 20000

/-- What a program does when it is started by a command. -/
def perform (command : Command) (program : String) : Process :=
  let bindings := inherited (withPath command.environment)
  let shell : Shell :=
    { bindings, exported := bindings.keys, arguments := [command.program]
      input := { bytes := command.stdin.getD [] } }
  let act :=
    if program = "sh" then Shell.shellProgram patience command.args
    else Shell.smallProgram program command.args
  (act.run shell).2.outcome

/-- Starts a program. -/
def launch (command : Command) : Launch :=
  let paths := ((withPath command.environment).get? "PATH").getD ""
  if (textsOf command).any holdsNul then .refused
  else match Shell.findProgram usualTree paths command.program with
    | .program program =>
      if (textsOf command).any isTooLong then .refused
      else .started (perform command program)
    | .fault .missing => .missing
    | _ => .refused

/-- A host on which nothing else is installed. -/
def bare (limits : Limits) : Executor :=
  executor limits launch

end ServerInventory.Host
