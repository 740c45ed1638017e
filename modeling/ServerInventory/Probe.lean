import ServerInventory.Command

/-!
Probes: what a collector does when it is called. A probe runs commands, may cancel the pass
it takes part in, and ends with data, with an error that it reports, or with a fault, which
is a mistake of the collector itself. `Probe.perform` carries a probe out.
-/

namespace ServerInventory

/-- Steps towards a value. -/
inductive Probe (α : Type) where
  | finish (result : Except Error α)
  /-- The collector breaks down. -/
  | fault (reason : String)
  /-- The pass is cancelled, and the probe goes on. -/
  | cancel (next : Probe α)
  | run (command : Command) (next : Except Error Output → Probe α)

namespace Probe

variable {α β : Type}

/-- A probe that goes on with what another one found. -/
def bind : Probe α → (α → Probe β) → Probe β
  | finish (.ok value), next => next value
  | finish (.error error), _ => finish (.error error)
  | fault reason, _ => fault reason
  | cancel rest, next => cancel (rest.bind next)
  | run command rest, next => run command fun output => (rest output).bind next

instance : Monad Probe where
  pure value := finish (.ok value)
  bind := bind

/-- The result of a computation without any steps. -/
def ofExcept (result : Except Error α) : Probe α :=
  finish result

/-- Runs one command, whose failure ends the probe. -/
def exec (command : Command) : Probe Output :=
  run command finish

/-- Runs one command and takes its standard output as text. -/
def read (command : Command) : Probe String := do
  return (← exec command).text

end Probe

/-! ## Carrying probes out -/

/-- What a probe ends with. -/
inductive Answer (α : Type) where
  | data (value : α)
  | failure (error : Error)
  | fault (reason : String)
deriving Repr

/-- What has happened on the host during a pass. -/
structure Run where
  /-- Whether the pass was cancelled. -/
  cancelled : Bool := false
  /-- The commands that were run, the earliest first. -/
  commands : List Command := []
deriving DecidableEq, Repr

namespace Run

/-- One command on the host; a cancelled pass runs none. -/
def exec (run : Run) (executor : Executor) (command : Command) :
    Except Error Output × Run :=
  if run.cancelled then (.error .cancelled, run)
  else (executor command, { run with commands := run.commands ++ [command] })

end Run

/-- What a probe ends with, and what it did on the host. -/
def Probe.perform {α : Type} (executor : Executor) : Probe α → Run → Answer α × Run
  | .finish (.ok value), host => (.data value, host)
  | .finish (.error error), host => (.failure error, host)
  | .fault reason, host => (.fault reason, host)
  | .cancel rest, host => rest.perform executor { host with cancelled := true }
  | .run command rest, host =>
    let outcome := host.exec executor command
    (rest outcome.1).perform executor outcome.2

end ServerInventory
