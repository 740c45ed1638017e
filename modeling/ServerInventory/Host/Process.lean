import ServerInventory.Command

/-!
Processes, and how long a command waits for one. A program that is not there is told apart
from one that may not be run. A process that outlasts the time of its command, or the pass
that wants it, is killed, and nothing that it wrote is kept.
-/

namespace ServerInventory.Host

/-- How a process came to its end. -/
inductive Ending where
  | exited (code : Nat)
  /-- A signal has ended the process. -/
  | killed
deriving DecidableEq, Repr

/-- The exit code that is reported; a killed process has none of its own. -/
def Ending.code : Ending → Int
  | .exited code => code
  | .killed => -1

/-- All that a process leaves behind if it is left alone. -/
structure Process where
  stdout : Bytes := []
  stderr : Bytes := []
  ending : Ending := .exited 0
  /-- How long it runs. -/
  milliseconds : Nat := 1
deriving DecidableEq, Repr

/-- The output of a process that came to its end. -/
def Process.toOutput (process : Process) : Output :=
  { stdout := process.stdout, stderr := process.stderr, exitCode := process.ending.code }

/-- What becomes of the attempt to start a program. -/
inductive Launch where
  /-- There is no such program. -/
  | missing
  /-- It is there, but the system refuses to run it. -/
  | refused
  | started (process : Process)
deriving DecidableEq, Repr

/-- How long a process may run. -/
structure Limits where
  /-- The time of a command, in milliseconds. -/
  timeout : Nat := 300000
  /-- When the pass is cancelled, in milliseconds from the start of the process. -/
  cancelledAfter : Option Nat := none
deriving DecidableEq, Repr

/-- Waits for what was started, within the limits. -/
def Launch.await (limits : Limits) (command : Command) : Launch → Except Error Output
  | .missing => .error (.executableNotFound command.program)
  | .refused => .error .io
  | .started process =>
    if limits.cancelledAfter.any fun moment =>
        moment < process.milliseconds && moment ≤ limits.timeout then
      .error .cancelled
    else if limits.timeout < process.milliseconds then
      .error (.commandTimeout command.line (limits.timeout / 1000))
    else process.toOutput.check command

/-- Runs commands as processes. -/
def executor (limits : Limits) (launch : Command → Launch) : Executor := fun command =>
  (launch command).await limits command

end ServerInventory.Host
