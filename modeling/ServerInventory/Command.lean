import ServerInventory.Error
import ServerInventory.StringMap
import ServerInventory.Text.Utf8

/-!
Commands and what comes of them. A command that ends with another exit code than zero has
failed. Canned replies answer commands without running anything: a reply to exactly this
command line is preferred to one for the program, and a program without replies does not
exist.
-/

namespace ServerInventory

/-- A utility called with arguments. -/
structure Command where
  program : String
  args : List String := []
  /-- Variables that the program finds in its environment. -/
  environment : StringMap String := ∅
  /-- What the program finds on its standard input. -/
  stdin : Option Bytes := none
deriving DecidableEq, Repr

/-- What a program that ran to its end left behind. -/
structure Output where
  stdout : Bytes := []
  stderr : Bytes := []
  exitCode : Int := 0
deriving DecidableEq, Repr

namespace Command

/-- A program called with some arguments. -/
def call (program : String) (args : List String) : Command :=
  { program, args }

/-- The program and its arguments with spaces between them. -/
def line (command : Command) : String :=
  String.intercalate " " (command.program :: command.args)

end Command

namespace Output

/-- The standard output as text. -/
def text (output : Output) : String :=
  Bytes.toText output.stdout

/-- The output of a command, or its failure. -/
def check (output : Output) (command : Command) : Except Error Output :=
  if output.exitCode = 0 then .ok output
  else .error (.commandFailed command.line output.exitCode
    (Text.trim (Bytes.toText output.stderr)))

end Output

/-- Runs commands. -/
abbrev Executor := Command → Except Error Output

/-- Replies to commands that are known beforehand. -/
structure Replies where
  /-- Replies to whole command lines. -/
  byLine : StringMap Output := ∅
  /-- Replies to programs, whatever their arguments. -/
  byProgram : StringMap Output := ∅
deriving DecidableEq, Repr

namespace Replies

def onLine (replies : Replies) (line : String) (output : Output) : Replies :=
  { replies with byLine := replies.byLine.insert line output }

def onProgram (replies : Replies) (program : String) (output : Output) : Replies :=
  { replies with byProgram := replies.byProgram.insert program output }

/-- Answers commands with the replies. -/
def executor (replies : Replies) : Executor := fun command =>
  match (replies.byLine.get? command.line).or (replies.byProgram.get? command.program) with
  | some output => output.check command
  | none => .error (.executableNotFound command.program)

end Replies

end ServerInventory
