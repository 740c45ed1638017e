import ServerInventory.Host.Process
import ServerInventory.Host.Programs
import ServerInventory.Host.Script
import ServerInventory.Host.Signal

/-!
What a command shell knows while it works: its variables and arguments, where its
descriptors lead, what has been written so far and when, and which commands run beside it.
Times are milliseconds since the first shell began.
-/

namespace ServerInventory.Host

/-- Where a descriptor leads. -/
inductive Sink where
  | out
  | err
  /-- A pipe, by how many were around it when it was made. -/
  | pipe (depth : Nat)
  | file (place : Place)
  | nowhere
deriving DecidableEq, Repr

/-- One thing that was written. -/
structure Emission where
  moment : Nat
  sink : Sink
  bytes : Bytes
  /-- The number of the process that wrote it. -/
  process : Nat
deriving Repr

/-- A command that runs beside a shell. -/
structure Job where
  process : Nat
  /-- The process that started it. -/
  parent : Nat
  finish : Nat
  status : Nat
  /-- The signal that has ended it, and those that do nothing to it. -/
  signal : Option Nat := none
  ignored : List Nat := []
  /-- Whether its end has been looked at. -/
  isGone : Bool := false
  /-- Until when it can write to each place. -/
  holds : List (Sink × Nat)
deriving Repr

/-- Why a shell does not go on with its script. -/
inductive Departure where
  | exit
  | killed (signal : Nat)
  /-- Some loops end, or go on with their next turn. -/
  | loops (count : Nat) (goesOn : Bool)
  /-- A function ends. -/
  | return
deriving DecidableEq, Repr

structure Shell where
  tree : FileTree := usualTree
  /-- The names that lead to the current directory, with those of links among them. -/
  directory : Place := usualTree.current
  bindings : StringMap String := ∅
  /-- The variables that programs find in their environment. -/
  exported : List String := []
  /-- The variables that keep their values. -/
  constants : List String := []
  /-- For each function that is at work, what its own variables were before it. -/
  scopes : List (List (String × Option String)) := []
  /-- The name of the shell, and its arguments. -/
  arguments : List String := ["sh"]
  functions : List (String × Script) := []
  /-- Commands for signals and, under zero, for the end. -/
  traps : List (Nat × String) := []
  input : Input := {}
  sinks : List (Nat × Sink) := [(1, .out), (2, .err)]
  /-- What was written, the latest first. -/
  emissions : List Emission := []
  /-- The commands that run beside shells, the latest first. -/
  jobs : List Job := []
  /-- The number of the process of the shell, and of the part of it that is at work. -/
  process : Nat := 1000
  worker : Nat := 1000
  /-- The number of the next process. -/
  nextProcess : Nat := 1001
  /-- The number of the last command that was started to run beside the shell. -/
  lastBeside : Option Nat := none
  /-- How many pipes are around. -/
  depth : Nat := 0
  clock : Nat := 0
  /-- The exit code of the last command. -/
  status : Nat := 0
  /-- The exit code of the last commands whose output is part of the command at hand. -/
  substituted : Nat := 0
  line : Nat := 1
  departure : Option Departure := none
  /-- A signal that reaches the shell while a part of it is at work, and when it does. -/
  doom : Option (Nat × Nat) := none
  /-- The letters of the options that are set: with `e` a failure ends the shell, with `u`
  variables without a value are errors, with `x` commands are shown before they run, and
  with `n` they do not run. -/
  options : List Char := []
  /-- Whether a failure is looked at right now. -/
  isTesting : Bool := false
  /-- How many loops are around. -/
  loops : Nat := 0
  /-- Where the descriptors of a last command led, and from when on it ran in place of the
  shell. -/
  finale : Option (List Sink × Nat) := none
  /-- Where its descriptors once led, each time until when. -/
  left : List (Sink × Nat) := []

/-- Something that a shell does. -/
abbrev Act (α : Type) := StateM Shell α

namespace Shell

/-! ## Writing -/

def emit (sink : Sink) (bytes : Bytes) : Act Unit :=
  modify fun shell =>
    match sink with
    | .nowhere => shell
    | .file place =>
      let before :=
        match shell.tree.entry? place with
        | some (.file content) => content
        | _ => []
      { shell with tree := shell.tree.insert place (.file (before ++ bytes)) }
    | sink =>
      if bytes.isEmpty then shell
      else
        let emission : Emission :=
          { moment := shell.clock, sink, bytes, process := shell.worker }
        { shell with emissions := emission :: shell.emissions }

/-- Writes to a descriptor, unless it is closed. -/
def write (descriptor : Nat) (bytes : Bytes) : Act Unit := do
  match (← get).sinks.lookup descriptor with
  | some sink => emit sink bytes
  | none => return ()

def leave (status : Nat) : Act Unit :=
  modify fun shell => { shell with status }

/-- A complaint of the shell about its script. -/
def complain (message : String) (status : Nat) : Act Unit := do
  let shell ← get
  let front := shell.arguments.headD "sh" ++ ": " ++ toString shell.line ++ ": "
  write 2 (Bytes.ofText (front ++ message ++ "\n"))
  leave status

def depart (departure : Departure) : Act Unit :=
  modify fun shell => { shell with departure := some departure }

/-- A complaint after which the shell does not go on. -/
def abandon (message : String) (status : Nat) : Act Unit := do
  complain message status
  depart .exit

/-! ## Variables -/

/-- The value of a variable, an argument, or one of the signs for the state of the shell. -/
def value? (shell : Shell) (name : String) : Option String :=
  match name with
  | "$" => some (toString shell.process)
  | "?" => some (toString shell.status)
  | "#" => some (toString (shell.arguments.length - 1))
  | "!" => shell.lastBeside.map toString
  | "-" => some (String.ofList ("ubaCEVvxsnmiIfe".toList.filter shell.options.contains))
  | "@" => some (String.intercalate " " (shell.arguments.drop 1))
  | "*" => some (String.intercalate " " (shell.arguments.drop 1))
  | name =>
    match Chars.natural? name.toList with
    | some position => shell.arguments[position]?
    | none => shell.bindings.get? name

/-- Gives a variable a value, unless it keeps the one that it has. -/
def assign (name value : String) : Act Unit := do
  if (← get).constants.contains name then abandon (name ++ ": is read only") 2
  else modify fun shell => { shell with bindings := shell.bindings.insert name value }

def assignAll (values : List (String × String)) : Act Unit :=
  values.forM fun entry => assign entry.1 entry.2

/-- Gives a variable the value back that it once had, or none. -/
def restore (name : String) (value : Option String) : Act Unit :=
  modify fun shell =>
    { shell with
      bindings :=
        match value with
        | some value => shell.bindings.insert name value
        | none => shell.bindings.erase name }

/-- Variables that programs find, with some more. -/
def environment (shell : Shell) (more : List (String × String)) : StringMap String :=
  .ofList ((shell.bindings.entries.filter fun entry => shell.exported.contains entry.1) ++ more)

/-! ## Programs -/

/-- What comes of the attempt to run the file that a path leads to. -/
inductive Found where
  | program (name : String)
  /-- There is something else. -/
  | refused
  | fault (fault : PathFault)
deriving DecidableEq, Repr

def foundAt (tree : FileTree) (path : String) : Found :=
  match tree.find path with
  | .ok (.program name) => .program name
  | .ok _ => .refused
  | .error fault => .fault fault

/-- Where programs are looked for if nothing else is said. -/
def usualPath : String :=
  "/usr/local/sbin:/usr/local/bin:/usr/sbin:/usr/bin:/sbin:/bin"

/-- Looks for a program in one directory after the other. What is there but may not be run
counts if nothing better is found; otherwise the last fault does. -/
def search (tree : FileTree) (name : String) : List String → Found → Found
  | [], found => found
  | directory :: rest, found =>
    let path := if directory.isEmpty then name else directory ++ "/" ++ name
    match foundAt tree path, found with
    | .program program, _ => .program program
    | .fault .tooLong, _ => .fault .tooLong
    | .fault _, .refused => search tree name rest .refused
    | other, _ => search tree name rest other

/-- The program of a name. A name with a slash in it is a path, all others are looked for
in the directories of a path list. -/
def findProgram (tree : FileTree) (paths : String) (name : String) : Found :=
  if name.isEmpty then .fault .missing
  else if name.toList.contains '/' then foundAt tree name
  else if 255 < name.utf8ByteSize then .fault .tooLong
  else search tree name ((Chars.split ':' paths.toList).map String.ofList) (.fault .missing)

/-! ## Time -/

/-- Waits for a moment, if it is still to come. -/
def waitUntil (moment : Nat) : Act Unit :=
  modify fun shell => { shell with clock := max shell.clock moment }

/-- Until when something can still be written to a place. -/
def heldUntil (shell : Shell) (sink : Sink) : Nat :=
  (shell.jobs.flatMap fun job =>
    (job.holds.filter fun hold => hold.1 == sink).map Prod.snd).foldl max 0

/-- What was written to a place, in the order of time. -/
def written (shell : Shell) (sink : Sink) : Bytes :=
  let emissions := (shell.emissions.reverse.filter fun emission => emission.sink == sink)
  (emissions.mergeSort fun first second => first.moment ≤ second.moment).flatMap (·.bytes)

/-- Forgets what was written to a place. -/
def forget (sink : Sink) (shell : Shell) : Shell :=
  { shell with emissions := shell.emissions.filter fun emission => emission.sink != sink }

/-- What a shell leaves behind as a process. -/
def outcome (shell : Shell) : Process :=
  { stdout := shell.written .out
    stderr := shell.written .err
    ending :=
      match shell.departure with
      | some (.killed _) => .killed
      | _ => .exited (shell.status % 256)
    milliseconds :=
      1 + max shell.clock (max (shell.heldUntil .out) (shell.heldUntil .err)) }

end Shell

end ServerInventory.Host
