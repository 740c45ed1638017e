import ServerInventory.Host.Script.Reading
import ServerInventory.Host.Shell.Builtins

/-!
The commands by which a script changes or asks the shell that runs it: its variables,
options, arguments and traps, the directory it is in, what it reads, and the commands that
run beside it.
-/

namespace ServerInventory.Host.Shell

/-! ## Texts that scripts read again -/

/-- A text between single quotes; a quote in it stands between double ones. -/
def singleQuoted (text : String) : String :=
  "'" ++ String.join (text.toList.map fun c =>
    if c = '\'' then "'\"'\"'" else String.ofList [c]) ++ "'"

/-- Writes what a builtin command has to say, unless its output is closed. -/
def speak (name : String) (bytes : Bytes) : Act Unit := do
  if ((← get).sinks.lookup 1).isNone then
    complain (name ++ ": " ++ name ++ ": I/O error") 1
  else
    write 1 bytes
    leave 0

/-! ## Commands beside the shell -/

/-- Whether a signal ends a command beside the shell that it reaches at some moment. -/
def isEndedBy (job : Job) (signal moment : Nat) : Bool :=
  moment < job.finish && (signal == 9 || !job.ignored.contains signal)

/-- Ends a command that runs beside the shell, with all that it would have done after that. -/
def endJob (process signal : Nat) : Act Unit :=
  modify fun shell =>
    match shell.jobs.find? fun job => job.process == process with
    | none => shell
    | some job =>
      if !isEndedBy job signal shell.clock then shell
      else
        let ended : Job :=
          { job with
            finish := shell.clock
            status := 128 + signal
            signal := some signal
            holds := job.holds.map fun hold => (hold.1, min hold.2 shell.clock) }
        { shell with
          jobs := shell.jobs.map fun other => if other.process == process then ended else other
          emissions := shell.emissions.filter fun emission =>
            emission.process != process || emission.moment ≤ shell.clock }

/-- Marks the commands beside the shell that have come to their end by now. -/
def reap : Act Unit :=
  modify fun shell =>
    { shell with
      jobs := shell.jobs.map fun job =>
        { job with isGone := job.isGone || job.finish ≤ shell.clock } }

/-- Reports the end of a process by a signal. -/
def report (signal : Nat) : Act Unit := do
  if !Signal.isQuiet signal then write 2 (Bytes.ofText (Signal.words signal ++ "\n"))

/-- Waits for commands beside the shell: for one after the other of some, or for all that it
has started. -/
def wait (arguments : List String) : Act Unit := do
  let shell ← get
  leave 0
  if arguments.isEmpty then
    waitUntil (((shell.jobs.filter fun job => job.parent == shell.worker).map
      (·.finish)).foldl max 0)
  arguments.forM fun name => do
    match Chars.natural? name.toList with
    | none =>
      complain ("wait: " ++ (if Text.beginsWith name "%" then "No such job: "
        else "Illegal number: ") ++ name) 2
    | some process =>
      match shell.jobs.find? fun job => job.process == process with
      | none => leave 127
      | some job =>
        waitUntil job.finish
        leave job.status
        if let some signal := job.signal then
          if !job.isGone then report signal
  reap

/-! ## Variables -/

/-- Complains about a name that no variable can have, for a command that ends the shell
then. -/
def mustBeName (command name : String) : Act Bool := do
  if isName name.toList then return true
  abandon (command ++ ": " ++ name ++ ": bad variable name") 2
  return false

/-- Gives variables the values that stand behind equals signs, and does something with each
of the names. -/
def declare (command : String) (act : String → Act Unit) : List String → Act Unit
  | [] => leave 0
  | argument :: rest => do
    let name := Text.before '=' argument
    if ← mustBeName command name then
      if argument.toList.contains '=' && (← get).constants.contains name then
        abandon (command ++ ": " ++ name ++ ": is read only") 2
      else
        act name
        if argument.toList.contains '=' then
          assign name (String.ofList (argument.toList.drop (name.length + 1)))
        declare command act rest

/-- Shows some variables as commands that give them their values. -/
def declared (shell : Shell) (command : String) (names : List String) : String :=
  String.join ((shell.bindings.entries.filter fun entry => names.contains entry.1).map
    fun entry => command ++ " " ++ entry.1 ++ "=" ++ singleQuoted entry.2 ++ "\n")

/-- Makes variables visible to programs. -/
def exportAll (arguments : List String) : Act Unit := do
  let shell ← get
  if arguments.isEmpty || arguments == ["-p"] then
    speak "export" (Bytes.ofText (declared shell "export" shell.exported))
  else
    declare "export" (fun name =>
      modify fun shell => { shell with exported := name :: shell.exported }) arguments

/-- Makes variables keep their values. -/
def keepAll (arguments : List String) : Act Unit := do
  let shell ← get
  if arguments.isEmpty || arguments == ["-p"] then
    speak "readonly" (Bytes.ofText (declared shell "readonly" shell.constants))
  else
    declare "readonly" (fun _ => return ()) arguments
    if (← get).departure.isNone then
      modify fun shell =>
        { shell with constants := arguments.map (Text.before '=') ++ shell.constants }

/-- Makes variables belong to the function that is at work. -/
def ownAll (arguments : List String) : Act Unit := do
  match (← get).scopes with
  | [] => abandon "local: not in a function" 2
  | _ :: _ =>
    declare "local" (fun name => do
      modify fun shell =>
        { shell with
          scopes :=
            match shell.scopes with
            | [] => []
            | scope :: scopes => ((name, shell.bindings.get? name) :: scope) :: scopes })
      arguments

/-- Takes the values, or the functions, of names away. -/
def unsetAll (arguments : List String) : Act Unit := do
  match arguments with
  | "-f" :: names =>
    modify fun shell =>
      { shell with functions := shell.functions.filter fun entry => !names.contains entry.1 }
    leave 0
  | arguments =>
    leave 0
    let names := if arguments.head? == some "-v" then arguments.tail else arguments
    names.forM fun name => do
      if (← get).departure.isNone then
        if ← mustBeName "unset" name then
          if (← get).constants.contains name then
            abandon ("unset: " ++ name ++ ": is read only") 2
          else restore name none

/-! ## Reading -/

/-- A line and what is behind it. Unless the line is `raw`, a backslash keeps the character
behind it from meaning anything, and joins two lines at the end of one. Says whether the
line is ended. -/
def cutLine (raw : Bool) : Chars → List (Char × Bool) × Chars × Bool
  | [] => ([], [], false)
  | '\n' :: rest => ([], rest, true)
  | '\\' :: c :: rest =>
    if raw then
      let (line, behind, ended) := cutLine raw (c :: rest)
      (('\\', false) :: line, behind, ended)
    else
      let (line, behind, ended) := cutLine raw rest
      (if c == '\n' then line else (c, true) :: line, behind, ended)
  | c :: rest =>
    let (line, behind, ended) := cutLine raw rest
    ((c, false) :: line, behind, ended)

/-- A character for each name that a line is split at. -/
def isSeparator (separators : Chars) (blank : Bool) (cell : Char × Bool) : Bool :=
  !cell.2 && List.elem cell.1 separators &&
    (!blank || cell.1 == ' ' || cell.1 == '\t' || cell.1 == '\n')

/-- Splits a line at separators, with a value for each name; the last one takes all that is
left. -/
def spread (separators : Chars) : List String → List (Char × Bool) → List (String × String)
  | [], _ => []
  | [name], line =>
    let body := (line.reverse.dropWhile (isSeparator separators true)).reverse
    [(name, String.ofList (body.map Prod.fst))]
  | name :: names, line =>
    let word := line.takeWhile (!isSeparator separators false ·)
    let rest := (line.drop word.length).dropWhile (isSeparator separators true)
    let rest :=
      match rest with
      | cell :: behind =>
        if isSeparator separators false cell then
          behind.dropWhile (isSeparator separators true)
        else rest
      | [] => []
    (name, String.ofList (word.map Prod.fst)) :: spread separators names rest

/-- The characters between fields. -/
def separators (shell : Shell) : Chars :=
  ((shell.bindings.get? "IFS").getD " \t\n").toList

/-- Reads one line into variables. -/
def readLine (arguments : List String) : Act Unit := do
  let options := arguments.takeWhile fun argument => Text.beginsWith argument "-"
  let names := arguments.drop options.length
  match names.find? fun name => !isName name.toList with
  | some name => complain ("read: " ++ name ++ ": bad variable name") 2
  | none =>
    if names.isEmpty then complain "read: arg count" 2
    else
      let shell ← get
      waitUntil shell.input.complete
      let (line, behind, ended) :=
        cutLine (options.contains "-r") (Bytes.toText shell.input.bytes).toList
      let text := line.dropWhile (isSeparator (separators shell) true)
      modify fun shell =>
        { shell with
          input := { shell.input with bytes := Bytes.ofText (String.ofList behind) } }
      match names.find? shell.constants.contains with
      | some name => complain ("read: " ++ name ++ ": is read only") 2
      | none =>
        assignAll (spread (separators shell) names text)
        leave (if ended then 0 else 1)

/-! ## Options -/

/-- The options that have a name besides their letter. -/
def optionNames : List (String × Char) :=
  [("errexit", 'e'), ("noglob", 'f'), ("ignoreeof", 'I'), ("interactive", 'i'),
    ("monitor", 'm'), ("noexec", 'n'), ("stdin", 's'), ("xtrace", 'x'), ("verbose", 'v'),
    ("vi", 'V'), ("emacs", 'E'), ("noclobber", 'C'), ("allexport", 'a'), ("notify", 'b'),
    ("nounset", 'u')]

/-- Sets an option or takes it back. -/
def setOption (isSet : Bool) (letter : Char) : Act Unit :=
  modify fun shell =>
    let others := shell.options.filter (· != letter)
    { shell with options := if isSet then letter :: others else others }

/-- Sets the options that arguments begin with. `starts` says that they are those of the
shell itself, which may have a script among them. Gives the arguments behind them, and
whether two hyphens or one end them. -/
def takeOptions (front : String) (starts : Bool) : List String →
    Act (List String × Bool)
  | [] => return ([], false)
  | argument :: rest => do
    match argument.toList with
    | ['-'] => return (rest, true)
    | ['-', '-'] => return (rest, true)
    | sign :: letters =>
      if sign != '-' && sign != '+' then return (argument :: rest, false)
      let problem := letters.find? fun letter =>
        letter != 'o' && !(starts && (letter == 'c' || letter == 'l')) &&
          (optionNames.find? fun option => option.2 == letter).isNone
      if let some letter := problem then
        abandon (front ++ "Illegal option " ++ String.ofList ['-', letter]) 2
        return ([], false)
      letters.forM fun letter =>
        if letter == 'o' then return () else setOption (sign == '-') letter
      if letters.contains 'o' then
        match rest with
        | [] => return ([], false)
        | name :: rest =>
          match optionNames.lookup name with
          | some letter => setOption (sign == '-') letter
          | none => abandon (front ++ "Illegal option -o " ++ name) 2
          takeOptions front starts rest
      else takeOptions front starts rest
    | [] => return (argument :: rest, false)

/-- Sets options, then arguments if there are any. -/
def setOptions (arguments : List String) : Act Unit := do
  let (operands, ended) ← takeOptions "set: " false arguments
  if (← get).departure.isNone then
    if !operands.isEmpty || (ended && arguments.contains "--") then
      modify fun shell => { shell with arguments := shell.arguments.take 1 ++ operands }
    leave 0

/-! ## Traps -/

/-- Sets commands for signals, or takes them back where there is only a hyphen or no command
at all. -/
def setTraps (command : Option String) : List String → Act Unit
  | [] => leave 0
  | signal :: rest => do
    match Signal.ofText? signal with
    | none =>
      write 2 (Bytes.ofText ("trap: " ++ signal ++ ": bad trap\n"))
      leave 1
    | some signal =>
      modify fun shell =>
        { shell with
          traps := ((command.filter (· != "-")).toList.map fun command => (signal, command)) ++
            shell.traps.filter (·.1 != signal) }
      setTraps command rest

/-- The traps in the order of their signals, as commands that set them. -/
def trapsShown (traps : List (Nat × String)) : String :=
  String.join ((List.range (Signal.last + 1)).map fun signal =>
    ((traps.lookup signal).map fun command =>
      "trap -- " ++ singleQuoted command ++ " " ++ Signal.name signal ++ "\n").getD "")

def trap (arguments : List String) : Act Unit := do
  let arguments := if arguments.head? == some "--" then arguments.tail else arguments
  match arguments with
  | [] => speak "trap" (Bytes.ofText (trapsShown (← get).traps))
  | [signal] => setTraps none [signal]
  | command :: signals =>
    if (Signal.ofText? command).isSome then setTraps none (command :: signals)
    else setTraps (some command) signals

/-! ## Directories -/

/-- Where a path leads by its names alone. -/
def named (directory : Place) (path : String) : Place :=
  ((Chars.split '/' path.toList).map String.ofList).foldl
    (fun place name =>
      if name = "" || name = "." then place
      else if name = ".." then place.dropLast
      else place ++ [name])
    (if Text.beginsWith path "/" then [] else directory)

def pathOf (place : Place) : String :=
  "/" ++ String.intercalate "/" place

/-- Goes to another directory. -/
def changeDirectory (arguments : List String) : Act Unit := do
  let shell ← get
  let arguments := arguments.filter fun argument => !(["-L", "-P", "--"].contains argument)
  let target := (arguments.head?.or (shell.bindings.get? "HOME")).getD ""
  let back := target == "-"
  let target :=
    if back then (shell.bindings.get? "OLDPWD").getD (pathOf shell.directory) else target
  let directory := named shell.directory target
  if target.isEmpty then leave 0
  else match shell.tree.place? target with
    | .ok place =>
      if shell.tree.entry? place == some .directory then
        assign "OLDPWD" (pathOf shell.directory)
        assign "PWD" (pathOf directory)
        modify fun shell =>
          { shell with tree := { shell.tree with current := place }, directory }
        if back then speak "cd" (Bytes.ofText (pathOf directory ++ "\n")) else leave 0
      else complain ("cd: can't cd to " ++ target) 2
    | .error _ => complain ("cd: can't cd to " ++ target) 2

/-! ## Commands by name -/

/-- The commands of which a wrong use ends the shell, and before which assignments stay. -/
def isSpecial (name : String) : Bool :=
  [":", ".", "break", "continue", "eval", "exec", "exit", "export", "readonly", "return", "set",
    "shift", "times", "trap", "unset"].contains name

/-- The other commands of the shell. -/
def isBuiltin (name : String) : Bool :=
  ["[", "alias", "bg", "cd", "chdir", "command", "echo", "false", "fg", "getopts", "hash",
    "jobs", "kill", "local", "printf", "pwd", "read", "test", "true", "type", "ulimit", "umask",
    "unalias", "wait"].contains name

/-- The file of a program, as a path. -/
def whereIs (shell : Shell) (name : String) : Option String :=
  if name.toList.contains '/' then
    match foundAt shell.tree name with
    | .program _ => some name
    | _ => none
  else
    let directories := Chars.split ':' ((shell.bindings.get? "PATH").getD "").toList
    (directories.map fun directory => String.ofList directory ++ "/" ++ name).find? fun path =>
      match foundAt shell.tree path with
      | .program _ => true
      | _ => false

/-- What a name is as a command: how it is called, and in words. -/
def whatIs (shell : Shell) (name : String) : Option (String × String) :=
  if Reading.reserved.contains name then some (name, "a shell keyword")
  else if (shell.functions.lookup name).isSome then some (name, "a shell function")
  else if isSpecial name then some (name, "a special shell builtin")
  else if isBuiltin name then some (name, "a shell builtin")
  else (whereIs shell name).map fun path => (path, path)

/-- Says what names are as commands, in one word or in a sentence. -/
def describe (briefly : Bool) (names : List String) : Act Unit := do
  let shell ← get
  let lines := names.map fun name =>
    match whatIs shell name with
    | some (path, words) => if briefly then path ++ "\n" else name ++ " is " ++ words ++ "\n"
    | none => if briefly then "" else name ++ ": not found\n"
  speak "type" (Bytes.ofText (String.join lines))
  if names.any fun name => (whatIs shell name).isNone then leave 127

/-- Ends loops, or goes on with their next turn. -/
def leaveLoops (name : String) (goesOn : Bool) (arguments : List String) : Act Unit := do
  let shell ← get
  let wanted := arguments.headD "1"
  let count := ((Chars.natural? wanted.toList).filter (· != 0)).map (min shell.loops)
  leave 0
  match count with
  | none => abandon (name ++ ": Illegal number: " ++ wanted) 2
  | some 0 => return ()
  | some count => depart (.loops count goesOn)

/-- A number that an argument writes, or a complaint that ends the shell. -/
def withNumber (name : String) (argument : String) (act : Nat → Act Unit) : Act Unit := do
  match Chars.natural? argument.toList with
  | some number => act number
  | none => abandon (name ++ ": Illegal number: " ++ argument) 2

/-- Commands of the shell that need no other command. Says whether it is one of them. -/
def builtin (name : String) (arguments : List String) : Act Bool := do
  match name with
  | ":" => leave 0
  | "true" => leave 0
  | "false" => leave 1
  | "echo" => speak "echo" (echoed arguments)
  | "printf" =>
    let arguments := if arguments.head? == some "--" then arguments.drop 1 else arguments
    match arguments with
    | [] => complain "printf: usage: printf format [arg ...]" 2
    | format :: rest =>
      let printing := printed format rest
      printing.problems.forM fun problem => complain ("printf: " ++ problem) 1
      speak "printf" printing.bytes
      if !printing.problems.isEmpty then leave (if printing.isWrong then 2 else 1)
  | "test" => test "test" arguments
  | "[" =>
    if arguments.getLast? == some "]" then test "[" arguments.dropLast
    else complain "[: missing ]" 2
  | "exit" =>
    match arguments with
    | [] => depart .exit
    | code :: _ =>
      withNumber "exit" code fun code => do
        leave (code % 256)
        depart .exit
  | "return" =>
    match arguments with
    | [] => depart .return
    | code :: _ =>
      withNumber "return" code fun code => do
        leave code
        depart .return
  | "break" => leaveLoops "break" false arguments
  | "continue" => leaveLoops "continue" true arguments
  | "read" => readLine arguments
  | "wait" => wait arguments
  | "set" => setOptions arguments
  | "export" => exportAll arguments
  | "readonly" => keepAll arguments
  | "local" => ownAll arguments
  | "unset" => unsetAll arguments
  | "shift" =>
    withNumber "shift" (arguments.headD "1") fun count => do
      let shell ← get
      if shell.arguments.length ≤ count then abandon "shift: can't shift that many" 2
      else
        set { shell with
          arguments := shell.arguments.take 1 ++ shell.arguments.drop (count + 1) }
        leave 0
  | "trap" => trap arguments
  | "type" => describe false arguments
  | "cd" => changeDirectory arguments
  | "chdir" => changeDirectory arguments
  | "pwd" =>
    let shell ← get
    let place := if arguments.contains "-P" then shell.tree.current else shell.directory
    speak "pwd" (Bytes.ofText (pathOf place ++ "\n"))
  | "umask" => speak "umask" (if arguments.isEmpty then Bytes.ofText "0022\n" else [])
  | "ulimit" => leave 0
  | "hash" => leave 0
  | "jobs" => leave 0
  | "alias" => leave 0
  | "times" => leave 0
  | _ => return false
  return true
where
  test (name : String) (words : List String) : Act Unit := do
    match tested (← get).tree words with
    | .ok holds => leave (if holds then 0 else 1)
    | .error problem => complain (name ++ ": " ++ problem) 2

/-- Does the work of a small program. -/
def doWork (work : Work) : Act Unit := do
  if work.reads then
    waitUntil (← get).input.complete
    modify fun shell => { shell with input := { shell.input with bytes := [] } }
  work.output.forM fun piece => write piece.1 piece.2
  waitUntil ((← get).clock + work.milliseconds)
  match work.isEndless, (← get).sinks.lookup 1 with
  | true, some (.pipe _) => pure ()
  | true, _ => waitUntil never
  | false, _ => pure ()
  leave work.status

/-- Runs a small program by its own name. -/
def smallProgram (name : String) (arguments : List String) : Act Unit := do
  let shell ← get
  match name with
  | "cat" => doWork (cat shell.tree shell.input arguments)
  | "sleep" => doWork (sleep arguments)
  | "true" => leave 0
  | "false" => leave 1
  | "echo" => doWork { output := [(1, echoedPlainly arguments)] }
  | name =>
    let _ ← builtin name arguments

end ServerInventory.Host.Shell
