import ServerInventory.Host.Script.Arithmetic
import ServerInventory.Host.Shell.Commands
import ServerInventory.Host.Shell.Fields

/-!
Scripts carried out. Nothing runs at the same time here: commands that run beside each other
are carried out one after the other, each from the moment at which it begins, and what they
write is put in the order of time in the end.
-/

namespace ServerInventory.Host.Shell

/-! ## Shells inside shells -/

/-- Does something in a process of its own, of which the shell sees only what it writes,
how long it takes and how it ends. -/
def apart (body : Act Unit) : Act Unit := do
  let outer ← get
  set { outer with worker := outer.nextProcess, nextProcess := outer.nextProcess + 1,
                   traps := outer.traps.filter (·.2.isEmpty), finale := none }
  body
  let inner ← get
  set { outer with
    tree := { inner.tree with current := outer.tree.current }
    emissions := inner.emissions, jobs := inner.jobs
    nextProcess := inner.nextProcess, clock := inner.clock, input := inner.input
    status := inner.status % 256, doom := outer.doom.or inner.doom }
  reap
  if let some (.killed signal) := inner.departure then
    leave (128 + signal)
    report signal

/-- Does something while a descriptor leads into a pipe, and says what went in there and
when the pipe was closed. -/
def throughPipe (body : Act Unit) : Act Input := do
  let outer ← get
  let pipe := Sink.pipe outer.depth
  set { outer with
    sinks := (1, pipe) :: outer.sinks.filter (·.1 != 1), depth := outer.depth + 1 }
  body
  let inner ← get
  set { inner.forget pipe with sinks := outer.sinks, depth := outer.depth }
  return { bytes := inner.written pipe, complete := max inner.clock (inner.heldUntil pipe) }

/-- The places that a shell could write to, each until a moment. -/
def holdsOf (sinks : List Sink) (moment : Nat) : List (Sink × Nat) :=
  sinks.map fun sink => (sink, moment)

/-- Whether the last lexeme of a script has been read. -/
def isAtEnd (source : Source) : Bool :=
  match source.ahead with
  | some .ending => true
  | _ => false

/-- Ends the shell after a failure, if that is what it does. -/
def settle : Act Unit := do
  let shell ← get
  if shell.status != 0 && shell.options.contains 'e' && !shell.isTesting && shell.departure.isNone then
    depart .exit

/-- Whether a loop ends here, because it is told so or because all of the shell does. -/
def leavesLoop : Act Bool := do
  match (← get).departure with
  | none => return false
  | some (.loops count goesOn) =>
    modify fun shell =>
      { shell with
        departure := if count ≤ 1 then none else some (.loops (count - 1) goesOn) }
    if count ≤ 1 then leave 0
    return !(goesOn && count ≤ 1)
  | some _ => return true

/-- The signal that `kill` is told to send, or none if it is told to list them, and the
arguments behind that. -/
def signalOf (arguments : List String) : Except String (Option Nat × List String) :=
  let targets (rest : List String) : List String := if rest.head? == some "--" then rest.tail else rest
  let ofName (name : String) (rest : List String) : Except String (Option Nat × List String) :=
    match Signal.ofText? name with
    | some signal => .ok (some signal, targets rest)
    | none => .error ("invalid signal number or name: " ++ name)
  match arguments with
  | [] => .ok (some 15, [])
  | first :: rest =>
    match first.toList with
    | ['-', '-'] => .ok (some 15, rest)
    | '-' :: letter :: letters =>
      match Signal.ofText? (String.ofList (letter :: letters)), letter, letters, rest with
      | some signal, _, _, rest => .ok (some signal, rest)
      | none, 'l', [], rest => .ok (none, targets rest)
      | none, 's', [], [] => .error "No arg for -s option"
      | none, 's', [], name :: rest => ofName name rest
      | none, 's', letters, rest => ofName (String.ofList letters) rest
      | none, letter, _, _ => .error ("Illegal option -" ++ String.ofList [letter])
    | _ => .ok (some 15, first :: rest)

/-- The cells of a list of arguments, each of which is a field of its own. -/
def listed (shell : Shell) (quoted : Bool) : List String → List Cell
  | [] => if quoted then [.none] else []
  | [last] => Cell.ofValue (separators shell) quoted last
  | first :: rest =>
    Cell.ofValue (separators shell) quoted first ++ .gap ' ' :: listed shell quoted rest

/-- A word with the home directory in place of a tilde at its start. -/
def atHome (shell : Shell) (word : Word) : Word :=
  match word, shell.bindings.get? "HOME" with
  | .text ('~' :: rest) false :: pieces, some home =>
    if rest.head? == some '/' || (rest.isEmpty && pieces.isEmpty) then
      .text home.toList true :: .text rest false :: pieces
    else word
  | word, _ => word

/-- The directory and the name of a path. -/
def splitPath (path : String) : String × String :=
  let name := (path.toList.reverse.takeWhile (· != '/')).reverse
  let front := path.toList.take (path.length - name.length)
  (if front.isEmpty then "." else String.ofList front, String.ofList name)

/-- What a shell does that has taken too many steps: it comes to no end. -/
def giveUp : Act Unit := do
  waitUntil never
  depart .exit

mutual

/-- What a part of a word stands for. -/
def cellsOfPiece : (fuel : Nat) → Piece → Act (List Cell)
  | 0, _ => do
    giveUp
    return []
  | fuel + 1, piece => do
    match piece with
    | .text text quoted =>
      return (if quoted then [.mark] else []) ++ text.map (.char · quoted)
    | .output script quoted =>
      let outer ← get
      let input ← throughPipe (apart (run fuel true script))
      let line := (← get).line
      modify fun shell =>
        { shell with
          line := max line outer.line, status := outer.status, substituted := shell.status }
      waitUntil input.complete
      let bytes := (input.bytes.filter (· != 0)).reverse.dropWhile (· == 10)
      return Cell.ofValue (separators outer) quoted (Bytes.toText bytes.reverse)
    | .number expression quoted =>
      let text ← textOf fuel expression
      match Calculate.value (← get).bindings text.toList with
      | .ok (value, bindings) =>
        modify fun shell => { shell with bindings }
        return Cell.ofValue (separators (← get)) quoted (toString value)
      | .error problem =>
        if Text.beginsWith problem "Illegal" then abandon problem 2
        else abandon ("arithmetic expression: " ++ problem ++ ": \"" ++ text ++ "\"") 2
        return []
    | .parameter name form quoted =>
      let shell ← get
      match form with
      | .value =>
        match name, shell.arguments.drop 1 with
        | "@", arguments => return listed shell quoted arguments
        | "*", arguments =>
          if quoted then return Cell.ofValue [] true (String.intercalate " " arguments)
          else return listed shell false arguments
        | name, _ =>
          match shell.value? name with
          | some value => return Cell.ofValue (separators shell) quoted value
          | none =>
            if shell.options.contains 'u' then abandon (name ++ ": parameter not set") 2
            return if quoted then [.mark] else []
      | .senseless =>
        abandon "Bad substitution" 2
        return []
      | .length =>
        if shell.options.contains 'u' && (shell.value? name).isNone then
          abandon (name ++ ": parameter not set") 2
        let value := (shell.value? name).getD ""
        return Cell.ofValue [] quoted (toString (Bytes.ofText value).length)
      | .instead sign orEmpty word =>
        let value := (shell.value? name).filter fun value => !(orEmpty && value.isEmpty)
        match sign, value with
        | '+', some _ => wordIn fuel quoted word
        | '+', none => return if quoted then [.mark] else []
        | _, some value => return Cell.ofValue (separators shell) quoted value
        | '-', none => wordIn fuel quoted word
        | '=', none =>
          let value ← textOf fuel word
          assign name value
          return Cell.ofValue (separators shell) quoted value
        | _, none =>
          let text ← textOf fuel word
          let reason :=
            if !text.isEmpty then text
            else "parameter not set" ++ (if orEmpty then " or null" else "")
          abandon (name ++ ": " ++ reason) 2
          return []
      | .without atEnd longest word =>
        let value := ((shell.value? name).getD "").toList
        let characters := Cell.characters (← cellsOf fuel word)
        let pattern := Wildcard.ofCharacters (characters.length + 1) characters
        let text :=
          if atEnd then Wildcard.dropBack longest pattern value
          else Wildcard.dropFront longest pattern value
        return Cell.ofValue (separators shell) quoted (String.ofList text)

/-- A word that takes the place of a value. -/
def wordIn : (fuel : Nat) → (quoted : Bool) → Word → Act (List Cell)
  | 0, _, _ => do
    giveUp
    return []
  | fuel + 1, quoted, word => do
    let cells ← cellsOf fuel word
    if quoted then return .mark :: cells
    let separators := separators (← get)
    return cells.flatMap fun
      | .char c false => Cell.ofValue separators false (String.ofList [c])
      | cell => [cell]

/-- What a word stands for. -/
def cellsOf : (fuel : Nat) → Word → Act (List Cell)
  | 0, _ => do
    giveUp
    return []
  | fuel + 1, word => do
    match word with
    | [] => return []
    | piece :: rest =>
      let first ← cellsOfPiece fuel piece
      return first ++ (← cellsOf fuel rest)

/-- The one text that a word stands for. -/
def textOf : (fuel : Nat) → Word → Act String
  | 0, _ => do
    giveUp
    return ""
  | fuel + 1, word => do
    return Cell.text (← cellsOf fuel word)

/-- The text that a word stands for as a value, in which the home directory may come first. -/
def valueOf : (fuel : Nat) → Word → Act String
  | 0, _ => do
    giveUp
    return ""
  | fuel + 1, word => do
    textOf fuel (atHome (← get) word)

/-- The fields that words stand for. -/
def fieldsOf : (fuel : Nat) → List Word → Act (List String)
  | 0, _ => do
    giveUp
    return []
  | fuel + 1, words => do
    match words with
    | [] => return []
    | word :: rest =>
      let first := Cell.fields {} (← cellsOf fuel (atHome (← get) word))
      return first ++ (← fieldsOf fuel rest)

/-- Sets one descriptor. Says what is wrong, if anything is. -/
def redirect : (fuel : Nat) → Redirection → Act (Option String)
  | 0, _ => do
    giveUp
    return none
  | fuel + 1, redirection => do
    let lead (descriptor : Nat) (sink : Option Sink) : Act Unit :=
      modify fun shell =>
        let others := shell.sinks.filter (·.1 != descriptor)
        { shell with sinks := (sink.toList.map fun sink => (descriptor, sink)) ++ others }
    match redirection with
    | .copy descriptor target =>
      let target ← textOf fuel target
      let shell ← get
      if target == "-" then
        if descriptor == 0 then
          modify fun shell => { shell with input := { problem := some closedInput } }
        lead descriptor none
        return none
      else match Chars.natural? target.toList with
        | none => return some "Syntax error: Bad fd number"
        | some 0 => return none
        | some source =>
          if descriptor == 0 then return none
          else match shell.sinks.lookup source with
            | some sink =>
              lead descriptor (some sink)
              return none
            | none => return some (toString source ++ ": Bad file descriptor")
    | .write descriptor appends path =>
      let path ← textOf fuel path
      let shell ← get
      match path with
      | "/dev/null" => lead descriptor (some .nowhere)
      | "/dev/stdout" => lead descriptor (shell.sinks.lookup 1)
      | "/dev/stderr" => lead descriptor (shell.sinks.lookup 2)
      | path =>
        let (front, name) := splitPath path
        if path.isEmpty then return some "cannot create : Directory nonexistent"
        match shell.tree.find path, shell.tree.place? front with
        | .ok .directory, _ => return some ("cannot create " ++ path ++ ": Is a directory")
        | _, .error _ => return some ("cannot create " ++ path ++ ": Directory nonexistent")
        | _, .ok place =>
          let place := place ++ [name]
          if !(appends && (shell.tree.entry? place).isSome) then
            modify fun shell => { shell with tree := shell.tree.insert place (.file []) }
          lead descriptor (some (.file place))
      return none
    | .read _ path =>
      let path ← textOf fuel path
      if path == "/dev/stdin" then return none
      match readFile (← get).tree path with
      | .ok bytes =>
        modify fun shell => { shell with input := { bytes } }
        return none
      | .error "Is a directory" =>
        modify fun shell => { shell with input := { problem := some "Is a directory" } }
        return none
      | .error _ => return some ("cannot open " ++ path ++ ": No such file")
    | .given _ text =>
      let text ← textOf fuel text
      modify fun shell => { shell with input := { bytes := Bytes.ofText text } }
      return none

/-- Sets descriptors one after the other. -/
def redirectAll : (fuel : Nat) → List Redirection → Act (Option String)
  | 0, _ => do
    giveUp
    return none
  | fuel + 1, redirections => do
    match redirections with
    | [] => return none
    | first :: rest =>
      match ← redirect fuel first with
      | some problem => return some problem
      | none => redirectAll fuel rest

/-- Does something with other descriptors, which lead to where they did again after it. -/
def redirected : (fuel : Nat) → List Redirection → (fatal : Bool) → Act Unit → Act Unit
  | 0, _, _, _ => giveUp
  | fuel + 1, redirections, fatal, body => do
    let before ← get
    let problem ← redirectAll fuel redirections
    match problem with
    | some problem =>
      modify fun shell => { shell with sinks := before.sinks }
      if fatal then abandon problem 2 else complain problem 2
    | none => body
    let hasInput := redirections.any fun
      | .read _ _ => true
      | .given _ _ => true
      | .copy 0 _ => true
      | _ => false
    modify fun shell =>
      { shell with
        sinks := before.sinks, input := if hasInput then before.input else shell.input }

/-- Values for variables, each of which is set before the next one is looked at if they
are to stay. -/
def assignments : (fuel : Nat) → (stay : Bool) → List (String × Word) →
    Act (List (String × String))
  | 0, _, _ => do
    giveUp
    return []
  | fuel + 1, stay, entries => do
    match entries with
    | [] => return []
    | (name, word) :: rest =>
      let value ← valueOf fuel word
      if (← get).departure.isNone then
        if stay then assign name value
        else if (← get).constants.contains name then abandon (name ++ ": is read only") 2
      return (name, value) :: (← assignments fuel stay rest)

/-- A simple command. -/
def simple : (fuel : Nat) → (last : Bool) → (line : Nat) → List Word → List Redirection → Act Unit
  | 0, _, _, _, _ => giveUp
  | fuel + 1, last, line, words, redirections => do
    modify fun shell => { shell with line, substituted := 0 }
    let given := words.map assignment?
    let count := (given.takeWhile Option.isSome).length
    let given := (given.take count).filterMap id
    let fields ← fieldsOf fuel (words.drop count)
    if (← get).departure.isSome then return ()
    let values ← assignments fuel (fields.isEmpty || fields == ["exec"]) given
    if (← get).departure.isSome then return ()
    let shell ← get
    if shell.options.contains 'x' && !(values.isEmpty && fields.isEmpty) then
      let shown := values.map (fun entry => entry.1 ++ "=" ++ entry.2) ++ fields
      write 2 (Bytes.ofText ("+ " ++ String.intercalate " " shown ++ "\n"))
    match fields with
    | [] =>
      leave shell.substituted
      redirected fuel redirections false (return ())
    | ["exec"] =>
      match ← redirectAll fuel redirections with
      | some problem => abandon problem 2
      | none =>
        modify fun inner =>
          { inner with left := holdsOf (shell.sinks.map Prod.snd) shell.clock ++ inner.left }
        leave 0
    | name :: arguments =>
      redirected fuel redirections (isSpecial name)
        (invoke fuel last name arguments values)

/-- Runs a command by its name. -/
def invoke : (fuel : Nat) → (last : Bool) → String → List String → List (String × String) →
    Act Unit
  | 0, _, _, _, _ => giveUp
  | fuel + 1, last, name, arguments, values => do
    let before ← get
    if isSpecial name then assignAll values
    match name, arguments with
    | "exec", name :: arguments => program fuel true "exec: " name arguments values
    | "eval", arguments =>
      leave 0
      runText fuel last { rest := (String.intercalate " " arguments).toList, line := before.line }
    | "command", arguments => command fuel last arguments values
    | ".", path :: _ => readIn fuel path
    | "kill", arguments => kill fuel arguments
    | name, arguments =>
      match before.functions.lookup name with
      | some body =>
        values.forM fun entry => assign entry.1 entry.2
        modify fun shell =>
          { shell with
            arguments := before.arguments.take 1 ++ arguments
            scopes := (values.map fun entry => (entry.1, before.bindings.get? entry.1)) ::
              shell.scopes
            loops := 0 }
        run fuel false body
        (((← get).scopes.head?).getD []).forM fun entry => restore entry.1 entry.2
        modify fun shell =>
          { shell with
            arguments := before.arguments
            scopes := shell.scopes.tail
            loops := before.loops
            departure := if shell.departure = some .return then none else shell.departure }
      | none =>
        -- Values in front of a command of the shell hold while it runs.
        if !values.isEmpty && !isSpecial name then assignAll values
        let known ← builtin name arguments
        if !values.isEmpty && !isSpecial name then
          values.forM fun entry => restore entry.1 (before.bindings.get? entry.1)
        if !known then program fuel last "" name arguments values

/-- Runs a command that is no function, or says what it is. -/
def command : (fuel : Nat) → (last : Bool) → List String → List (String × String) → Act Unit
  | 0, _, _, _ => giveUp
  | fuel + 1, last, arguments, values => do
    match arguments with
    | [] => leave 0
    | "-v" :: names => describe true (names.take 1)
    | "-V" :: names => describe false (names.take 1)
    | "-p" :: arguments => command fuel last arguments values
    | "--" :: arguments => command fuel last arguments values
    | name :: arguments =>
      let functions := (← get).functions
      modify fun shell => { shell with functions := functions.filter (·.1 != name) }
      invoke fuel last name arguments values
      modify fun shell => { shell with functions }

/-- Reads a script from a file and runs it as part of this one. A name is looked for where
programs are. -/
def readIn : (fuel : Nat) → String → Act Unit
  | 0, _ => giveUp
  | fuel + 1, name => do
    let shell ← get
    let isPath := name.toList.contains '/'
    let directories := Chars.split ':' ((shell.bindings.get? "PATH").getD "").toList
    let paths :=
      if isPath then [name]
      else directories.map fun directory => String.ofList directory ++ "/" ++ name
    match paths.findSome? fun path => (readFile shell.tree path).toOption with
    | some bytes =>
      leave 0
      runText fuel false { rest := (Bytes.toText bytes).toList }
      modify fun inner =>
        { inner with
          line := shell.line
          departure := if inner.departure = some .return then none else inner.departure }
    | none =>
      if isPath then abandon (".: cannot open " ++ name ++ ": No such file") 2
      else abandon (".: " ++ name ++ ": not found") 2

/-- Runs a program, as the last thing in place of the shell. -/
def program : (fuel : Nat) → (last : Bool) → (front : String) → String → List String →
    List (String × String) → Act Unit
  | 0, _, _, _, _, _ => giveUp
  | fuel + 1, last, front, name, arguments, values => do
    let shell ← get
    let paths := ((values.lookup "PATH").or (shell.bindings.get? "PATH")).getD ""
    let replaces := last && (front != "" || shell.traps.all (·.2.isEmpty))
    if replaces then
      set { shell with finale := shell.finale.or (some (shell.sinks.map Prod.snd, shell.clock)) }
    let found :=
      if paths.isEmpty && !name.toList.contains '/' then .fault .missing
      else findProgram shell.tree paths name
    match found with
    | .program program =>
      if replaces then
        modify fun shell => { shell with traps := shell.traps.filter (·.2.isEmpty) }
      if program == "sh" then nested fuel replaces name arguments values
      else smallProgram program arguments
      reap
    | .refused => complain (front ++ name ++ ": Permission denied") 126
    | .fault _ =>
      complain (front ++ name ++ (if name.isEmpty then ": Permission denied" else ": not found")) 127
    if replaces then
      if (← get).departure.isNone then depart .exit

/-- Runs another shell, as a process of its own unless it takes the place of this one. -/
def nested : (fuel : Nat) → (replaces : Bool) → String → List String →
    List (String × String) → Act Unit
  | 0, _, _, _, _ => giveUp
  | fuel + 1, replaces, name, arguments, values => do
    let outer ← get
    let environment := outer.environment values
    let process := if replaces then outer.worker else outer.nextProcess
    set { outer with
      bindings := environment, exported := environment.keys, functions := []
      constants := [], scopes := [], options := [], isTesting := false, loops := 0
      process, worker := process, nextProcess := outer.nextProcess + 1, doom := none
      traps := outer.traps.filter (·.2.isEmpty), lastBeside := none, line := 0, status := 0
      directory := outer.directory, arguments := [name] }
    shellProgram fuel arguments
    let inner ← get
    set { outer with
      tree := { inner.tree with current := outer.tree.current }
      emissions := inner.emissions, jobs := inner.jobs, nextProcess := inner.nextProcess
      clock := inner.clock, input := inner.input, status := inner.status % 256 }
    if let some (.killed signal) := inner.departure then
      leave (128 + signal)
      if replaces then depart (.killed signal) else report signal

/-- Sends a signal to processes. -/
def kill : (fuel : Nat) → List String → Act Unit
  | 0, _ => giveUp
  | fuel + 1, arguments => do
    let usage := "kill: Usage: kill [-s sigspec | -signum | -sigspec] [pid | job]... or\n" ++
      "kill -l [exitstatus]"
    match signalOf arguments with
    | .error problem => complain ("kill: " ++ problem) 2
    | .ok (none, []) => speak "kill" (Bytes.ofText Signal.listing)
    | .ok (none, code :: _) =>
      let number := (Chars.natural? code.toList).map fun number =>
        if 128 < number then number - 128 else number
      match number with
      | none => complain ("kill: Illegal number: " ++ code) 2
      | some signal =>
        if 0 < signal && signal ≤ Signal.last then
          speak "kill" (Bytes.ofText (Signal.name signal ++ "\n"))
        else complain ("kill: invalid signal number or exit status: " ++ code) 2
    | .ok (some _, []) => complain usage 2
    | .ok (some signal, targets) =>
      leave 0
      targets.forM fun target => do
        let shell ← get
        match Chars.natural? target.toList with
        | none =>
          if Text.beginsWith target "%" then complain ("kill: No such job: " ++ target) 2
          else complain ("kill: Illegal number: " ++ target) 2
        | some process =>
          if process == shell.worker || process == 0 then receive fuel signal
          else if process == shell.process then
            modify fun shell =>
              { shell with doom := shell.doom.or (some (shell.clock, signal)) }
          else if shell.jobs.any fun job => job.process == process && !job.isGone then
            if !Signal.isHarmless signal then endJob process signal
          else complain "kill: No such process\n" 1

/-- What a shell does when a signal reaches it. -/
def receive : (fuel : Nat) → (signal : Nat) → Act Unit
  | 0, _ => giveUp
  | fuel + 1, signal => do
    let shell ← get
    match (shell.traps.lookup signal).filter fun _ => signal != 9 && signal != 0 with
    | some command =>
      if !command.isEmpty then
        runText fuel false { rest := command.toList, line := shell.line }
        if (← get).departure.isNone then leave shell.status
    | none => if !Signal.isHarmless signal then depart (.killed signal)

/-- Lets a signal reach the shell that was sent while a part of it was at work. -/
def heed : (fuel : Nat) → Act Unit
  | 0 => giveUp
  | fuel + 1 => do
    let shell ← get
    if shell.worker == shell.process && shell.departure.isNone then
      if let some (moment, signal) := shell.doom then
        if moment ≤ shell.clock then
          set { shell with doom := none }
          receive fuel signal

/-- Carries a script out. `last` says that the shell has nothing else to do after it. -/
def run : (fuel : Nat) → (last : Bool) → Script → Act Unit
  | 0, _, _ => giveUp
  | fuel + 1, last, script => do
    heed fuel
    let shell ← get
    if shell.departure.isSome || shell.options.contains 'n' then return ()
    match script with
    | .nothing => return ()
    | .simple line words redirections =>
      simple fuel last line words redirections
      settle
    | .pipe first second =>
      let begin := (← get).clock
      let outer ← get
      let input ← throughPipe (apart (run fuel true first))
      modify fun shell => { shell with clock := begin, input }
      apart (run fuel true second)
      waitUntil input.complete
      modify fun shell => { shell with input := outer.input }
      settle
    | .both first second =>
      examine fuel first
      let shell ← get
      if shell.departure.isNone && shell.status = 0 then run fuel last second
    | .either first second =>
      examine fuel first
      let shell ← get
      if shell.departure.isNone && shell.status != 0 then run fuel last second
    | .sequence first .nothing => run fuel last first
    | .sequence first second =>
      run fuel false first
      if (← get).departure.isNone then run fuel last second
    | .beside body => beside fuel body
    | .inverse body =>
      examine fuel body
      let shell ← get
      if shell.departure.isNone then leave (if shell.status = 0 then 1 else 0)
    | .group own line body redirections =>
      modify fun shell => { shell with line }
      redirected fuel redirections false
        (if own then apart (do
          run fuel true body
          farewell fuel)
        else run fuel (last && redirections.isEmpty) body)
      if own then settle
    | .choice test body otherwise =>
      examine fuel test
      let shell ← get
      if shell.departure.isNone then
        if shell.status = 0 then run fuel last body
        else
          leave 0
          run fuel last otherwise
    | .loop untilSuccess test body =>
      modify fun shell => { shell with loops := shell.loops + 1 }
      let status ← turns fuel untilSuccess test body 0
      modify fun inner => { inner with loops := shell.loops }
      if (← get).departure.isNone then leave status
    | .each name words body =>
      let fields ←
        match words with
        | some words => fieldsOf fuel words
        | none => pure ((← get).arguments.drop 1)
      leave 0
      modify fun shell => { shell with loops := shell.loops + 1 }
      if (← get).departure.isNone then eachTurn fuel name fields body
      modify fun inner => { inner with loops := shell.loops }
    | .select subject cases =>
      let text ← textOf fuel subject
      leave 0
      if (← get).departure.isNone then selected fuel last text cases
    | .function name body =>
      modify fun shell => { shell with functions := (name, body) :: shell.functions }
      leave 0

/-- Carries out a script of which the failure is looked at. -/
def examine : (fuel : Nat) → Script → Act Unit
  | 0, _ => giveUp
  | fuel + 1, script => do
    let before := (← get).isTesting
    modify fun shell => { shell with isTesting := true }
    run fuel false script
    modify fun shell => { shell with isTesting := before }

/-- Starts a script that runs beside the shell. It has nothing to read. -/
def beside : (fuel : Nat) → Script → Act Unit
  | 0, _ => giveUp
  | fuel + 1, script => do
    let outer ← get
    let process := outer.nextProcess
    set { outer with
      worker := process, nextProcess := process + 1, input := {}, finale := none, left := []
      traps := outer.traps.filter (·.2.isEmpty) }
    match script with
    | .group _ line body redirections =>
      modify fun shell => { shell with line }
      match ← redirectAll fuel redirections with
      | some problem => abandon problem 2
      | none => run fuel true body
    | script => run fuel true script
    farewell fuel
    let inner ← get
    let (sinks, since) := inner.finale.getD (inner.sinks.map Prod.snd, inner.clock)
    let signal :=
      match inner.departure with
      | some (.killed signal) => some signal
      | _ => none
    let holds :=
      inner.left ++ holdsOf (inner.sinks.map Prod.snd) since ++ holdsOf sinks inner.clock
    let status := (signal.map (128 + ·)).getD (inner.status % 256)
    let job : Job :=
      { process, parent := outer.worker, finish := inner.clock, status, signal, holds
        ignored := (outer.traps.filter (·.2.isEmpty)).map Prod.fst }
    set { outer with
      tree := { inner.tree with current := outer.tree.current }, emissions := inner.emissions, nextProcess := inner.nextProcess
      jobs := job :: inner.jobs, lastBeside := some process, status := 0
      doom := outer.doom.or inner.doom }

/-- The turns of a loop, and the exit code of the last one. -/
def turns : (fuel : Nat) → (untilSuccess : Bool) → Script → Script → Nat → Act Nat
  | 0, _, _, _, status => do
    giveUp
    return status
  | fuel + 1, untilSuccess, test, body, status => do
    examine fuel test
    if (← leavesLoop) then return (← get).status
    if ((← get).status = 0) == untilSuccess then return status
    run fuel false body
    if (← leavesLoop) then return (← get).status
    turns fuel untilSuccess test body (← get).status

/-- The turns of a loop over words. -/
def eachTurn : (fuel : Nat) → String → List String → Script → Act Unit
  | 0, _, _, _ => giveUp
  | fuel + 1, name, words, body => do
    match words with
    | [] => return ()
    | word :: rest =>
      assign name word
      if (← get).departure.isSome then return ()
      run fuel false body
      if !(← leavesLoop) then eachTurn fuel name rest body

/-- The script behind the first pattern that fits a text. -/
def selected : (fuel : Nat) → (last : Bool) → String → List (List Word × Script) → Act Unit
  | 0, _, _, _ => giveUp
  | fuel + 1, last, text, cases => do
    match cases with
    | [] => return ()
    | (patterns, body) :: rest =>
      if ← fitsAny fuel text patterns then run fuel last body
      else selected fuel last text rest

def fitsAny : (fuel : Nat) → String → List Word → Act Bool
  | 0, _, _ => do
    giveUp
    return false
  | fuel + 1, text, patterns => do
    match patterns with
    | [] => return false
    | pattern :: rest =>
      let characters := Cell.characters (← cellsOf fuel pattern)
      if Wildcard.fits (Wildcard.ofCharacters (characters.length + 1) characters) text.toList then
        return true
      else fitsAny fuel text rest

/-- Runs the command for the end of a shell. -/
def farewell : (fuel : Nat) → Act Unit
  | 0 => giveUp
  | fuel + 1 => do
    heed fuel
    let shell ← get
    match shell.departure, shell.traps.lookup 0 with
    | some (.killed _), _ => return ()
    | _, some command =>
      let status := shell.status
      set { shell with departure := none, traps := shell.traps.filter (·.1 != 0) }
      runText fuel false { rest := command.toList, line := shell.line }
      if (← get).departure.isNone then leave status
    | _, none => return ()

/-- Reads and runs a text line by line. -/
def runText : (fuel : Nat) → (last : Bool) → Source → Act Unit
  | 0, _, _ => giveUp
  | fuel + 1, last, source => do
    match Reading.commands source with
    | .error misreading =>
      modify fun shell => { shell with line := misreading.line }
      abandon ("Syntax error: " ++ misreading.reason) 2
    | .ok none => return ()
    | .ok (some (script, source)) =>
      run fuel (last && isAtEnd source) script
      if (← get).departure.isNone then runText fuel last source

/-- The shell as a program: its options, then a script among its arguments or on its
input. -/
def shellProgram : (fuel : Nat) → List String → Act Unit
  | 0, _ => giveUp
  | fuel + 1, arguments => do
    modify fun shell => { shell with line := 0 }
    let (operands, _) ← takeOptions "" true arguments
    let shell ← get
    let isGiven := (arguments.take (arguments.length - operands.length)).any fun argument =>
      argument.toList.contains 'c' && !(optionNames.lookup argument).isSome
    if shell.departure.isSome then return ()
    match isGiven, operands with
    | true, [] => abandon "-c requires an argument" 2
    | true, script :: rest =>
      if !rest.isEmpty then modify fun shell => { shell with arguments := rest }
      runText fuel false { rest := script.toList }
    | false, operands =>
      if operands.isEmpty || shell.options.contains 's' then
        let text := Bytes.toText shell.input.bytes
        waitUntil shell.input.complete
        modify fun shell =>
          { shell with input := {}, arguments := shell.arguments ++ operands }
        setOption true 's'
        runText fuel false { rest := text.toList }
      else
        let file := operands.headD ""
        match readFile shell.tree file with
        | .ok bytes =>
          modify fun shell => { shell with arguments := operands }
          runText fuel false { rest := (Bytes.toText bytes).toList }
        | .error "Is a directory" => leave 0
        | .error _ => abandon ("cannot open " ++ file ++ ": No such file") 2
    farewell fuel

end

end ServerInventory.Host.Shell
