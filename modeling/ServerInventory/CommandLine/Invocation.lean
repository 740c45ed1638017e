import ServerInventory.Config
import ServerInventory.Device.Kind
import ServerInventory.StringMap

/-!
What the command line and the environment ask for. Options stand before the order that
they belong to; every option of the program has a variable that counts where the option is
not given. Whatever is wrong with a command line, there is nothing to be done then.
-/

namespace ServerInventory.CommandLine

/-- What is to be done. -/
inductive Order where
  /-- Take the inventory, starting from the server that a file describes. -/
  | inventory (device : Option String)
  /-- Tell which utilities serve the components of a class and a vendor. -/
  | resolve (kind : ComponentKind) (vendor : String)
deriving DecidableEq, Repr

/-- A command line that makes sense. -/
structure Invocation where
  /-- The file of the configuration. -/
  config : Option String := none
  commandTimeoutSecs : Option UInt64 := none
  /-- Utilities that are disabled besides those of the configuration. -/
  disable : List String := []
  driveCapabilities : Bool := false
  traceOutput : Bool := false
  order : Order
deriving DecidableEq, Repr

/-! ## Options -/

/-- How an option is given. -/
inductive Arity where
  /-- The option stands for itself. -/
  | flag
  /-- A value follows, and the option is given once. -/
  | single
  /-- A value follows each time the option is given. -/
  | repeated
deriving DecidableEq, Repr

/-- The options of a level of the command line. -/
abbrev Options := List (String × Arity)

/-- The options that were given, with their values, in their order; a flag has an empty
value. -/
abbrev Given := List (String × String)

/-- An argument that could be taken for an option. A lone hyphen is not. -/
def looksLikeOption (argument : String) : Bool :=
  Text.beginsWith argument "-" && argument != "-"

/-- Reads the options at the front of a command line, and what stands behind them. -/
def readOptions (options : Options) : List String → Option (Given × List String)
  | [] => some ([], [])
  | argument :: rest =>
    match Text.stripStart? argument "--" with
    | none => if looksLikeOption argument then none else some ([], argument :: rest)
    | some body =>
      match Chars.cut '=' body.toList with
      | some (name, value) =>
        let name := String.ofList name
        match options.lookup name with
        | none => none
        | some .flag => none
        | some _ =>
          (readOptions options rest).map fun result =>
            ((name, String.ofList value) :: result.1, result.2)
      | none =>
        match options.lookup body, rest with
        | some .flag, rest =>
          (readOptions options rest).map fun result => ((body, "") :: result.1, result.2)
        | some _, value :: rest =>
          if looksLikeOption value then none
          else (readOptions options rest).map fun result =>
            ((body, value) :: result.1, result.2)
        | _, _ => none

/-- Whether no option is given more often than it may be. -/
def isProper (options : Options) (given : Given) : Bool :=
  options.all fun option =>
    option.2 == .repeated || (given.filter fun entry => entry.1 == option.1).length ≤ 1

/-- The values that an option was given. -/
def values (given : Given) (name : String) : List String :=
  (given.filter fun entry => entry.1 == name).map Prod.snd

/-! ## Values -/

/-- The path of a file; there is no empty one. -/
def path? (text : String) : Option String :=
  if text.isEmpty then none else some text

/-- A number that a 64-bit word holds. -/
def word64? (text : String) : Option UInt64 := do
  let digits :=
    match text.toList with
    | '+' :: rest => rest
    | digits => digits
  let number ← Chars.natural? digits
  if number < UInt64.size then some (UInt64.ofNat number) else none

def flag? (text : String) : Option Bool :=
  match text with
  | "true" => some true
  | "false" => some false
  | _ => none

def kind? (text : String) : Option ComponentKind :=
  match ComponentKind.ofText text with
  | .ok kind => some kind
  | .error _ => none

/-- The names between the commas of a text. -/
def names (text : String) : List String :=
  (Chars.split ',' text.toList).map String.ofList

/-! ## The program -/

/-- The options of the program, before the order. -/
def programOptions : Options :=
  [("config", .single), ("command-timeout-secs", .single), ("disable", .repeated),
    ("drive-capabilities", .flag), ("trace-output", .flag), ("log-level", .single),
    ("log-json", .flag)]

/-- The variables that count in place of options. -/
def variableNames : List (String × String) :=
  [("config", "HWINVENTORY_CONFIG"), ("command-timeout-secs", "COMMAND_TIMEOUT_SECS"),
    ("disable", "DISABLED_UTILITIES"), ("drive-capabilities", "COLLECT_DRIVE_CAPABILITIES"),
    ("trace-output", "TRACE_OUTPUT"), ("log-level", "LOG_LEVEL"), ("log-json", "LOG_JSON")]

/-- The values of an option, or else that of its variable. -/
def valuesOr (environment : StringMap String) (given : Given) (name : String) : List String :=
  match values given name with
  | [] => ((variableNames.lookup name).bind environment.get?).toList
  | given => given

/-- The value of an option, if it has one; a value that makes no sense is an error. -/
def option? {α : Type} (environment : StringMap String) (given : Given) (name : String)
    (read : String → Option α) : Option (Option α) :=
  match valuesOr environment given name with
  | [] => some none
  | value :: _ => (read value).map some

/-- Whether a flag is given, or else set by its variable. -/
def isSet? (environment : StringMap String) (given : Given) (name : String) : Option Bool :=
  if (given.lookup name).isSome then some true
  else match (variableNames.lookup name).bind environment.get? with
    | none => some false
    | some value => flag? value

/-- The options behind the name of an order, with nothing behind them but perhaps the mark
that no option follows. -/
def orderOptions? (options : Options) (arguments : List String) : Option Given := do
  let arguments :=
    if arguments.getLast? = some "--" then arguments.dropLast else arguments
  match ← readOptions options arguments with
  | (given, []) => if isProper options given then some given else none
  | _ => none

/-- An order by its name and what stands behind it. -/
def order? : List String → Option Order
  | "inventory" :: rest => do
    let given ← orderOptions? [("device", .single)] rest
    match values given "device" with
    | [] => return .inventory none
    | file :: _ => return .inventory (some (← path? file))
  | "resolve" :: rest => do
    let given ← orderOptions? [("kind", .single), ("vendor", .single)] rest
    return .resolve (← (given.lookup "kind").bind kind?) (← given.lookup "vendor")
  | _ => none

/-- What a command line asks for in an environment. -/
def invocation? (environment : StringMap String) (arguments : List String) :
    Option Invocation := do
  let (given, rest) ← readOptions programOptions arguments
  if !isProper programOptions given then none
  else
    let order ← order? rest
    -- How the log is written does not matter here, but its flag has to make sense.
    let _ ← isSet? environment given "log-json"
    return {
      config := ← option? environment given "config" path?
      commandTimeoutSecs := ← option? environment given "command-timeout-secs" word64?
      disable := (valuesOr environment given "disable").flatMap names
      driveCapabilities := ← isSet? environment given "drive-capabilities"
      traceOutput := ← isSet? environment given "trace-output"
      order }

end ServerInventory.CommandLine
