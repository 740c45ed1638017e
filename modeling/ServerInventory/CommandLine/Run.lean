import ServerInventory.CommandLine.Invocation
import ServerInventory.Config.Reading
import ServerInventory.Dispatch
import ServerInventory.Json.Writing
import ServerInventory.Pass

/-!
The program as a whole: the configuration, the order, and what is shown in the end. Files
come as a function from their paths, so nothing here depends on where it runs.
-/

namespace ServerInventory.CommandLine

/-- The texts of the files that can be read. -/
abbrev Files := String → Option String

/-- What the program ends with. -/
inductive Outcome where
  /-- Nothing sensible was asked for. -/
  | misuse
  | failure (error : Error)
  /-- The baseline broke down. -/
  | fault (reason : String)
  | shown (text : String)
  | collected (device : Device) (summary : Summary)
deriving Repr

namespace Outcome

def exitCode : Outcome → Nat
  | .misuse => 2
  | .failure _ => 1
  | .fault _ => 101
  | .shown _ => 0
  | .collected _ _ => 0

/-- The report of an inventory taken at some time. -/
def reportDocument (time : String) (device : Device) (summary : Summary) : Json :=
  .record [("collected_at", .text time), ("device", device.document),
    ("summary", summary.document)]

/-- What goes to the standard output at some time. -/
def output (time : String) : Outcome → String
  | .shown text => text
  | .collected device summary => (reportDocument time device summary).pretty ++ "\n"
  | _ => ""

end Outcome

/-- The text of a file, which has to be there. -/
def readFile (files : Files) (path : String) : Except Error String :=
  match files path with
  | some text => .ok text
  | none => .error .io

/-- The configuration of the file that is named, or the usual one. -/
def baseConfig (files : Files) (path : Option String) : Except Error Config :=
  match path with
  | none => .ok {}
  | some path => readFile files path >>= Config.ofText

/-- The configuration under the options of the command line. -/
def configOf (files : Files) (invocation : Invocation) : Except Error Config := do
  let base ← baseConfig files invocation.config
  let config : Config :=
    { commandTimeoutSecs := invocation.commandTimeoutSecs.getD base.commandTimeoutSecs
      disabledUtilities := base.disabledUtilities ++ invocation.disable.map Text.trim
      collectDriveCapabilities :=
        base.collectDriveCapabilities || invocation.driveCapabilities
      traceOutput := base.traceOutput || invocation.traceOutput }
  config.validate
  return config

/-- The server that a file describes, or an unknown one. -/
def deviceOf (files : Files) (path : Option String) : Except Error Device :=
  match path with
  | none => .ok {}
  | some path => do
    match Device.reader.ofText? (← readFile files path) with
    | some device => return device
    | none => throw .json

/-- Who lists the components of a class and a vendor, where that depends on the vendor. -/
def listerName? (kind : ComponentKind) (vendor : String) : Option (Except Error String) :=
  match kind with
  | .drive => some ((Dispatch.drives vendor).map (·.name))
  | .storageController => some ((Dispatch.storageControllers vendor).map (·.name))
  | _ => none

/-- A name, or why there is none. -/
def describeName : Except Error String → String
  | .ok name => name
  | .error error =>
    let words := error.message?.getD ""
    if error.isIdentificationFailure then "none (" ++ words ++ ")" else "error (" ++ words ++ ")"

/-- The utilities for the components of a class and a vendor, a line for each task. -/
def resolved (kind : ComponentKind) (vendor : String) : String :=
  let lister :=
    match listerName? kind vendor with
    | none => ""
    | some name => "collector: " ++ describeName name ++ "\n"
  let updater := (Dispatch.updater kind vendor).map fun updater => updater.utility.name
  lister ++ "updater:   " ++ describeName updater ++ "\n"

/-- Takes the inventory. -/
def inventory (config : Config) (executor : Executor) (device : Device) : Outcome :=
  let result := Pass.collect config executor {} (some device) {}
  match result.answer with
  | .data summary => .collected (result.device.getD device) summary
  | .failure error => .failure error
  | .fault reason => .fault reason

/-- Carries out what was asked for. -/
def carryOut (files : Files) (executor : Config → Executor) (invocation : Invocation) :
    Outcome :=
  match configOf files invocation with
  | .error error => .failure error
  | .ok config =>
    match invocation.order with
    | .resolve kind vendor => .shown (resolved kind vendor)
    | .inventory path =>
      match deviceOf files path with
      | .error error => .failure error
      | .ok device => inventory config (executor config) device

/-- The whole program. -/
def run (environment : StringMap String) (files : Files) (executor : Config → Executor)
    (arguments : List String) : Outcome :=
  match invocation? environment arguments with
  | none => .misuse
  | some invocation => carryOut files executor invocation

end ServerInventory.CommandLine
