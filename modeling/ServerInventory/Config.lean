import ServerInventory.Error
import ServerInventory.Json.Reader
import ServerInventory.Text.Lowercase
import ServerInventory.Utility

/-!
The settings of a collection. A configuration is valid if a command is given any time at
all, if every disabled utility is a known one, and if the baseline is not among them.
-/

namespace ServerInventory

/-- The settings of a collection. -/
structure Config where
  /-- How long a command may take. -/
  commandTimeoutSecs : UInt64 := 300
  /-- The utilities that are not used unless asked for. -/
  disabledUtilities : List String := []
  /-- Whether the features of each drive are collected. -/
  collectDriveCapabilities : Bool := false
  /-- Whether the raw output of utilities is logged. -/
  traceOutput : Bool := false
deriving DecidableEq, Repr, Inhabited

namespace Config

/-- Whether a utility is not used unless asked for. -/
def isDisabled (config : Config) (utility : String) : Bool :=
  config.disabledUtilities.any fun name => Text.equalsIgnoringCase name utility

/-- Whether some spelling names a utility. -/
def namesUtility (name : String) : Bool :=
  (Utility.ofName? (Text.lowercase name)).isSome

/-- Nothing for a valid configuration, otherwise what is wrong with it. -/
def validate (config : Config) : Except Error Unit :=
  if config.commandTimeoutSecs = 0 then
    .error (.config "command_timeout_secs must be positive")
  else match config.disabledUtilities.find? fun name => !namesUtility name with
    | some unknown => .error (.config ("unknown utility in disabled_utilities: " ++ unknown))
    | none =>
      if config.isDisabled Utility.lshw.name then
        .error (.config "lshw is the baseline collector and cannot be disabled")
      else .ok ()

def document (config : Config) : Json :=
  .record [
    ("command_timeout_secs", .ofNat config.commandTimeoutSecs.toNat),
    ("disabled_utilities", .list (config.disabledUtilities.map Json.text)),
    ("collect_drive_capabilities", .flag config.collectDriveCapabilities),
    ("trace_output", .flag config.traceOutput)]

end Config

end ServerInventory
