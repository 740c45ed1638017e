/-!
What can go wrong while hardware is inventoried, and the words in which it is reported.
Three causes (`io`, `json`, `yaml`) have no words of their own: what they would say is left
to whoever meets the file or the document.
-/

namespace ServerInventory

/-- A reason for which an operation gave no result. -/
inductive Error where
  /-- There is no device to collect into. -/
  | deviceMissing
  /-- No utility is known for a component of a vendor. -/
  | utilityNotIdentified (component vendor : String)
  | executableNotFound (program : String)
  | commandFailed (command : String) (exitCode : Int) (stderr : String)
  | commandTimeout (command : String) (seconds : Nat)
  | cancelled
  /-- A utility printed something that is no report. -/
  | parse (utility reason : String)
  /-- A collector of a class reported an error. -/
  | collector (name : String) (source : Error)
  | diff (path reason : String)
  | patch (path reason : String)
  | config (reason : String)
  | io
  | json
  | yaml
deriving DecidableEq, Repr

instance : Inhabited Error := ⟨.cancelled⟩

namespace Error

/-- The words of an error; `none` where the cause has no words of its own. -/
def message? : Error → Option String
  | .deviceMissing => some "device is missing, nothing to collect into"
  | .utilityNotIdentified component vendor =>
    some (component ++ " utility not identified for vendor: " ++ vendor)
  | .executableNotFound program => some ("executable not found: " ++ program)
  | .commandFailed command exitCode stderr =>
    some ("command '" ++ command ++ "' failed with exit code " ++ toString exitCode ++ ": " ++
      stderr)
  | .commandTimeout command seconds =>
    some ("command '" ++ command ++ "' timed out after " ++ toString seconds ++ "s")
  | .cancelled => some "operation cancelled"
  | .parse utility reason => some ("failed to parse " ++ utility ++ " output: " ++ reason)
  | .collector name source =>
    source.message?.map fun words => name ++ " collection failed: " ++ words
  | .diff path reason => some ("diff failed at '" ++ path ++ "': " ++ reason)
  | .patch path reason => some ("patch failed at '" ++ path ++ "': " ++ reason)
  | .config reason => some ("configuration error: " ++ reason)
  | .io => none
  | .json => none
  | .yaml => none

/-- Whether the error says that no utility is known for a vendor, be it inside the report
of a collector. -/
def isIdentificationFailure : Error → Bool
  | .utilityNotIdentified _ _ => true
  | .collector _ source => source.isIdentificationFailure
  | _ => false

end Error

end ServerInventory
