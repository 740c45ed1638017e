import ServerInventory.Error
import ServerInventory.Json.Reader
import ServerInventory.Text.Lines
import ServerInventory.Text.Lowercase

/-!
The classes of components: their names, how a name is read, and the order in which they
are collected.
-/

namespace ServerInventory

/-- A class of components. -/
inductive ComponentKind where
  | drive
  | nic
  | bmc
  | bios
  | cpld
  | storageController
deriving DecidableEq, Repr

namespace ComponentKind

/-- All classes in the order of collection. -/
def all : List ComponentKind :=
  [.drive, .nic, .bios, .cpld, .bmc, .storageController]

def name : ComponentKind → String
  | .drive => "drive"
  | .nic => "nic"
  | .bmc => "bmc"
  | .bios => "bios"
  | .cpld => "cpld"
  | .storageController => "storage_controller"

/-- The class of exactly this name. -/
def ofName? (name : String) : Option ComponentKind :=
  all.find? fun kind => kind.name == name

/-- A name as it is compared: without blanks around it, in small letters, with underscores
for hyphens. -/
def normalize (text : String) : String :=
  Text.replace '-' '_' (Text.lowercase (Text.trim text))

/-- The class that a user means, who may write `disk` for a drive and `raid` for a storage
controller. -/
def ofText (text : String) : Except String ComponentKind :=
  let normalized := normalize text
  if normalized = "disk" then .ok .drive
  else if normalized = "raid" then .ok .storageController
  else match ofName? normalized with
    | some kind => .ok kind
    | none => .error ("unknown component kind: " ++ normalized)

/-- A class is written as its name, or as an object with its name as the only member and
null behind it. -/
def reader : Json.Reader ComponentKind
  | _, .quoted (some name) => ofName? name
  | _ + 1, .object [(some name, .null)] => ofName? name
  | _, _ => none

theorem mem_all (kind : ComponentKind) : kind ∈ all := by
  cases kind <;> decide

end ComponentKind

end ServerInventory
