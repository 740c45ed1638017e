import ServerInventory.Device.Kind
import ServerInventory.Registry
import ServerInventory.Vendor

/-!
Which utility serves the components of a vendor: who lists them, and who installs firmware
on them. Only the canonical key of the vendor counts; a vendor that no utility serves is
reported in the spelling that was given.
-/

namespace ServerInventory

/-- A way to install firmware. -/
inductive Updater where
  | mlxup
  | msecli
  | mvcli
  | storcli
  | sumBios
  | sumBmc
deriving DecidableEq, Repr

namespace Updater

def all : List Updater := [.mlxup, .msecli, .mvcli, .storcli, .sumBios, .sumBmc]

def utility : Updater → Utility
  | .mlxup => .mlxup
  | .msecli => .msecli
  | .mvcli => .mvcli
  | .storcli => .storcli
  | .sumBios => .sum
  | .sumBmc => .sum

/-- The class of components on which firmware is installed. -/
def kind : Updater → ComponentKind
  | .mlxup => .nic
  | .msecli => .drive
  | .mvcli => .storageController
  | .storcli => .storageController
  | .sumBios => .bios
  | .sumBmc => .bmc

/-- The key of the vendor whose components are served. -/
def vendor : Updater → String
  | .mlxup => Vendor.mellanox
  | .msecli => Vendor.micron
  | .mvcli => Vendor.marvell
  | .storcli => Vendor.broadcom
  | .sumBios => Vendor.supermicro
  | .sumBmc => Vendor.supermicro

/-- The arguments that choose one of several components. -/
def choose (option : String) : Option String → List String
  | none => []
  | some target => [option, target]

/-- The command that installs a file; `msecli` asks back once and takes no file without a
drive to install it on. -/
def command (updater : Updater) (file : String) (target : Option String) :
    Except Error Command :=
  match updater with
  | .mlxup =>
    .ok (Utility.mlxup.call (["--yes", "--update", "--image-file", file] ++ choose "--dev" target))
  | .mvcli =>
    .ok (Utility.mvcli.call
      (["flash", "-a", "update", "-t", "raw", "-f", file] ++ choose "--adapter" target))
  | .msecli =>
    match target with
    | none => .error (.config "msecli update needs a drive logical name")
    | some drive =>
      .ok { Utility.msecli.call ["-F", "-U", file, "-n", drive] with
            stdin := some (Bytes.ofText "y\n") }
  | .storcli =>
    .ok (Utility.storcli.call
      ["/c" ++ target.getD "0", "download", "file=" ++ file, "noverchk", "J"])
  | .sumBios => .ok (Utility.sum.call ["-c", "UpdateBios", "--file", file])
  | .sumBmc => .ok (Utility.sum.call ["-c", "UpdateBmc", "--file", file])

/-- Installs a file. -/
def install (updater : Updater) (file : String) (target : Option String) : Probe Unit := do
  let command ← .ofExcept (updater.command file target)
  let _ ← Probe.exec command
  return ()

end Updater

namespace Dispatch

/-- The entry of a table under the canonical key of a vendor. -/
def lookup {α : Type} (kind : ComponentKind) (vendor : String) (table : List (String × α)) :
    Except Error α :=
  match table.lookup (Vendor.canonical vendor) with
  | some entry => .ok entry
  | none => .error (.utilityNotIdentified kind.name vendor)

/-- Who lists the storage controllers of a vendor. -/
def storageControllers (vendor : String) : Except Error (Collector (List StorageController)) :=
  lookup .storageController vendor [
    (Vendor.marvell, Utility.mvcli.collector Mvcli.listedControllers),
    (Vendor.broadcom, Utility.storcli.collector Storcli.listedControllers)]

/-- Who lists the drives of a vendor, or those behind the controllers of a vendor. -/
def drives (vendor : String) : Except Error (Collector (List Drive)) :=
  lookup .drive vendor [
    (Vendor.micron, Utility.msecli.collector Msecli.listedDrives),
    (Vendor.marvell, Utility.mvcli.collector Mvcli.listedDrives),
    (Vendor.broadcom, Utility.storcli.collector Storcli.listedDrives)]

/-- Who installs firmware on the components of a class and a vendor. -/
def updater (kind : ComponentKind) (vendor : String) : Except Error Updater :=
  lookup kind vendor
    ((Updater.all.filter fun updater => updater.kind == kind).map fun updater =>
      (updater.vendor, updater))

end Dispatch

end ServerInventory
