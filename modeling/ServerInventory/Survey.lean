import ServerInventory.Probe
import ServerInventory.Readout.Hdparm
import ServerInventory.Readout.Listing
import ServerInventory.Readout.Lshw
import ServerInventory.Readout.NvmeCli
import ServerInventory.Readout.Smartctl
import ServerInventory.Readout.Storcli
import ServerInventory.Utility

/-!
What each utility is asked, and what it is asked for. A utility without a record of the
management controller or the system firmware reports an empty one.
-/

namespace ServerInventory

/-- A utility called with some arguments. -/
def Utility.call (utility : Utility) (args : List String) : Command :=
  .call utility.program args

namespace Lshw

def inventory : Probe Device := do
  .ofExcept (device (← Probe.read (Utility.lshw.call ["-json", "-quiet"])))

end Lshw

namespace Smartctl

/-- One drive of a scan. -/
def driveAt (path : String) : Probe Drive := do
  .ofExcept (drive (← Probe.read (Utility.smartctl.call ["-i", "-j", path])))

/-- The drives at some paths. -/
def drivesAt : List String → Probe (List Drive)
  | [] => return []
  | path :: paths => do
    let drive ← driveAt path
    let drives ← drivesAt paths
    return drive :: drives

def drives : Probe (List Drive) := do
  let paths ← .ofExcept (scan (← Probe.read (Utility.smartctl.call ["--scan", "-j"])))
  drivesAt paths

end Smartctl

namespace NvmeCli

def listedDrives : Probe (List Drive) := do
  .ofExcept (drives (← Probe.read (Utility.nvme.call ["list", "-o", "json"])))

def capabilitiesOf (logicalName : String) : Probe (List (String × Bool)) := do
  .ofExcept
    (capabilities (← Probe.read (Utility.nvme.call ["id-ctrl", "-o", "json", logicalName])))

end NvmeCli

namespace Hdparm

def capabilitiesOf (logicalName : String) : Probe (List (String × Bool)) := do
  .ofExcept (capabilities (← Probe.read (Utility.hdparm.call ["-I", logicalName])))

end Hdparm

namespace Mlxup

def queriedNics : Probe (List Nic) := do
  return nics (← Probe.read (Utility.mlxup.call ["--query"]))

end Mlxup

namespace Mvcli

def info (object : String) : Probe String :=
  Probe.read (Utility.mvcli.call ["info", "-o", object])

def listedControllers : Probe (List StorageController) := do
  return storageControllers (← info "hba")

def listedDrives : Probe (List Drive) := do
  return drives (← info "pd")

end Mvcli

namespace Msecli

def listedDrives : Probe (List Drive) := do
  return drives (← Probe.read (Utility.msecli.call ["-L"]))

end Msecli

namespace Storcli

def showAll (object : String) : Probe String :=
  Probe.read (Utility.storcli.call [object, "show", "all", "J"])

def listedControllers : Probe (List StorageController) := do
  let (controllers, _) ← .ofExcept (report (← showAll "/call"))
  return controllers

def listedDrives : Probe (List Drive) := do
  let (_, drives) ← .ofExcept (report (← showAll "/call/eall/sall"))
  return drives

end Storcli

namespace Ipmitool

def controller : Probe Bmc := do
  return (bmc? (← Probe.read (Utility.ipmitool.call ["mc", "info"]))).getD {}

end Ipmitool

namespace Dmidecode

def systemFirmware : Probe Bios := do
  return (bios? (← Probe.read (Utility.dmidecode.call ["-t", "0"]))).getD {}

end Dmidecode

end ServerInventory
