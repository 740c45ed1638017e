import ServerInventory.Text.Lines

/-!
The vendor utilities by which hardware is asked about itself, and the buses on which they
reach drives.
-/

namespace ServerInventory

/-- A utility that reports on hardware or installs firmware. -/
inductive Utility where
  | lshw
  | smartctl
  | nvme
  | hdparm
  | mlxup
  | mvcli
  | msecli
  | storcli
  | ipmitool
  | dmidecode
  | sum
deriving DecidableEq, Repr

namespace Utility

def all : List Utility :=
  [.lshw, .smartctl, .nvme, .hdparm, .mlxup, .mvcli, .msecli, .storcli, .ipmitool,
    .dmidecode, .sum]

def name : Utility → String
  | .lshw => "lshw"
  | .smartctl => "smartctl"
  | .nvme => "nvme"
  | .hdparm => "hdparm"
  | .mlxup => "mlxup"
  | .mvcli => "mvcli"
  | .msecli => "msecli"
  | .storcli => "storcli"
  | .ipmitool => "ipmitool"
  | .dmidecode => "dmidecode"
  | .sum => "sum"

/-- The program that is run, whose name is that of the utility with one exception. -/
def program : Utility → String
  | .storcli => "storcli64"
  | utility => utility.name

def ofName? (name : String) : Option Utility :=
  all.find? fun utility => utility.name == name

theorem ofName?_name (utility : Utility) : ofName? utility.name = some utility := by
  cases utility <;> decide

theorem mem_all (utility : Utility) : utility ∈ all := by
  cases utility <;> decide

end Utility

/-- The bus on which a utility reaches a drive. -/
inductive Transport where
  | nvme
  /-- Drives on an ATA or a SCSI bus. -/
  | ata
deriving DecidableEq, Repr

namespace Transport

def name : Transport → String
  | .nvme => "nvme"
  | .ata => "ata"

/-- The bus that the path of a drive in the operating system tells. -/
def ofLogicalName (logicalName : String) : Transport :=
  if Text.contains logicalName "nvme" then .nvme else .ata

end Transport

end ServerInventory
