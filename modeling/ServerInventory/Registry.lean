import ServerInventory.Config
import ServerInventory.Survey

/-!
The collectors of a pass: who is asked about each class of components. Where nobody is
named the usual utilities are asked, unless the configuration disables them.
-/

namespace ServerInventory

/-- Someone who can be asked about components. -/
structure Collector (α : Type) where
  name : String
  probe : Probe α

/-- The collector that a utility is. -/
def Utility.collector {α : Type} (utility : Utility) (probe : Probe α) : Collector α :=
  ⟨utility.name, probe⟩

/-- Someone who can be asked what the drive at a path can do. -/
structure CapabilityCollector where
  name : String
  transport : Transport
  probe : String → Probe (List (String × Bool))

/-- Who is asked about each class of components. -/
structure Registry where
  /-- The baseline. -/
  inventory : Option (Collector Device) := none
  drives : List (Collector (List Drive)) := []
  nics : Option (Collector (List Nic)) := none
  bmc : Option (Collector Bmc) := none
  bios : Option (Collector Bios) := none
  cpld : Option (Collector Cpld) := none
  storageControllers : List (Collector (List StorageController)) := []
  /-- Asked in place of the usual utility about the drives of their bus. -/
  driveCapabilities : List CapabilityCollector := []

namespace Registry

/-- The utility as a collector, unless it is disabled. -/
def unlessDisabled {α : Type} (config : Config) (utility : Utility) (probe : Probe α) :
    Option (Collector α) :=
  if config.isDisabled utility.name then none else some (utility.collector probe)

/-- The utilities that are asked about drives unless someone else is. -/
def defaultDrives (config : Config) : List (Collector (List Drive)) :=
  [unlessDisabled config .smartctl Smartctl.drives,
   unlessDisabled config .nvme NvmeCli.listedDrives].filterMap id

/-- The registry with the usual utilities where nobody is named. The baseline cannot be
disabled; the board logic and storage controllers have no usual utility. -/
def withDefaults (registry : Registry) (config : Config) : Registry :=
  { registry with
    inventory := registry.inventory.or (some (Utility.lshw.collector Lshw.inventory))
    drives :=
      if registry.drives.isEmpty then defaultDrives config else registry.drives
    nics := registry.nics.or (unlessDisabled config .mlxup Mlxup.queriedNics)
    bmc := registry.bmc.or (unlessDisabled config .ipmitool Ipmitool.controller)
    bios := registry.bios.or (unlessDisabled config .dmidecode Dmidecode.systemFirmware) }

/-- Who is asked what the drive at a path can do: the first collector named for its bus, or
else the usual utility. -/
def capabilityCollector (registry : Registry) (logicalName : String) : CapabilityCollector :=
  let transport := Transport.ofLogicalName logicalName
  (registry.driveCapabilities.find? fun collector => collector.transport == transport).getD
    (match transport with
      | .nvme => ⟨Utility.nvme.name, .nvme, NvmeCli.capabilitiesOf⟩
      | .ata => ⟨Utility.hdparm.name, .ata, Hdparm.capabilitiesOf⟩)

/-! ## In one line -/

/-- A name that may be missing. -/
def describeOption (name : Option String) : String :=
  match name with
  | none => "None"
  | some name => "Some(" ++ Text.quote name ++ ")"

def describeList (names : List String) : String :=
  "[" ++ String.intercalate ", " (names.map Text.quote) ++ "]"

/-- The names of all collectors by class. -/
def describe (registry : Registry) : String :=
  "Collectors \x7b inventory: " ++ describeOption (registry.inventory.map (·.name)) ++
    ", drives: " ++ describeList (registry.drives.map (·.name)) ++
    ", nics: " ++ describeOption (registry.nics.map (·.name)) ++
    ", bmc: " ++ describeOption (registry.bmc.map (·.name)) ++
    ", bios: " ++ describeOption (registry.bios.map (·.name)) ++
    ", cpld: " ++ describeOption (registry.cpld.map (·.name)) ++
    ", storage_controllers: " ++ describeList (registry.storageControllers.map (·.name)) ++
    ", drive_capabilities: " ++ describeList (registry.driveCapabilities.map (·.name)) ++ " \x7d"

end Registry

end ServerInventory
