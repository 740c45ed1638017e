import ServerInventory.Device.Identity

/-!
The components of a server, one type per class. Each embeds an `Identity`, whose attributes
come first in its record and whose members come first in its document.
-/

namespace ServerInventory

/-- The layout of a component's document. It is an object in which all that is not the
component's own must be proper values. -/
def componentLayout (own : List String) : Json.Layout :=
  { names := Identity.memberNames ++ own, strict := true }

/-! ## Drives -/

/-- A drive on any bus. -/
structure Drive extends Identity where
  protocol : String := ""
  /-- `HDD`, `SSD` or `NVMe-SSD`. -/
  driveType : String := ""
  /-- The path of the drive in the operating system. -/
  logicalName : String := ""
  capacityBytes : Int64 := 0
  blockSizeBytes : Int64 := 0
  wwn : String := ""
  smartStatus : String := ""
  /-- The controller that the drive hangs off. -/
  storageController : String := ""
  /-- Which features are enabled. -/
  capabilities : StringMap Bool := ∅
deriving DecidableEq, Repr, Inhabited

namespace Drive

def record (drive : Drive) : Record :=
  drive.toIdentity.record ++ .ofList [
    ("Protocol", .scalar (.text drive.protocol)),
    ("DriveType", .scalar (.text drive.driveType)),
    ("LogicalName", .scalar (.text drive.logicalName)),
    ("CapacityBytes", .scalar (.int64 drive.capacityBytes)),
    ("BlockSizeBytes", .scalar (.int64 drive.blockSizeBytes)),
    ("WWN", .scalar (.text drive.wwn)),
    ("SmartStatus", .scalar (.text drive.smartStatus)),
    ("StorageController", .scalar (.text drive.storageController)),
    ("Capabilities", .flags drive.capabilities)]

def ofRecord (record : Record) : Drive :=
  { toIdentity := .ofRecord record
    protocol := record.textAt "Protocol"
    driveType := record.textAt "DriveType"
    logicalName := record.textAt "LogicalName"
    capacityBytes := record.int64At "CapacityBytes"
    blockSizeBytes := record.int64At "BlockSizeBytes"
    wwn := record.textAt "WWN"
    smartStatus := record.textAt "SmartStatus"
    storageController := record.textAt "StorageController"
    capabilities := record.flagsAt "Capabilities" }

instance : Recordable Drive := ⟨record, ofRecord⟩

instance : Identified Drive := ⟨fun drive => drive.serial⟩

def document (drive : Drive) : Json :=
  .record (drive.toIdentity.members ++
    [("protocol", .text drive.protocol),
     ("drive_type", .text drive.driveType),
     ("logical_name", .text drive.logicalName),
     ("capacity_bytes", .ofInt drive.capacityBytes.toInt),
     ("block_size_bytes", .ofInt drive.blockSizeBytes.toInt),
     ("wwn", .text drive.wwn),
     ("smart_status", .text drive.smartStatus),
     ("storage_controller", .text drive.storageController)] ++
    drive.capabilities.memberUnlessEmpty "capabilities" .flag)

def layout : Json.Layout :=
  componentLayout ["protocol", "drive_type", "logical_name", "capacity_bytes",
    "block_size_bytes", "wwn", "smart_status", "storage_controller", "capabilities"]

def reader : Json.Reader Drive := fun room document => do
  let members ← layout.members? room document
  let toIdentity ← Identity.ofMembers? members
  let protocol ← members.required "protocol" .text
  let driveType ← members.required "drive_type" .text
  let logicalName ← members.required "logical_name" .text
  let capacityBytes ← members.required "capacity_bytes" .int64
  let blockSizeBytes ← members.required "block_size_bytes" .int64
  let wwn ← members.required "wwn" .text
  let smartStatus ← members.required "smart_status" .text
  let storageController ← members.required "storage_controller" .text
  let capabilities ← members.defaulted "capabilities" (.mapOf .flag) ∅
  return { toIdentity, protocol, driveType, logicalName, capacityBytes, blockSizeBytes, wwn,
           smartStatus, storageController, capabilities }

end Drive

/-! ## Network cards -/

/-- A network card. Its serial number is its MAC address. -/
structure Nic extends Identity where
  pciAddress : String := ""
  speedBits : Int64 := 0
  physicalId : String := ""
deriving DecidableEq, Repr, Inhabited

namespace Nic

def record (nic : Nic) : Record :=
  nic.toIdentity.record ++ .ofList [
    ("PCIAddress", .scalar (.text nic.pciAddress)),
    ("SpeedBits", .scalar (.int64 nic.speedBits)),
    ("PhysicalID", .scalar (.text nic.physicalId))]

def ofRecord (record : Record) : Nic :=
  { toIdentity := .ofRecord record
    pciAddress := record.textAt "PCIAddress"
    speedBits := record.int64At "SpeedBits"
    physicalId := record.textAt "PhysicalID" }

instance : Recordable Nic := ⟨record, ofRecord⟩

instance : Identified Nic := ⟨fun nic => nic.serial⟩

def document (nic : Nic) : Json :=
  .record (nic.toIdentity.members ++
    [("pci_address", .text nic.pciAddress),
     ("speed_bits", .ofInt nic.speedBits.toInt),
     ("physical_id", .text nic.physicalId)])

def layout : Json.Layout :=
  componentLayout ["pci_address", "speed_bits", "physical_id"]

def reader : Json.Reader Nic := fun room document => do
  let members ← layout.members? room document
  let toIdentity ← Identity.ofMembers? members
  let pciAddress ← members.required "pci_address" .text
  let speedBits ← members.required "speed_bits" .int64
  let physicalId ← members.required "physical_id" .text
  return { toIdentity, pciAddress, speedBits, physicalId }

end Nic

/-! ## Management controller -/

/-- The controller through which the server is managed. -/
structure Bmc extends Identity where
  id : String := ""
  ipmiVersion : String := ""
deriving DecidableEq, Repr, Inhabited

namespace Bmc

def record (bmc : Bmc) : Record :=
  bmc.toIdentity.record ++ .ofList [
    ("ID", .scalar (.text bmc.id)),
    ("IPMIVersion", .scalar (.text bmc.ipmiVersion))]

def ofRecord (record : Record) : Bmc :=
  { toIdentity := .ofRecord record
    id := record.textAt "ID"
    ipmiVersion := record.textAt "IPMIVersion" }

instance : Recordable Bmc := ⟨record, ofRecord⟩

def document (bmc : Bmc) : Json :=
  .record (bmc.toIdentity.members ++
    [("id", .text bmc.id), ("ipmi_version", .text bmc.ipmiVersion)])

def layout : Json.Layout :=
  componentLayout ["id", "ipmi_version"]

def reader : Json.Reader Bmc := fun room document => do
  let members ← layout.members? room document
  let toIdentity ← Identity.ofMembers? members
  let id ← members.required "id" .text
  let ipmiVersion ← members.required "ipmi_version" .text
  return { toIdentity, id, ipmiVersion }

end Bmc

/-! ## System firmware -/

/-- The system firmware. -/
structure Bios extends Identity where
  releaseDate : String := ""
  sizeBytes : Int64 := 0
  capacityBytes : Int64 := 0
deriving DecidableEq, Repr, Inhabited

namespace Bios

def record (bios : Bios) : Record :=
  bios.toIdentity.record ++ .ofList [
    ("ReleaseDate", .scalar (.text bios.releaseDate)),
    ("SizeBytes", .scalar (.int64 bios.sizeBytes)),
    ("CapacityBytes", .scalar (.int64 bios.capacityBytes))]

def ofRecord (record : Record) : Bios :=
  { toIdentity := .ofRecord record
    releaseDate := record.textAt "ReleaseDate"
    sizeBytes := record.int64At "SizeBytes"
    capacityBytes := record.int64At "CapacityBytes" }

instance : Recordable Bios := ⟨record, ofRecord⟩

def document (bios : Bios) : Json :=
  .record (bios.toIdentity.members ++
    [("release_date", .text bios.releaseDate),
     ("size_bytes", .ofInt bios.sizeBytes.toInt),
     ("capacity_bytes", .ofInt bios.capacityBytes.toInt)])

def layout : Json.Layout :=
  componentLayout ["release_date", "size_bytes", "capacity_bytes"]

def reader : Json.Reader Bios := fun room document => do
  let members ← layout.members? room document
  let toIdentity ← Identity.ofMembers? members
  let releaseDate ← members.required "release_date" .text
  let sizeBytes ← members.required "size_bytes" .int64
  let capacityBytes ← members.required "capacity_bytes" .int64
  return { toIdentity, releaseDate, sizeBytes, capacityBytes }

end Bios

/-! ## Board logic -/

/-- The programmable logic of the board. -/
structure Cpld extends Identity where
deriving DecidableEq, Repr, Inhabited

namespace Cpld

def record (cpld : Cpld) : Record :=
  cpld.toIdentity.record

def ofRecord (record : Record) : Cpld :=
  { toIdentity := .ofRecord record }

instance : Recordable Cpld := ⟨record, ofRecord⟩

def document (cpld : Cpld) : Json :=
  .record cpld.toIdentity.members

def reader : Json.Reader Cpld := fun room document => do
  let members ← (componentLayout []).members? room document
  let toIdentity ← Identity.ofMembers? members
  return { toIdentity }

end Cpld

/-! ## Storage controllers -/

/-- A controller that drives hang off. -/
structure StorageController extends Identity where
  pciAddress : String := ""
  supportedRaid : String := ""
  /-- The bus on the side of the host. -/
  hostBus : String := ""
  physicalId : String := ""
  maxPhysicalDisks : Int32 := 0
deriving DecidableEq, Repr, Inhabited

namespace StorageController

def record (controller : StorageController) : Record :=
  controller.toIdentity.record ++ .ofList [
    ("PCIAddress", .scalar (.text controller.pciAddress)),
    ("SupportedRAID", .scalar (.text controller.supportedRaid)),
    ("Interface", .scalar (.text controller.hostBus)),
    ("PhysicalID", .scalar (.text controller.physicalId)),
    ("MaxPhysicalDisks", .scalar (.int32 controller.maxPhysicalDisks))]

def ofRecord (record : Record) : StorageController :=
  { toIdentity := .ofRecord record
    pciAddress := record.textAt "PCIAddress"
    supportedRaid := record.textAt "SupportedRAID"
    hostBus := record.textAt "Interface"
    physicalId := record.textAt "PhysicalID"
    maxPhysicalDisks := record.int32At "MaxPhysicalDisks" }

instance : Recordable StorageController := ⟨record, ofRecord⟩

instance : Identified StorageController := ⟨fun controller => controller.serial⟩

def document (controller : StorageController) : Json :=
  .record (controller.toIdentity.members ++
    [("pci_address", .text controller.pciAddress),
     ("supported_raid", .text controller.supportedRaid),
     ("interface", .text controller.hostBus),
     ("physical_id", .text controller.physicalId),
     ("max_physical_disks", .ofInt controller.maxPhysicalDisks.toInt)])

def layout : Json.Layout :=
  componentLayout ["pci_address", "supported_raid", "interface", "physical_id",
    "max_physical_disks"]

def reader : Json.Reader StorageController := fun room document => do
  let members ← layout.members? room document
  let toIdentity ← Identity.ofMembers? members
  let pciAddress ← members.required "pci_address" .text
  let supportedRaid ← members.required "supported_raid" .text
  let hostBus ← members.required "interface" .text
  let physicalId ← members.required "physical_id" .text
  let maxPhysicalDisks ← members.required "max_physical_disks" .int32
  return { toIdentity, pciAddress, supportedRaid, hostBus, physicalId, maxPhysicalDisks }

end StorageController

end ServerInventory
