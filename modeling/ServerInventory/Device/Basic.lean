import ServerInventory.Device.Component

/-!
A server with all its components.
-/

namespace ServerInventory

/-- A server. The identity is that of the machine as a whole. -/
structure Device extends Identity where
  drives : List Drive := []
  nics : List Nic := []
  bmc : Bmc := {}
  bios : Bios := {}
  cpld : Cpld := {}
  storageControllers : List StorageController := []
deriving DecidableEq, Repr, Inhabited

namespace Device

/-- A server of which only the identity is known. -/
def ofIdentity (vendor model serial : String) : Device :=
  { vendor, model, serial }

/-- The first drive at a path of the operating system. -/
def driveAt? (device : Device) (logicalName : String) : Option Drive :=
  device.drives.find? fun drive => drive.logicalName == logicalName

/-- The number of components; the management controller, the system firmware and the board
logic count whether anything is known of them or not. -/
def componentCount (device : Device) : Nat :=
  device.drives.length + device.nics.length + device.storageControllers.length + 3

def document (device : Device) : Json :=
  .record (device.toIdentity.members ++
    [("drives", .list (device.drives.map Drive.document)),
     ("nics", .list (device.nics.map Nic.document)),
     ("bmc", device.bmc.document),
     ("bios", device.bios.document),
     ("cpld", device.cpld.document),
     ("storage_controllers", .list (device.storageControllers.map StorageController.document))])

def layout : Json.Layout :=
  componentLayout ["drives", "nics", "bmc", "bios", "cpld", "storage_controllers"]

def reader : Json.Reader Device := fun room document => do
  let members ← layout.members? room document
  let toIdentity ← Identity.ofMembers? members
  let drives ← members.defaulted "drives" (.listOf Drive.reader) []
  let nics ← members.defaulted "nics" (.listOf Nic.reader) []
  let bmc ← members.defaulted "bmc" Bmc.reader {}
  let bios ← members.defaulted "bios" Bios.reader {}
  let cpld ← members.defaulted "cpld" Cpld.reader {}
  let storageControllers ←
    members.defaulted "storage_controllers" (.listOf StorageController.reader) []
  return { toIdentity, drives, nics, bmc, bios, cpld, storageControllers }

end Device

end ServerInventory
