import ServerInventory.Device.Basic
import ServerInventory.Error
import ServerInventory.Readout.Cleaned
import ServerInventory.Readout.Size
import ServerInventory.Text.Lines

/-!
What `lshw -json` reports: a tree of hardware nodes, from which the server, its network
cards, storage controllers, drives and system firmware are read.
-/

namespace ServerInventory.Lshw

/-- What a node says of itself. -/
structure NodeInfo where
  id : String := ""
  classification : String := ""
  description : String := ""
  product : String := ""
  vendor : String := ""
  serial : String := ""
  version : String := ""
  businfo : String := ""
  physid : String := ""
  date : String := ""
  /-- A path, or a list of paths. -/
  logicalname : Json := .null
  size : Option Nat := none
  capacity : Option Nat := none
  /-- An object of settings. -/
  configuration : Json := .object []

/-- A node with the nodes below it. -/
inductive Node where
  | mk (info : NodeInfo) (children : List Node)

/-! ## Reading the tree -/

def layout : Json.Layout :=
  { names := ["id", "class", "description", "product", "vendor", "serial", "version",
      "businfo", "physid", "date", "logicalname", "size", "capacity", "configuration",
      "children"]
    listForm := some 0 }

/-- A natural number of 64 bits, or null. -/
def size? : Json.Reader (Option Nat) :=
  .optional (.naturalBelow UInt64.size)

def NodeInfo.ofMembers? (members : Json.Members) : Option NodeInfo := do
  let id ← members.defaulted "id" .text ""
  let classification ← members.defaulted "class" .text ""
  let description ← members.defaulted "description" .text ""
  let product ← members.defaulted "product" .text ""
  let vendor ← members.defaulted "vendor" .text ""
  let serial ← members.defaulted "serial" .text ""
  let version ← members.defaulted "version" .text ""
  let businfo ← members.defaulted "businfo" .text ""
  let physid ← members.defaulted "physid" .text ""
  let date ← members.defaulted "date" .text ""
  let logicalname ← members.defaulted "logicalname" .any .null
  let size ← members.defaulted "size" size? none
  let capacity ← members.defaulted "capacity" size? none
  let configuration ← members.defaulted "configuration" .object (.object [])
  return { id, classification, description, product, vendor, serial, version, businfo,
           physid, date, logicalname, size, capacity, configuration }

/-- A tree of at most `levels` levels. -/
def Node.readWithin : (levels : Nat) → Json.Reader Node
  | 0, _, _ => none
  | levels + 1, room, document => do
    let members ← layout.members? room document
    let info ← NodeInfo.ofMembers? members
    let children ← members.defaulted "children" (.listOf (readWithin levels)) []
    return .mk info children

/-- A tree. Each of its levels opens an object and a list, so the room bounds the levels. -/
def Node.reader : Json.Reader Node := fun room document =>
  readWithin (room + 1) room document

/-! ## What a node stands for -/

namespace NodeInfo

/-- The path of the node in the operating system, the first of several. -/
def logicalName (node : NodeInfo) : String :=
  match node.logicalname with
  | .quoted content => content.getD ""
  | .list names => (names.findSome? Json.text?).getD ""
  | _ => ""

/-- A setting that is a text. -/
def setting (node : NodeInfo) (name : String) : String :=
  match (node.configuration.member? name).bind Json.text? with
  | none => ""
  | some value => cleaned value

def identity (node : NodeInfo) : Identity :=
  { vendor := cleaned node.vendor
    model := cleaned node.product
    serial := cleaned node.serial
    description := cleaned node.description
    productName := cleaned node.product }

/-- The address of the node on the PCI bus, empty for a node elsewhere. -/
def pciAddress (node : NodeInfo) : String :=
  (Text.stripStart? node.businfo "pci@").getD ""

def bios (node : NodeInfo) : Bios :=
  { toIdentity :=
      { node.identity with firmware := some (.ofInstalled (cleaned node.version)) }
    releaseDate := cleaned node.date
    sizeBytes := Size.ofNatural? node.size
    capacityBytes := Size.ofNatural? node.capacity }

def nic (node : NodeInfo) : Nic :=
  let identity := node.identity
  let version? := (Chars.words (node.setting "firmware").toList).head?
  { toIdentity :=
      { identity with
        serial := Text.lowercase identity.serial
        firmware := version?.map fun version => .ofInstalled (String.ofList version) }
    pciAddress := node.pciAddress
    speedBits := Size.ofNatural? (node.capacity.or node.size)
    physicalId := node.physid }

/-- The bus of a storage controller as far as its names tell it. -/
def hostBus (node : NodeInfo) : String :=
  let description := Text.lowercase node.description
  if Text.contains description "nvme" || Text.contains (Text.lowercase node.product) "nvme" then
    "nvme"
  else if Text.contains description "sas" || Text.contains description "raid" then "sas"
  else if Text.contains description "sata" || Text.contains description "ahci" then "sata"
  else ""

def storageController (node : NodeInfo) : StorageController :=
  { toIdentity := node.identity
    pciAddress := node.pciAddress
    hostBus := node.hostBus
    physicalId := node.physid }

/-- The bus of a drive as far as its address tells it. -/
def driveProtocol (node : NodeInfo) : String :=
  match Text.before '@' node.businfo with
  | "nvme" => "nvme"
  | "scsi" => if (node.setting "ansiversion").isEmpty then "sata" else "sas"
  | _ => ""

def drive (node : NodeInfo) : Drive :=
  { toIdentity :=
      { node.identity with firmware := Firmware.ofInstalled? (cleaned node.version) }
    protocol := node.driveProtocol
    driveType := if Text.contains node.logicalName "nvme" then "NVMe-SSD" else ""
    logicalName := node.logicalName
    capacityBytes := Size.ofNatural? node.size
    blockSizeBytes := (Text.int64? (node.setting "logicalsectorsize")).getD 0 }

/-- Whether the node is a drive with a medium of its own in it. -/
def isDrive (node : NodeInfo) : Bool :=
  node.classification == "disk" && !Text.beginsWith node.id "cdrom" && node.size.isSome

end NodeInfo

/-! ## The server -/

/-- A server with what one node adds to it. -/
def addNode (device : Device) (node : NodeInfo) : Device :=
  if node.classification = "memory" ∧ node.id = "firmware" then
    { device with bios := node.bios }
  else if node.classification = "network" then
    { device with nics := device.nics ++ [node.nic] }
  else if node.classification = "storage" then
    { device with storageControllers := device.storageControllers ++ [node.storageController] }
  else if node.isDrive then
    { device with drives := device.drives ++ [node.drive] }
  else device

mutual

/-- A server with what a tree adds to it, each node before the nodes below it. -/
def addTree (device : Device) : Node → Device
  | .mk info children => addTrees (addNode device info) children

def addTrees (device : Device) : List Node → Device
  | [] => device
  | tree :: trees => addTrees (addTree device tree) trees

end

/-- The server that a tree describes; its identity is that of the root. -/
def deviceOfTree : Node → Device
  | .mk info children => addTree { toIdentity := info.identity } (.mk info children)

/-- The tree of a document, which is one tree or a list with a tree in front. -/
def root? : Json → Option Json
  | .list (first :: _) => some first
  | .object members => some (.object members)
  | _ => none

/-- The server that `lshw -json` reports. -/
def device (output : String) : Except Error Device :=
  match Json.settledOfText? output with
  | none => .error .json
  | some document =>
    match root? document with
    | none => .error (.parse "lshw" "expected a device tree object")
    | some root =>
      match Node.reader Json.depthLimit root with
      | none => .error .json
      | some tree => .ok (deviceOfTree tree)

end ServerInventory.Lshw
