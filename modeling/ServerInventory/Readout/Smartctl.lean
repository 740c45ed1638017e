import ServerInventory.Device.Component
import ServerInventory.Error
import ServerInventory.Readout.Cleaned
import ServerInventory.Vendor

/-!
What `smartctl` reports: with `--scan -j` the drives that it reaches, with `-i -j` one of
them.
-/

namespace ServerInventory.Smartctl

/-! ## The scan -/

/-- A drive as `smartctl` addresses it. -/
structure Address where
  name : String := ""
  deviceType : String := ""
  protocol : String := ""

def Address.layout : Json.Layout :=
  { names := ["name", "type", "protocol"], listForm := some 0 }

def Address.reader : Json.Reader Address := fun room document => do
  let members ← layout.members? room document
  let name ← members.defaulted "name" .text ""
  let deviceType ← members.defaulted "type" .text ""
  let protocol ← members.defaulted "protocol" .text ""
  return { name, deviceType, protocol }

/-- Whether the drive is on the NVMe bus, where another utility knows more of it. -/
def Address.isNvme (address : Address) : Bool :=
  Text.equalsIgnoringCase address.protocol "nvme" || address.deviceType == "nvme"

def scanReader : Json.Reader (List Address) := fun room document => do
  let members ← ({ names := ["devices"], listForm := some 0 } : Json.Layout).members? room document
  members.defaulted "devices" (.listOf Address.reader) []

/-- The paths of the drives that a scan found, those on the NVMe bus left out. -/
def scan (output : String) : Except Error (List String) :=
  match scanReader.ofText? output with
  | none => .error .json
  | some addresses =>
    .ok ((addresses.filter fun address => !address.isNvme).map Address.name)

/-! ## One drive -/

/-- The parts of a world-wide name. -/
structure Wwn where
  naa : Nat
  oui : Nat
  id : Nat

def Wwn.reader : Json.Reader Wwn := fun room document => do
  let layout : Json.Layout := { names := ["naa", "oui", "id"], listForm := some 0 }
  let members ← layout.members? room document
  let word := Json.Reader.naturalBelow UInt64.size
  let naa ← members.defaulted "naa" word 0
  let oui ← members.defaulted "oui" word 0
  let id ← members.defaulted "id" word 0
  return { naa, oui, id }

/-- A world-wide name in hexadecimal digits: one for the authority, six for the maker and
nine for the drive. -/
def Wwn.text (wwn : Wwn) : String :=
  String.ofList (Chars.hexDigits 1 wwn.naa ++ Chars.hexDigits 6 wwn.oui ++
    Chars.hexDigits 9 wwn.id)

/-- A record of one member. -/
def oneMember {α : Type} (name : String) (reader : Json.Reader α) (absent : α) :
    Json.Reader α := fun room document => do
  let members ← ({ names := [name], listForm := some 0 } : Json.Layout).members? room document
  members.defaulted name reader absent

/-- What `smartctl` says of a drive. -/
structure Info where
  address : Address
  modelFamily : String
  modelName : String
  scsiVendor : String
  scsiProduct : String
  scsiRevision : String
  serialNumber : String
  firmwareVersion : String
  wwn : Option Wwn
  capacityBytes : Int64
  logicalBlockSize : Int64
  rotationRate : Option Int64
  /-- Whether the drive passed its own test. -/
  passed : Option Bool

def Info.layout : Json.Layout :=
  { names := ["device", "model_family", "model_name", "scsi_vendor", "scsi_product",
      "scsi_revision", "serial_number", "firmware_version", "wwn", "user_capacity",
      "logical_block_size", "rotation_rate", "smart_status"]
    listForm := some 0 }

def Info.reader : Json.Reader Info := fun room document => do
  let members ← layout.members? room document
  let address ← members.defaulted "device" Address.reader {}
  let modelFamily ← members.defaulted "model_family" .text ""
  let modelName ← members.defaulted "model_name" .text ""
  let scsiVendor ← members.defaulted "scsi_vendor" .text ""
  let scsiProduct ← members.defaulted "scsi_product" .text ""
  let scsiRevision ← members.defaulted "scsi_revision" .text ""
  let serialNumber ← members.defaulted "serial_number" .text ""
  let firmwareVersion ← members.defaulted "firmware_version" .text ""
  let wwn ← members.defaulted "wwn" (.optional Wwn.reader) none
  let capacityBytes ← members.defaulted "user_capacity" (oneMember "bytes" .int64 0) 0
  let logicalBlockSize ← members.defaulted "logical_block_size" .int64 0
  let rotationRate ← members.defaulted "rotation_rate" (.optional .int64) none
  let passed ←
    members.defaulted "smart_status" (.optional (oneMember "passed" .flag false)) none
  return { address, modelFamily, modelName, scsiVendor, scsiProduct, scsiRevision,
           serialNumber, firmwareVersion, wwn, capacityBytes, logicalBlockSize, rotationRate,
           passed }

namespace Info

/-- The first of two texts, or the second one where the first is empty. -/
def firstOf (first second : String) : String :=
  if first.isEmpty then second else first

def model (info : Info) : String :=
  cleaned (firstOf info.modelName info.scsiProduct)

/-- The vendor that the drive names, or else the one that its model gives away. -/
def vendor (info : Info) : String :=
  if (Text.trim info.scsiVendor).isEmpty then (Vendor.ofDriveModel? info.model).getD ""
  else cleaned info.scsiVendor

def driveType (info : Info) : String :=
  match info.rotationRate with
  | none => ""
  | some rate => if rate = 0 then "SSD" else "HDD"

def smartStatus (info : Info) : String :=
  match info.passed with
  | none => ""
  | some true => "PASSED"
  | some false => "FAILED"

def drive (info : Info) : Drive :=
  { vendor := info.vendor
    model := info.model
    serial := cleaned info.serialNumber
    description := cleaned info.modelFamily
    firmware := Firmware.ofInstalled? (cleaned (firstOf info.firmwareVersion info.scsiRevision))
    protocol := Text.lowercase info.address.protocol
    driveType := info.driveType
    logicalName := info.address.name
    capacityBytes := info.capacityBytes
    blockSizeBytes := info.logicalBlockSize
    wwn := (info.wwn.map Wwn.text).getD ""
    smartStatus := info.smartStatus }

end Info

/-- The drive that `smartctl -i -j` describes. -/
def drive (output : String) : Except Error Drive :=
  match Info.reader.ofText? output with
  | none => .error .json
  | some info => .ok info.drive

end ServerInventory.Smartctl
