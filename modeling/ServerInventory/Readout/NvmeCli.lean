import ServerInventory.Device.Component
import ServerInventory.Error
import ServerInventory.Readout.Cleaned
import ServerInventory.Vendor

/-!
What `nvme` reports: with `list -o json` the drives on the NVMe bus, with `id-ctrl -o json`
what the controller of one of them can do.
-/

namespace ServerInventory.NvmeCli

/-! ## The list of drives -/

/-- What `nvme list` says of a drive. -/
structure Entry where
  devicePath : String
  modelNumber : String
  serialNumber : String
  firmware : String
  physicalSize : Int64
  sectorSize : Int64

def Entry.layout : Json.Layout :=
  { names := ["DevicePath", "ModelNumber", "SerialNumber", "Firmware", "PhysicalSize",
      "SectorSize"]
    listForm := some 0 }

def Entry.reader : Json.Reader Entry := fun room document => do
  let members ← layout.members? room document
  let devicePath ← members.defaulted "DevicePath" .text ""
  let modelNumber ← members.defaulted "ModelNumber" .text ""
  let serialNumber ← members.defaulted "SerialNumber" .text ""
  let firmware ← members.defaulted "Firmware" .text ""
  let physicalSize ← members.defaulted "PhysicalSize" .int64 0
  let sectorSize ← members.defaulted "SectorSize" .int64 0
  return { devicePath, modelNumber, serialNumber, firmware, physicalSize, sectorSize }

def Entry.drive (entry : Entry) : Drive :=
  let model := cleaned entry.modelNumber
  { vendor := (Vendor.ofDriveModel? model).getD ""
    model
    serial := cleaned entry.serialNumber
    firmware := Firmware.ofInstalled? (cleaned entry.firmware)
    protocol := "nvme"
    driveType := "NVMe-SSD"
    logicalName := entry.devicePath
    capacityBytes := entry.physicalSize
    blockSizeBytes := entry.sectorSize }

def listReader : Json.Reader (List Entry) := fun room document => do
  let members ← ({ names := ["Devices"], listForm := some 0 } : Json.Layout).members? room document
  members.defaulted "Devices" (.listOf Entry.reader) []

/-- The drives of `nvme list -o json`, which prints nothing where there is no drive. -/
def drives (output : String) : Except Error (List Drive) :=
  if Chars.allBlank output.toList then .ok []
  else match listReader.ofText? output with
    | none => .error .json
    | some entries => .ok (entries.map Entry.drive)

/-! ## The controller of a drive -/

/-- Feature bits of one word, from the lowest on. -/
def adminCommands : List String :=
  ["security-send-receive", "format-nvm", "firmware-download-commit",
    "namespace-management", "device-self-test", "directives", "nvme-mi-send-receive",
    "virtualization-management", "doorbell-buffer-config"]

def formatAttributes : List String :=
  ["format-applies-to-all-namespaces", "secure-erase-applies-to-all-namespaces",
    "cryptographic-erase"]

def sanitizeCapabilities : List String :=
  ["sanitize-crypto-erase", "sanitize-block-erase", "sanitize-overwrite"]

/-- The named bits of a word, from the lowest on. -/
def features (names : List String) (word : Nat) : List (String × Bool) :=
  names.zipIdx.map fun (name, bit) => (name, word.testBit bit)

/-- What `nvme id-ctrl -o json` says of the features of a drive. -/
def capabilities (output : String) : Except Error (List (String × Bool)) :=
  let reader : Json.Reader (List (String × Bool)) := fun room document => do
    let layout : Json.Layout := { names := ["oacs", "fna", "sanicap"], listForm := some 0 }
    let members ← layout.members? room document
    let word := Json.Reader.naturalBelow UInt32.size
    let oacs ← members.defaulted "oacs" word 0
    let fna ← members.defaulted "fna" word 0
    let sanicap ← members.defaulted "sanicap" word 0
    return features adminCommands oacs ++ features formatAttributes fna ++
      features sanitizeCapabilities sanicap
  match reader.ofText? output with
  | none => .error .json
  | some found => .ok found

end ServerInventory.NvmeCli
