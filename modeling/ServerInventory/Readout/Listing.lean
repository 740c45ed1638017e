import ServerInventory.Device.Component
import ServerInventory.Readout.Block
import ServerInventory.Readout.Mac
import ServerInventory.Readout.Size
import ServerInventory.Vendor

/-!
What the utilities report that print blocks of `key: value` lines: `mlxup`, `mvcli`,
`msecli`, `ipmitool` and `dmidecode`.
-/

namespace ServerInventory

/-! ## Network cards -/

namespace Mlxup

def marker : String := "Device Type"

/-- The versions in the line of a block that begins with the word `FW`: the running one
and the one that the vendor offers. -/
def versions (lines : List Chars) : Firmware :=
  match (lines.map Chars.words).find? fun columns => columns.head? == some ['F', 'W'] with
  | none => {}
  | some columns =>
    let column (index : Nat) : String :=
      ((columns[index]?).map fun word => cleaned (String.ofList word)).getD ""
    { installed := column 1, available := column 2 }

/-- The firmware of a block, if its running version is known. -/
def firmware? (lines : List Chars) (block : Block) : Option Firmware :=
  let versions := versions lines
  let firmware :=
    match block.value? ["PSID"] with
    | none => versions
    | some psid => { versions with metadata := versions.metadata.insert "psid" psid }
  if firmware.installed.isEmpty then none else some firmware

def nic (lines : List Chars) : Nic :=
  let block := Block.ofLines lines
  { vendor := Vendor.mellanox
    model := block.text ["Part Number"]
    serial := ((block.value? ["Base MAC"]).map Mac.format).getD ""
    description := block.text ["Description"]
    productName := block.text [marker]
    firmware := firmware? lines block
    pciAddress := block.text ["PCI Device Name"] }

/-- The network cards that `mlxup --query` lists. -/
def nics (output : String) : List Nic :=
  (Block.linesOfText marker output).map nic

end Mlxup

/-! ## Marvell controllers and their drives -/

namespace Mvcli

def adapterMarker : String := "Adapter ID"

def driveMarker : String := "PD ID"

def storageController (block : Block) : StorageController :=
  { vendor := Vendor.marvell
    model := block.text ["Product"]
    description := block.text ["Sub Product"]
    firmware := Firmware.ofInstalled? (block.text ["Firmware version"])
    supportedRaid := block.text ["Supported RAID mode"]
    hostBus := Text.lowercase (block.text ["Supported port type"])
    physicalId := block.text [adapterMarker]
    maxPhysicalDisks := ((block.value? ["Max PD supported"]).bind Text.int32?).getD 0 }

/-- The controllers that `mvcli info -o hba` lists. -/
def storageControllers (output : String) : List StorageController :=
  (Block.ofText adapterMarker output).map storageController

def drive (block : Block) : Drive :=
  { model := block.text ["model", "Model"]
    serial := block.text ["Serial"]
    firmware := Firmware.ofInstalled? (block.text ["FW version"])
    protocol := Text.lowercase (block.text ["Port type"])
    driveType := block.text ["Device type"]
    capacityBytes := ((block.value? ["Size"]).map Size.kibibytes).getD 0
    storageController := block.text [adapterMarker] }

/-- The drives that `mvcli info -o pd` lists. -/
def drives (output : String) : List Drive :=
  (Block.ofText driveMarker output).map drive

end Mvcli

/-! ## Micron drives -/

namespace Msecli

def marker : String := "Device Name"

def drive (block : Block) : Drive :=
  { vendor := Vendor.micron
    model := block.text ["Model No"]
    serial := block.text ["Serial No"]
    oem := true
    firmware := Firmware.ofInstalled? (block.text ["FW-Rev"])
    logicalName := block.text [marker]
    capacityBytes := (Size.decimalBytes? (block.text ["Total Size"])).getD 0
    smartStatus := block.text ["Drive Status"] }

/-- The drives that `msecli -L` lists. -/
def drives (output : String) : List Drive :=
  (Block.ofText marker output).map drive

end Msecli

/-! ## Management controller -/

namespace Ipmitool

def marker : String := "Device ID"

/-- The product of a management controller, empty where it has only a number. -/
def product (block : Block) : String :=
  let product := block.text ["Product Name"]
  if Text.beginsWith (Text.lowercase product) "unknown" then "" else product

def bmcOfBlock (block : Block) : Bmc :=
  { vendor := block.text ["Manufacturer Name"]
    model := product block
    productName := product block
    firmware := Firmware.ofInstalled? (block.text ["Firmware Revision"])
    id := block.text [marker]
    ipmiVersion := block.text ["IPMI Version"] }

/-- The management controller that `ipmitool mc info` describes, if it does. -/
def bmc? (output : String) : Option Bmc :=
  (Block.ofText marker output).head?.map bmcOfBlock

end Ipmitool

/-! ## System firmware -/

namespace Dmidecode

def marker : String := "BIOS Information"

def biosOfBlock (block : Block) : Bios :=
  { vendor := block.text ["Vendor"]
    description := marker
    firmware := Firmware.ofInstalled? (block.text ["Version"])
    releaseDate := block.text ["Release Date"]
    sizeBytes := Size.binaryBytes (block.text ["Runtime Size"])
    capacityBytes := Size.binaryBytes (block.text ["ROM Size"]) }

/-- The system firmware that `dmidecode -t 0` describes, if it does. -/
def bios? (output : String) : Option Bios :=
  (Block.ofText marker output).head?.map biosOfBlock

end Dmidecode

end ServerInventory
