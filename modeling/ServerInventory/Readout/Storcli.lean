import ServerInventory.Device.Component
import ServerInventory.Error
import ServerInventory.Readout.Cleaned
import ServerInventory.Readout.Size
import ServerInventory.Vendor

/-!
What `storcli64 … show all J` reports: for each controller that could be asked, what it is
and which drives hang off it. A drive is spread over three members of the answer: a row in
a table, and its attributes in a member with details, which bears the name of the table.
-/

namespace ServerInventory.Storcli

/-- A member as text: a text cleaned, a number in digits, anything else empty. -/
def textAt (document : Json) (name : String) : String :=
  match document.member? name with
  | some (.quoted content) => cleaned (content.getD "")
  | some (.numeral numeral) => (numeral.number?.map Json.Number.text).getD ""
  | _ => ""

/-- A member, or null. -/
def memberOrNull (document : Json) (name : String) : Json :=
  (document.member? name).getD .null

/-- Whether the controller behind an entry answered. -/
def answered (entry : Json) : Bool :=
  let status := ((entry.member? "Command Status").bind (Json.member? "Status")).bind Json.text?
  status == some "Success"

/-- The answers of the controllers. -/
def answers (output : String) : Except Error (List Json) :=
  match Json.settledOfText? output with
  | none => .error .json
  | some root =>
    match (root.member? "Controllers").bind Json.list? with
    | none => .error (.parse "storcli" "missing Controllers array")
    | some entries =>
      .ok ((entries.filter answered).filterMap (Json.member? "Response Data"))

/-! ## Controllers -/

/-- The firmware of a controller, with the number of the package it came in. -/
def firmware? (version : Json) : Option Firmware :=
  let package := textAt version "Firmware Package Build"
  (Firmware.ofInstalled? (textAt version "Firmware Version")).map fun firmware =>
    if package.isEmpty then firmware
    else { firmware with metadata := firmware.metadata.insert "package_build" package }

def controller? (answer : Json) : Option StorageController :=
  (answer.member? "Basics").map fun basics =>
    let capabilities := memberOrNull answer "Capabilities"
    { vendor := Vendor.broadcom
      model := textAt basics "Model"
      serial := textAt basics "Serial Number"
      firmware := firmware? (memberOrNull answer "Version")
      pciAddress := textAt basics "PCI Address"
      supportedRaid := textAt capabilities "RAID Level Supported"
      hostBus := Text.lowercase (textAt capabilities "Supported Drives")
      physicalId := textAt basics "Controller" }

/-! ## Drives -/

/-- How the name of a member with the details of a drive ends. -/
def detailEnding : String := " - Detailed Information"

/-- The first row of the table of a drive, or null. -/
def summaryRow (answer : Json) (name : String) : Json :=
  match (answer.member? name).bind Json.list? with
  | some (row :: _) => row
  | _ => .null

/-- The vendor that the drive names, or else the one that its model gives away; `ATA` is no
vendor. -/
def vendor (manufacturer model : String) : String :=
  if manufacturer.isEmpty || Text.equalsIgnoringCase manufacturer "ATA" then
    (Vendor.ofDriveModel? model).getD ""
  else manufacturer

/-- The number of the controller in the name of a drive. -/
def controllerOfName (name : String) : String :=
  Text.before '/' (Text.stripAllStart name "Drive /c")

/-- The drive that a member of an answer gives the details of. -/
def drive? (answer : Json) (member : Json.Quoted × Json) : Option Drive := do
  let key ← member.1
  let name ← Text.stripEnd? key detailEnding
  let attributes ← member.2.member? (name ++ " Device attributes")
  let summary := summaryRow answer name
  let model := textAt attributes "Model Number"
  return {
    vendor := vendor (textAt attributes "Manufacturer Id") model
    model
    serial := textAt attributes "SN"
    firmware := Firmware.ofInstalled? (textAt attributes "Firmware Revision")
    protocol := Text.lowercase (textAt summary "Intf")
    driveType := textAt summary "Med"
    capacityBytes := (Size.decimalBytes? (textAt summary "Size")).getD 0
    wwn := Text.lowercase (textAt attributes "WWN")
    storageController := controllerOfName name }

def drivesOf (answer : Json) : List Drive :=
  answer.members.filterMap (drive? answer)

/-- The controllers and the drives that `storcli64 … show all J` reports. -/
def report (output : String) : Except Error (List StorageController × List Drive) := do
  let answers ← answers output
  return (answers.filterMap controller?, answers.flatMap drivesOf)

end ServerInventory.Storcli
