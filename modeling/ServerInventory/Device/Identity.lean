import ServerInventory.Json.Reader
import ServerInventory.Record

/-!
What every component has: who made it, its serial number, its firmware. Each type comes
with its two outside forms: the record that is compared and merged, and the JSON document
in which it is stored.
-/

namespace ServerInventory

/-! ## Firmware -/

/-- The firmware versions of a component. -/
structure Firmware where
  /-- The version that runs. -/
  installed : String := ""
  /-- The version that the vendor's utility offers. -/
  available : String := ""
  metadata : StringMap String := ∅
deriving DecidableEq, Repr, Inhabited

namespace Firmware

/-- The firmware of which only the running version is known. -/
def ofInstalled (version : String) : Firmware :=
  { installed := version }

/-- The firmware of a running version, if the version is known. -/
def ofInstalled? (version : String) : Option Firmware :=
  if version.isEmpty then none else some (ofInstalled version)

def record (firmware : Firmware) : Record :=
  .ofList [
    ("Installed", .scalar (.text firmware.installed)),
    ("Available", .scalar (.text firmware.available)),
    ("Metadata", .texts firmware.metadata)]

def ofRecord (record : Record) : Firmware :=
  { installed := record.textAt "Installed"
    available := record.textAt "Available"
    metadata := record.textsAt "Metadata" }

instance : Recordable Firmware := ⟨record, ofRecord⟩

end Firmware

/-- A map in a document, left out when it is empty. -/
def StringMap.memberUnlessEmpty {α : Type} (name : String) (document : α → Json)
    (map : StringMap α) : List (String × Json) :=
  if map.isEmpty then []
  else [(name, .record (map.entries.map fun entry => (entry.1, document entry.2)))]

namespace Firmware

def document (firmware : Firmware) : Json :=
  .record ([("installed", .text firmware.installed)] ++
    (if firmware.available.isEmpty then [] else [("available", .text firmware.available)]) ++
    firmware.metadata.memberUnlessEmpty "metadata" .text)

def layout : Json.Layout :=
  { names := ["installed", "available", "metadata"], listForm := some 1 }

def reader : Json.Reader Firmware := fun room document => do
  let members ← layout.members? room document
  let installed ← members.required "installed" .text
  let available ← members.defaulted "available" .text ""
  let metadata ← members.defaulted "metadata" (.mapOf .text) ∅
  return { installed, available, metadata }

end Firmware

/-! ## Identity -/

/-- What every component has. -/
structure Identity where
  vendor : String := ""
  model : String := ""
  serial : String := ""
  description : String := ""
  productName : String := ""
  /-- Whether a utility of the vendor reported the component, and not a general one. -/
  oem : Bool := false
  firmware : Option Firmware := none
  metadata : StringMap String := ∅
deriving DecidableEq, Repr, Inhabited

namespace Identity

/-- The running firmware version, empty if it is not known. -/
def firmwareInstalled (identity : Identity) : String :=
  match identity.firmware with
  | none => ""
  | some firmware => firmware.installed

/-- The attribute in which a record holds the firmware. -/
def firmwareField : Option Firmware → Field
  | none => .absent (Firmware.record {})
  | some firmware => .present firmware.record

def record (identity : Identity) : Record :=
  .ofList [
    ("Vendor", .scalar (.text identity.vendor)),
    ("Model", .scalar (.text identity.model)),
    ("Serial", .scalar (.text identity.serial)),
    ("Description", .scalar (.text identity.description)),
    ("ProductName", .scalar (.text identity.productName)),
    ("Oem", .scalar (.flag identity.oem)),
    ("Firmware", firmwareField identity.firmware),
    ("Metadata", .texts identity.metadata)]

def ofRecord (record : Record) : Identity :=
  { vendor := record.textAt "Vendor"
    model := record.textAt "Model"
    serial := record.textAt "Serial"
    description := record.textAt "Description"
    productName := record.textAt "ProductName"
    oem := record.flagAt "Oem"
    firmware := (record.recordAt "Firmware").map Firmware.ofRecord
    metadata := record.textsAt "Metadata" }

instance : Recordable Identity := ⟨record, ofRecord⟩

/-- The members that an identity contributes to the document of its component. -/
def members (identity : Identity) : List (String × Json) :=
  [("vendor", .text identity.vendor),
   ("model", .text identity.model),
   ("serial", .text identity.serial),
   ("description", .text identity.description),
   ("product_name", .text identity.productName),
   ("oem", .flag identity.oem),
   ("firmware", (identity.firmware.map Firmware.document).getD .null)] ++
  identity.metadata.memberUnlessEmpty "metadata" .text

def memberNames : List String :=
  ["vendor", "model", "serial", "description", "product_name", "oem", "firmware", "metadata"]

/-- The identity among the members of a document. -/
def ofMembers? (members : Json.Members) : Option Identity := do
  let vendor ← members.required "vendor" .text
  let model ← members.required "model" .text
  let serial ← members.required "serial" .text
  let description ← members.required "description" .text
  let productName ← members.required "product_name" .text
  let oem ← members.required "oem" .flag
  let firmware ← members.defaulted "firmware" (.optional Firmware.reader) none
  let metadata ← members.defaulted "metadata" (.mapOf .text) ∅
  return { vendor, model, serial, description, productName, oem, firmware, metadata }

def document (identity : Identity) : Json :=
  .record identity.members

/-- An identity alone may be written as a list, then with its first seven members. -/
def layout : Json.Layout :=
  { names := memberNames, listForm := some 7 }

def reader : Json.Reader Identity := fun room document => do
  ofMembers? (← layout.members? room document)

end Identity

end ServerInventory
