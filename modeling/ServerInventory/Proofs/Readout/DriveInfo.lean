import ServerInventory.Proofs.Readout.Preorder
import ServerInventory.Readout.Smartctl

/-!
What becomes of the document in which `smartctl -i -j` describes one drive. A document that
writes what there is to know of a drive, each member in its own way or not at all, is read in
full whatever else it holds (`Smartctl.describes_of_writtenIn`).
-/

namespace ServerInventory

open Lshw (Told WritesText)

/-! ## Values and records -/

namespace Json

variable {α : Type} {room : Nat} {found : List (String × Json)} {name : String} {document : Json}

def WritesFlag (value : Bool) (document : Json) : Prop :=
  document = .flag value

/-- A natural number of 64 bits. -/
def WritesNatural (value : Nat) (document : Json) : Prop :=
  ∃ word : UInt64, document.number? = some (.natural word) ∧ value = word.toNat

/-- An integer that a signed word holds. -/
def WritesInteger (value : Int64) (document : Json) : Prop :=
  (∃ word : UInt64, document.number? = some (.natural word) ∧ (word.toNat : Int) = value.toInt) ∨
    document.number? = some (.negative value)

/-- Null, or a value and then not null. -/
def WritesOptional (writes : α → Json → Prop) : Option α → Json → Prop
  | none, document => document = .null
  | some value, document => document ≠ .null ∧ writes value document

/-- Whether a document is an object that repeats no member of some names. -/
def HasEachOnce (names : List String) (document : Json) : Prop :=
  ∃ members : List (String × Json), document = .record members ∧
    ∀ name ∈ names, (members.filter (·.1 == name)).length ≤ 1

theorem HasEachOnce.of_distinct {members : List (String × Json)} (names : List String)
    (distinct : (members.map Prod.fst).Nodup) : HasEachOnce names (record members) := by
  refine ⟨members, rfl, fun name _ => ?_⟩
  have count := List.nodup_iff_count_le_one.1 distinct name
  rwa [List.count, List.countP_map, List.countP_eq_length_filter] at count

theorem writesNatural_ofNat {value : Nat} (bound : value < UInt64.size) :
    WritesNatural value (ofNat value) := by
  refine ⟨UInt64.ofNat value, ?_, (UInt64.toNat_ofNat_of_lt' bound).symm⟩
  unfold ofNat ofInt number? Numeral.number? Numeral.ofInt
  simp [Chars.digitsValue_toDigits, bound]

theorem naturalBelow_of_writesNatural {value : Nat} (written : WritesNatural value document) :
    Reader.naturalBelow UInt64.size room document = some value := by
  obtain ⟨word, number, rfl⟩ := written
  exact naturalBelow_of_number? number

theorem int64_of_writesInteger {value : Int64} (written : WritesInteger value document) :
    Reader.int64 room document = some value := by
  have narrowed : int64? value.toInt = some value := by
    rw [int64?, if_pos (fitsInt64_toInt value), Int64.ofInt_toInt]
  rw [Reader.int64, Reader.integer]
  rcases written with ⟨word, number, same⟩ | number
  · rw [number]
    dsimp only
    rw [same, narrowed]
  · rw [number]
    exact narrowed

theorem optional_of_writesOptional {writes : α → Json → Prop} {reader : Reader α}
    (reads : ∀ value document, writes value document → reader room document = some value)
    {value : Option α} (written : WritesOptional writes value document) :
    Reader.optional reader room document = some value := by
  cases value with
  | none =>
    rw [show document = .null from written]
    rfl
  | some value =>
    obtain ⟨present, written⟩ := written
    have read := congrArg (Option.map some) (reads value document written)
    cases document with
    | null => exact absurd rfl present
    | _ => exact read

theorem members?_of_once (layout : Layout) (lenient : layout.strict = false)
    (once : ∀ name ∈ layout.names, (found.filter (·.1 == name)).length ≤ 1) :
    layout.members? (room + 1) (record found) = some ⟨room, found⟩ := by
  have named := mapM_map (namedMember? some)
    (fun member : String × Json => (some member.1, member.2)) found fun member _ =>
      namedMember?_some rfl
  have distinct : layout.names.all (fun name =>
      decide ((found.filter (·.1 == name)).length ≤ 1)) = true :=
    List.all_eq_true.2 fun name among => decide_eq_true (once name among)
  rw [record, Layout.members?, named]
  dsimp only [Option.bind_eq_bind, Option.bind_some]
  rw [distinct, lenient]
  rfl

end Json

/-- What is told of a member of a record is what its reader takes from there. -/
theorem Lshw.Told.defaulted {α : Type} {writes : α → Json → Prop} {room : Nat}
    {found : List (String × Json)} {name : String} {reader : Json.Reader α} {assumed value : α}
    (told : Told writes assumed ((Json.record found).member? name) value)
    (reads : ∀ value document, writes value document → reader room document = some value) :
    Json.Members.defaulted ⟨room, found⟩ name reader assumed = some value := by
  rw [Json.member?_record] at told
  exact told.read (reads value)

/-! ## Parts of the description -/

namespace Smartctl

open Json (HasEachOnce WritesFlag WritesNatural WritesInteger WritesOptional
  naturalBelow_of_writesNatural int64_of_writesInteger optional_of_writesOptional
  members?_of_once)

/-- How `smartctl` writes the address of a drive. -/
structure Address.WrittenIn (address : Address) (document : Json) : Prop where
  once : HasEachOnce Address.layout.names document
  name : Told WritesText "" (document.member? "name") address.name
  deviceType : Told WritesText "" (document.member? "type") address.deviceType
  protocol : Told WritesText "" (document.member? "protocol") address.protocol

/-- How `smartctl` writes a world-wide name. -/
structure Wwn.WrittenIn (wwn : Wwn) (document : Json) : Prop where
  once : HasEachOnce ["naa", "oui", "id"] document
  naa : Told WritesNatural 0 (document.member? "naa") wwn.naa
  oui : Told WritesNatural 0 (document.member? "oui") wwn.oui
  id : Told WritesNatural 0 (document.member? "id") wwn.id

/-- How `smartctl` writes a record of one member. -/
structure WritesOne {α : Type} (name : String) (writes : α → Json → Prop) (assumed value : α)
    (document : Json) : Prop where
  once : HasEachOnce [name] document
  member : Told writes assumed (document.member? name) value

/-- How `smartctl` writes what it knows of a drive. -/
structure Info.WrittenIn (info : Info) (document : Json) : Prop where
  once : HasEachOnce Info.layout.names document
  address : Told Address.WrittenIn {} (document.member? "device") info.address
  modelFamily : Told WritesText "" (document.member? "model_family") info.modelFamily
  modelName : Told WritesText "" (document.member? "model_name") info.modelName
  scsiVendor : Told WritesText "" (document.member? "scsi_vendor") info.scsiVendor
  scsiProduct : Told WritesText "" (document.member? "scsi_product") info.scsiProduct
  scsiRevision : Told WritesText "" (document.member? "scsi_revision") info.scsiRevision
  serialNumber : Told WritesText "" (document.member? "serial_number") info.serialNumber
  firmwareVersion : Told WritesText "" (document.member? "firmware_version") info.firmwareVersion
  wwn : Told (WritesOptional Wwn.WrittenIn) none (document.member? "wwn") info.wwn
  capacityBytes : Told (WritesOne "bytes" WritesInteger 0) 0 (document.member? "user_capacity")
    info.capacityBytes
  logicalBlockSize : Told WritesInteger 0 (document.member? "logical_block_size")
    info.logicalBlockSize
  rotationRate : Told (WritesOptional WritesInteger) none (document.member? "rotation_rate")
    info.rotationRate
  passed : Told (WritesOptional (WritesOne "passed" WritesFlag false)) none
    (document.member? "smart_status") info.passed

variable {room : Nat} {document : Json}

theorem text_of_writesText (value : String) (document : Json)
    (written : WritesText value document) : Json.Reader.text room document = some value := by
  rw [show document = .text value from written]
  rfl

theorem Address.reader_of_writtenIn (address : Address) (document : Json)
    (written : address.WrittenIn document) :
    Address.reader (room + 1) document = some address := by
  obtain ⟨⟨members, rfl, once⟩, name, deviceType, protocol⟩ := written
  simp only [Address.reader, members?_of_once Address.layout rfl once,
    name.defaulted text_of_writesText, deviceType.defaulted text_of_writesText,
    protocol.defaulted text_of_writesText, Option.bind_eq_bind, Option.bind_some]
  rfl

theorem Wwn.reader_of_writtenIn (wwn : Wwn) (document : Json) (written : wwn.WrittenIn document) :
    Wwn.reader (room + 1) document = some wwn := by
  obtain ⟨⟨members, rfl, once⟩, naa, oui, id⟩ := written
  have word : ∀ value document, WritesNatural value document →
      Json.Reader.naturalBelow UInt64.size room document = some value :=
    fun _ _ => naturalBelow_of_writesNatural
  simp only [Wwn.reader,
    members?_of_once { names := ["naa", "oui", "id"], listForm := some 0 } rfl once,
    naa.defaulted word, oui.defaulted word, id.defaulted word, Option.bind_eq_bind,
    Option.bind_some]
  rfl

theorem oneMember_of_writesOne {α : Type} {name : String} {writes : α → Json → Prop}
    {reader : Json.Reader α} {assumed : α}
    (reads : ∀ value document, writes value document → reader room document = some value)
    (value : α) (document : Json) (written : WritesOne name writes assumed value document) :
    oneMember name reader assumed (room + 1) document = some value := by
  obtain ⟨⟨members, rfl, once⟩, member⟩ := written
  simp only [oneMember,
    members?_of_once { names := [name], listForm := some 0 } rfl once,
    Option.bind_eq_bind, Option.bind_some]
  exact member.defaulted reads

theorem Info.reader_of_writtenIn (info : Info) (document : Json)
    (written : info.WrittenIn document) :
    Info.reader (room + 2) document = some info := by
  obtain ⟨⟨members, rfl, once⟩, address, modelFamily, modelName, scsiVendor, scsiProduct,
    scsiRevision, serialNumber, firmwareVersion, wwn, capacityBytes, logicalBlockSize,
    rotationRate, passed⟩ := written
  have text : ∀ {name value}, Told WritesText "" ((Json.record members).member? name) value →
      Json.Members.defaulted ⟨room + 1, members⟩ name .text "" = some value :=
    fun told => told.defaulted text_of_writesText
  have integer : ∀ {room : Nat} value document, WritesInteger value document →
      Json.Reader.int64 room document = some value :=
    fun _ _ => int64_of_writesInteger
  have flag : ∀ {room : Nat} value document, WritesFlag value document →
      Json.Reader.flag room document = some value := by
    rintro room value _ rfl
    rfl
  have next : ∀ {α β : Type} {tried : Option α} {value : α} {rest : α → Option β} {result : β},
      tried = some value → rest value = some result → tried.bind rest = some result :=
    fun read rest => Option.bind_eq_some_iff.2 ⟨_, read, rest⟩
  refine next (members?_of_once Info.layout rfl once) ?_
  refine next (address.defaulted Address.reader_of_writtenIn) ?_
  refine next (text modelFamily) (next (text modelName) ?_)
  refine next (text scsiVendor) (next (text scsiProduct) (next (text scsiRevision) ?_))
  refine next (text serialNumber) (next (text firmwareVersion) ?_)
  refine next (wwn.defaulted fun _ _ => optional_of_writesOptional Wwn.reader_of_writtenIn) ?_
  refine next (capacityBytes.defaulted (oneMember_of_writesOne integer)) ?_
  refine next (logicalBlockSize.defaulted integer) ?_
  refine next (rotationRate.defaulted fun _ _ => optional_of_writesOptional integer) ?_
  exact next (passed.defaulted fun _ _ =>
    optional_of_writesOptional (oneMember_of_writesOne flag)) rfl

/-! ## From the output to the description -/

/-- Whether an output of `smartctl -i -j` says just this of a drive. -/
def Describes (output : String) (info : Info) : Prop :=
  Info.reader.ofText? output = some info

theorem drive_of_describes {output : String} {info : Info} (described : Describes output info) :
    Smartctl.drive output = .ok info.drive := by
  rw [Smartctl.drive, show Info.reader.ofText? output = some info from described]

theorem describes_of_writtenIn {output : String} {info : Info}
    (read : Json.ofText? output = some document) (written : info.WrittenIn document) :
    Describes output info := by
  rw [Describes, Json.Reader.ofText?, read]
  exact Info.reader_of_writtenIn info document written

end Smartctl

end ServerInventory
