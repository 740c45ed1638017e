import ServerInventory.Device.Component
import ServerInventory.Proofs.Record.Merging

/-!
Component types and their records. The values of each component type are exactly the
records of one layout, in which no name occurs twice at one level, so a component is as
good as its record.
-/

namespace ServerInventory

/-! ## Records told by their layout -/

namespace Record

variable {record rest : Record} {name : String} {field : Field}

theorem layout_eq_nil_iff : record.layout = .nil ↔ record = .nil := by
  cases record <;> simp [layout]

theorem layout_eq_cons_iff :
    record.layout = .cons name field rest ↔
      ∃ first others, record = .cons name first others ∧ first.layout = field ∧
        others.layout = rest := by
  cases record with
  | nil => simp [layout]
  | cons firstName first others =>
    simp only [layout, cons.injEq]
    constructor
    · rintro ⟨rfl, layout, rests⟩
      exact ⟨first, others, ⟨rfl, rfl, rfl⟩, layout, rests⟩
    · rintro ⟨_, _, ⟨rfl, rfl, rfl⟩, layout, rests⟩
      exact ⟨rfl, layout, rests⟩

theorem layout_eq_append : ∀ {left right record : Record}, record.layout = left ++ right →
    ∃ early late, record = early ++ late ∧ early.layout = left ∧ late.layout = right
  | .nil, _, record, same => ⟨.nil, record, rfl, rfl, same⟩
  | .cons name field rest, right, record, same => by
    obtain ⟨first, others, rfl, fieldLayout, restLayout⟩ := layout_eq_cons_iff.1 same
    obtain ⟨early, late, rfl, earlyLayout, lateLayout⟩ := layout_eq_append restLayout
    refine ⟨.cons name first early, late, rfl, ?_, lateLayout⟩
    rw [layout, fieldLayout, earlyLayout]

theorem distinct_append : ∀ {left right : Record}, left.Distinct → right.Distinct →
    (∀ name ∈ left.names, name ∉ right.names) → (left ++ right).Distinct
  | .nil, _, _, rightDistinct, _ => rightDistinct
  | .cons name field rest, right, leftDistinct, rightDistinct, apart => by
    obtain ⟨notLater, fieldDistinct, restDistinct⟩ := leftDistinct
    obtain ⟨headApart, restApart⟩ := List.forall_mem_cons.1 apart
    refine ⟨fun later => ?_, fieldDistinct, distinct_append restDistinct rightDistinct restApart⟩
    change name ∈ (rest ++ right).names at later
    rw [names_append] at later
    exact (List.mem_append.1 later).elim notLater headApart

end Record

namespace Field

variable {field : Field}

theorem layout_eq_text_iff :
    field.layout = .scalar (.text "") ↔ ∃ value, field = .scalar (.text value) := by
  cases field with
  | scalar value => cases value <;> simp [layout, Value.kind, Value.blank]
  | _ => simp [layout]

theorem layout_eq_flag_iff :
    field.layout = .scalar (.flag false) ↔ ∃ value, field = .scalar (.flag value) := by
  cases field with
  | scalar value => cases value <;> simp [layout, Value.kind, Value.blank]
  | _ => simp [layout]

theorem layout_eq_int64_iff :
    field.layout = .scalar (.int64 0) ↔ ∃ value, field = .scalar (.int64 value) := by
  cases field with
  | scalar value => cases value <;> simp [layout, Value.kind, Value.blank]
  | _ => simp [layout]

theorem layout_eq_int32_iff :
    field.layout = .scalar (.int32 0) ↔ ∃ value, field = .scalar (.int32 value) := by
  cases field with
  | scalar value => cases value <;> simp [layout, Value.kind, Value.blank]
  | _ => simp [layout]

theorem layout_eq_texts_iff : field.layout = .texts ∅ ↔ ∃ entries, field = .texts entries := by
  cases field <;> simp [layout]

theorem layout_eq_flags_iff : field.layout = .flags ∅ ↔ ∃ entries, field = .flags entries := by
  cases field <;> simp [layout]

theorem layout_eq_absent_iff {blank : Record} :
    field.layout = .absent blank ↔
      field = .absent blank ∨ ∃ record, field = .present record ∧ record.layout = blank := by
  cases field <;> simp [layout]

end Field

/-! ## Firmware and identity -/

instance : LawfulRecordable Firmware where
  ofRecord_record _ := rfl
  layout_record _ _ := rfl
  distinct_record firmware := by
    simp [Recordable.record, Firmware.record, Record.ofList, Record.Distinct, Field.Distinct,
      Record.names]
  exists_record firmware record same := by
    change record.layout = .ofList [("Installed", .scalar (.text "")),
      ("Available", .scalar (.text "")), ("Metadata", .texts ∅)] at same
    simp only [Record.ofList, Record.layout_eq_cons_iff, Record.layout_eq_nil_iff,
      Field.layout_eq_text_iff, Field.layout_eq_texts_iff] at same
    obtain ⟨_, _, rfl, ⟨installed, rfl⟩, _, _, rfl, ⟨available, rfl⟩, _, _, rfl,
      ⟨metadata, rfl⟩, rfl⟩ := same
    exact ⟨{ installed, available, metadata }, rfl⟩

namespace Identity

/-- The layout of every identity. -/
theorem layout_record (identity : Identity) :
    identity.record.layout = .ofList [
      ("Vendor", .scalar (.text "")),
      ("Model", .scalar (.text "")),
      ("Serial", .scalar (.text "")),
      ("Description", .scalar (.text "")),
      ("ProductName", .scalar (.text "")),
      ("Oem", .scalar (.flag false)),
      ("Firmware", .absent (Firmware.record {})),
      ("Metadata", .texts ∅)] := by
  obtain ⟨_, _, _, _, _, _, firmware, _⟩ := identity
  cases firmware <;> rfl

end Identity

instance : LawfulRecordable Identity where
  ofRecord_record identity := by
    obtain ⟨_, _, _, _, _, _, firmware, _⟩ := identity
    cases firmware <;> rfl
  layout_record identity other :=
    identity.layout_record.trans other.layout_record.symm
  distinct_record identity := by
    rw [← Record.distinct_layout_iff]
    change (Identity.record identity).layout.Distinct
    rw [identity.layout_record]
    simp [Record.ofList, Record.Distinct, Field.Distinct, Record.names, Firmware.record]
  exists_record identity record same := by
    have layout := same.trans identity.layout_record
    simp only [Record.ofList, Record.layout_eq_cons_iff, Record.layout_eq_nil_iff,
      Field.layout_eq_text_iff, Field.layout_eq_texts_iff, Field.layout_eq_flag_iff,
      Field.layout_eq_absent_iff] at layout
    obtain ⟨_, _, rfl, ⟨vendor, rfl⟩, _, _, rfl, ⟨model, rfl⟩, _, _, rfl, ⟨serial, rfl⟩,
      _, _, rfl, ⟨description, rfl⟩, _, _, rfl, ⟨productName, rfl⟩, _, _, rfl, ⟨oem, rfl⟩,
      firmwareField, _, rfl, firmware, _, _, rfl, ⟨metadata, rfl⟩, rfl⟩ := layout
    rcases firmware with rfl | ⟨inner, rfl, innerLayout⟩
    · exact ⟨{ vendor, model, serial, description, productName, oem, metadata }, rfl⟩
    · obtain ⟨firmware, rfl⟩ :=
        LawfulRecordable.exists_record (default : Firmware) inner innerLayout
      exact ⟨{ vendor, model, serial, description, productName, oem, firmware, metadata }, rfl⟩

/-! ## Components -/

/-- The records of a component type are those of an identity followed by those of one more
layout. -/
structure ExtendsIdentity (α : Type) [Recordable α] (own : Record) : Prop where
  ofRecord_record (value : α) : Recordable.ofRecord (Recordable.record value) = value
  exists_parts (value : α) : ∃ (identity : Identity) (rest : Record),
    Recordable.record value = identity.record ++ rest ∧ rest.layout = own
  exists_value (identity : Identity) (rest : Record) : rest.layout = own →
    ∃ value : α, Recordable.record value = identity.record ++ rest
  distinct : own.Distinct
  apart : ∀ name ∈ (Identity.record {}).names, name ∉ own.names

namespace ExtendsIdentity

variable {α : Type} [Recordable α] {own : Record}

theorem layout_eq (parts : ExtendsIdentity α own) (value : α) :
    (Recordable.record value).layout = (Identity.record {}).layout ++ own := by
  obtain ⟨identity, rest, equal, layout⟩ := parts.exists_parts value
  rw [equal, Record.layout_append, layout, identity.layout_record,
    ← Identity.layout_record {}]

theorem lawful (parts : ExtendsIdentity α own) : LawfulRecordable α where
  ofRecord_record := parts.ofRecord_record
  layout_record value other := (parts.layout_eq value).trans (parts.layout_eq other).symm
  distinct_record value := by
    have identity := LawfulRecordable.distinct_record (default : Identity)
    rw [← Record.distinct_layout_iff, parts.layout_eq]
    refine Record.distinct_append ((Record.distinct_layout_iff _).2 identity) parts.distinct ?_
    rw [Record.names_layout]
    exact parts.apart
  exists_record value record same := by
    rw [parts.layout_eq] at same
    obtain ⟨early, late, rfl, earlyLayout, lateLayout⟩ := Record.layout_eq_append same
    obtain ⟨identity, rfl⟩ := LawfulRecordable.exists_record (default : Identity) early earlyLayout
    exact parts.exists_value identity late lateLayout

end ExtendsIdentity

theorem Drive.extendsIdentity : ExtendsIdentity Drive (.ofList [
    ("Protocol", .scalar (.text "")),
    ("DriveType", .scalar (.text "")),
    ("LogicalName", .scalar (.text "")),
    ("CapacityBytes", .scalar (.int64 0)),
    ("BlockSizeBytes", .scalar (.int64 0)),
    ("WWN", .scalar (.text "")),
    ("SmartStatus", .scalar (.text "")),
    ("StorageController", .scalar (.text "")),
    ("Capabilities", .flags ∅)]) where
  ofRecord_record drive := by
    obtain ⟨⟨_, _, _, _, _, _, firmware, _⟩, _, _, _, _, _, _, _, _, _⟩ := drive
    cases firmware <;> rfl
  exists_parts drive := ⟨drive.toIdentity, _, rfl, rfl⟩
  exists_value identity rest layout := by
    simp only [Record.ofList, Record.layout_eq_cons_iff, Record.layout_eq_nil_iff,
      Field.layout_eq_text_iff, Field.layout_eq_int64_iff, Field.layout_eq_flags_iff] at layout
    obtain ⟨_, _, rfl, ⟨protocol, rfl⟩, _, _, rfl, ⟨driveType, rfl⟩, _, _, rfl,
      ⟨logicalName, rfl⟩, _, _, rfl, ⟨capacityBytes, rfl⟩, _, _, rfl, ⟨blockSizeBytes, rfl⟩,
      _, _, rfl, ⟨wwn, rfl⟩, _, _, rfl, ⟨smartStatus, rfl⟩, _, _, rfl,
      ⟨storageController, rfl⟩, _, _, rfl, ⟨capabilities, rfl⟩, rfl⟩ := layout
    exact ⟨{ toIdentity := identity, protocol, driveType, logicalName, capacityBytes,
             blockSizeBytes, wwn, smartStatus, storageController, capabilities }, rfl⟩
  distinct := by simp [Record.ofList, Record.Distinct, Field.Distinct, Record.names]
  apart := by simp [Record.ofList, Identity.record, Record.names]

theorem Nic.extendsIdentity : ExtendsIdentity Nic (.ofList [
    ("PCIAddress", .scalar (.text "")),
    ("SpeedBits", .scalar (.int64 0)),
    ("PhysicalID", .scalar (.text ""))]) where
  ofRecord_record nic := by
    obtain ⟨⟨_, _, _, _, _, _, firmware, _⟩, _, _, _⟩ := nic
    cases firmware <;> rfl
  exists_parts nic := ⟨nic.toIdentity, _, rfl, rfl⟩
  exists_value identity rest layout := by
    simp only [Record.ofList, Record.layout_eq_cons_iff, Record.layout_eq_nil_iff,
      Field.layout_eq_text_iff, Field.layout_eq_int64_iff] at layout
    obtain ⟨_, _, rfl, ⟨pciAddress, rfl⟩, _, _, rfl, ⟨speedBits, rfl⟩, _, _, rfl,
      ⟨physicalId, rfl⟩, rfl⟩ := layout
    exact ⟨{ toIdentity := identity, pciAddress, speedBits, physicalId }, rfl⟩
  distinct := by simp [Record.ofList, Record.Distinct, Field.Distinct, Record.names]
  apart := by simp [Record.ofList, Identity.record, Record.names]

theorem Bmc.extendsIdentity : ExtendsIdentity Bmc (.ofList [
    ("ID", .scalar (.text "")),
    ("IPMIVersion", .scalar (.text ""))]) where
  ofRecord_record bmc := by
    obtain ⟨⟨_, _, _, _, _, _, firmware, _⟩, _, _⟩ := bmc
    cases firmware <;> rfl
  exists_parts bmc := ⟨bmc.toIdentity, _, rfl, rfl⟩
  exists_value identity rest layout := by
    simp only [Record.ofList, Record.layout_eq_cons_iff, Record.layout_eq_nil_iff,
      Field.layout_eq_text_iff] at layout
    obtain ⟨_, _, rfl, ⟨id, rfl⟩, _, _, rfl, ⟨ipmiVersion, rfl⟩, rfl⟩ := layout
    exact ⟨{ toIdentity := identity, id, ipmiVersion }, rfl⟩
  distinct := by simp [Record.ofList, Record.Distinct, Field.Distinct, Record.names]
  apart := by simp [Record.ofList, Identity.record, Record.names]

theorem Bios.extendsIdentity : ExtendsIdentity Bios (.ofList [
    ("ReleaseDate", .scalar (.text "")),
    ("SizeBytes", .scalar (.int64 0)),
    ("CapacityBytes", .scalar (.int64 0))]) where
  ofRecord_record bios := by
    obtain ⟨⟨_, _, _, _, _, _, firmware, _⟩, _, _, _⟩ := bios
    cases firmware <;> rfl
  exists_parts bios := ⟨bios.toIdentity, _, rfl, rfl⟩
  exists_value identity rest layout := by
    simp only [Record.ofList, Record.layout_eq_cons_iff, Record.layout_eq_nil_iff,
      Field.layout_eq_text_iff, Field.layout_eq_int64_iff] at layout
    obtain ⟨_, _, rfl, ⟨releaseDate, rfl⟩, _, _, rfl, ⟨sizeBytes, rfl⟩, _, _, rfl,
      ⟨capacityBytes, rfl⟩, rfl⟩ := layout
    exact ⟨{ toIdentity := identity, releaseDate, sizeBytes, capacityBytes }, rfl⟩
  distinct := by simp [Record.ofList, Record.Distinct, Field.Distinct, Record.names]
  apart := by simp [Record.ofList, Identity.record, Record.names]

theorem Cpld.extendsIdentity : ExtendsIdentity Cpld .nil where
  ofRecord_record cpld := by
    obtain ⟨⟨_, _, _, _, _, _, firmware, _⟩⟩ := cpld
    cases firmware <;> rfl
  exists_parts cpld := ⟨cpld.toIdentity, .nil, (Record.append_nil _).symm, rfl⟩
  exists_value identity rest layout := by
    rw [Record.layout_eq_nil_iff.1 layout, Record.append_nil]
    exact ⟨{ toIdentity := identity }, rfl⟩
  distinct := trivial
  apart := by simp [Record.names]

theorem StorageController.extendsIdentity : ExtendsIdentity StorageController (.ofList [
    ("PCIAddress", .scalar (.text "")),
    ("SupportedRAID", .scalar (.text "")),
    ("Interface", .scalar (.text "")),
    ("PhysicalID", .scalar (.text "")),
    ("MaxPhysicalDisks", .scalar (.int32 0))]) where
  ofRecord_record controller := by
    obtain ⟨⟨_, _, _, _, _, _, firmware, _⟩, _, _, _, _, _⟩ := controller
    cases firmware <;> rfl
  exists_parts controller := ⟨controller.toIdentity, _, rfl, rfl⟩
  exists_value identity rest layout := by
    simp only [Record.ofList, Record.layout_eq_cons_iff, Record.layout_eq_nil_iff,
      Field.layout_eq_text_iff, Field.layout_eq_int32_iff] at layout
    obtain ⟨_, _, rfl, ⟨pciAddress, rfl⟩, _, _, rfl, ⟨supportedRaid, rfl⟩, _, _, rfl,
      ⟨hostBus, rfl⟩, _, _, rfl, ⟨physicalId, rfl⟩, _, _, rfl, ⟨maxPhysicalDisks, rfl⟩,
      rfl⟩ := layout
    exact ⟨{ toIdentity := identity, pciAddress, supportedRaid, hostBus, physicalId,
             maxPhysicalDisks }, rfl⟩
  distinct := by simp [Record.ofList, Record.Distinct, Field.Distinct, Record.names]
  apart := by simp [Record.ofList, Identity.record, Record.names]

instance : LawfulRecordable Drive := Drive.extendsIdentity.lawful

instance : LawfulRecordable Nic := Nic.extendsIdentity.lawful

instance : LawfulRecordable Bmc := Bmc.extendsIdentity.lawful

instance : LawfulRecordable Bios := Bios.extendsIdentity.lawful

instance : LawfulRecordable Cpld := Cpld.extendsIdentity.lawful

instance : LawfulRecordable StorageController := StorageController.extendsIdentity.lawful

end ServerInventory
