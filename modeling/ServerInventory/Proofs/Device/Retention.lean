import ServerInventory.Absorb
import ServerInventory.Pass
import ServerInventory.Proofs.Merge.Absorption
import ServerInventory.Proofs.Record.Retention

/-!
Known servers stay known. `Device.Keeps` compares a server before and after some work: its
own records and those of its components keep what is known of them, and its parts stay
where they are in their lists, with their serial numbers.

* `Device.keeps_absorbed`: absorbing what was found on a server keeps what is known.
* `Device.keeps_withModels`: so does naming the components after the model of the server.
-/

namespace ServerInventory

/-! ## Lists of parts -/

section

variable {α : Type} [Identified α]

/-- A part keeps what is known of it, and its serial number in any case. -/
def PartKeeps (before after : α) : Prop :=
  Identified.serial after = Identified.serial before ∧ Keeps before after

/-- Every part is in its place still. There may be others after them. -/
def PartsKeep (before after : List α) : Prop :=
  ∀ (index : Nat) (part : α), before[index]? = some part →
    ∃ later, after[index]? = some later ∧ PartKeeps part later

theorem PartKeeps.refl (part : α) : PartKeeps part part :=
  ⟨rfl, .refl part⟩

theorem PartKeeps.trans {first second third : α} (early : PartKeeps first second)
    (late : PartKeeps second third) : PartKeeps first third :=
  ⟨late.1.trans early.1, early.2.trans late.2⟩

namespace PartsKeep

theorem refl (parts : List α) : PartsKeep parts parts :=
  fun _ part found => ⟨part, found, .refl part⟩

theorem trans {first second third : List α} (early : PartsKeep first second)
    (late : PartsKeep second third) : PartsKeep first third := by
  intro index part found
  obtain ⟨middle, middleFound, earlyKept⟩ := early index part found
  obtain ⟨later, laterFound, lateKept⟩ := late index middle middleFound
  exact ⟨later, laterFound, earlyKept.trans lateKept⟩

/-- Parts may be added at the end. -/
theorem append (parts added : List α) : PartsKeep parts (parts ++ added) := by
  intro index part found
  obtain ⟨inside, _⟩ := List.getElem?_eq_some_iff.1 found
  exact ⟨part, (List.getElem?_append_left inside).trans found, .refl part⟩

theorem map {f : α → α} (kept : ∀ part, PartKeeps part (f part)) (parts : List α) :
    PartsKeep parts (parts.map f) := by
  intro index part found
  refine ⟨f part, ?_, kept part⟩
  rw [List.getElem?_map, found, Option.map_some]

/-- One part may be replaced by one that keeps what is known of it. -/
theorem replace {part later : α} (kept : PartKeeps part later) (early late : List α) :
    PartsKeep (early ++ part :: late) (early ++ later :: late) := by
  intro index other found
  rcases Nat.lt_trichotomy index early.length with before | rfl | after
  · rw [List.getElem?_append_left before] at found ⊢
    exact ⟨other, found, .refl other⟩
  · rw [List.getElem?_append_right (Nat.le_refl _), Nat.sub_self] at found ⊢
    obtain rfl := Option.some.inj found
    exact ⟨later, rfl, kept⟩
  · obtain ⟨offset, rfl⟩ := Nat.exists_eq_add_of_lt after
    rw [List.getElem?_append_right (by omega)] at found ⊢
    have inside : early.length + offset + 1 - early.length = offset + 1 := by omega
    rw [inside] at found ⊢
    exact ⟨other, found, .refl other⟩

end PartsKeep

variable [LawfulIdentified α]

theorem partKeeps_joined (collected : List α) (part : α) :
    PartKeeps part (joined collected part) :=
  ⟨serial_joined collected part, keeps_foldl_combine (reports collected part) part⟩

/-- A join by serial numbers leaves every part in its place. -/
theorem partsKeep_mergeBySerial (known collected : List α) :
    PartsKeep known (mergeBySerial known collected).1 := by
  rw [mergeBySerial_eq]
  exact .map (partKeeps_joined collected) known

/-- Absorbing what was found leaves every part in its place. -/
theorem partsKeep_absorbed (known found : List α) : PartsKeep known (absorbed known found) :=
  (PartsKeep.map (partKeeps_joined found) known).trans (.append _ _)

end

/-! ## Servers -/

namespace Device

/-- Nothing that is known of a server and its components before is lost. -/
structure Keeps (before after : Device) : Prop where
  identity : ServerInventory.Keeps before.toIdentity after.toIdentity
  bmc : ServerInventory.Keeps before.bmc after.bmc
  bios : ServerInventory.Keeps before.bios after.bios
  cpld : ServerInventory.Keeps before.cpld after.cpld
  drives : PartsKeep before.drives after.drives
  nics : PartsKeep before.nics after.nics
  storageControllers : PartsKeep before.storageControllers after.storageControllers

theorem Keeps.refl (device : Device) : device.Keeps device :=
  ⟨.refl _, .refl _, .refl _, .refl _, .refl _, .refl _, .refl _⟩

theorem Keeps.trans {first second third : Device} (early : first.Keeps second)
    (late : second.Keeps third) : first.Keeps third where
  identity := early.identity.trans late.identity
  bmc := early.bmc.trans late.bmc
  bios := early.bios.trans late.bios
  cpld := early.cpld.trans late.cpld
  drives := early.drives.trans late.drives
  nics := early.nics.trans late.nics
  storageControllers := early.storageControllers.trans late.storageControllers

/-- Absorbing what was found on a server keeps what is known. -/
theorem keeps_absorbed (known found : Device) : known.Keeps (known.absorbed found) where
  identity := keeps_combineFor none known.toIdentity found.toIdentity
  bmc := keeps_combineFor none known.bmc found.bmc
  bios := keeps_combineFor none known.bios found.bios
  cpld := keeps_combineFor none known.cpld found.cpld
  drives := partsKeep_absorbed known.drives found.drives
  nics := partsKeep_absorbed known.nics found.nics
  storageControllers := partsKeep_absorbed known.storageControllers found.storageControllers

end Device

/-! ## Merges of one attribute -/

/-- A merge of another attribute leaves the serial number of a drive as it is, known or not. -/
theorem Drive.partKeeps_combineFor {field : String} (other : field ≠ "Serial")
    (drive collected : Drive) : PartKeeps drive (combineFor (some field) drive collected) := by
  have serial : ∀ drive : Drive,
      (Recordable.record drive).leaf? ["Serial"] = some (.text drive.serial) := fun _ => rfl
  obtain ⟨later, laterFound, same | pass⟩ := @Record.leaf?_settle (Change.passes (some field))
    (Recordable.record drive) (Recordable.record collected) _ _ (serial drive)
  · rw [← record_combineFor, serial, same] at laterFound
    exact ⟨Value.text.inj (Option.some.inj laterFound), keeps_combineFor _ drive collected⟩
  · exact absurd (Option.some.inj (Change.head?_of_passes pass)).symm other

/-! ## Models in place of none -/

/-- A model in place of none, in a record that starts with an identity. -/
theorem Identity.keeps_withModel (identity : Identity) (model : String) (own : Record) :
    (identity.record ++ own).Keeps ((identity.withModel model).record ++ own) := by
  rw [withModel]
  split
  · rename_i missing
    have unknown : (Value.text identity.model).isEmpty = true := missing
    exact (Record.Keeps.of_unknown unknown (.text model) "Model" _).cons "Vendor" _
  · exact .refl (identity.record ++ own)

/-- Naming the components after the model of the server keeps what is known. -/
theorem Device.keeps_withModels (device : Device) : device.Keeps device.withModels where
  identity := .refl device.toIdentity
  bmc := device.bmc.keeps_withModel device.model _
  bios := device.bios.keeps_withModel device.model _
  cpld := by
    have kept := device.cpld.keeps_withModel device.model .nil
    rw [Record.append_nil, Record.append_nil] at kept
    exact kept
  drives := .refl device.drives
  nics := .refl device.nics
  storageControllers := .refl device.storageControllers

end ServerInventory
