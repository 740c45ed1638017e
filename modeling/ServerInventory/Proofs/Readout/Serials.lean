import ServerInventory.Proofs.Readout.Mac
import ServerInventory.Proofs.Readout.Tree
import ServerInventory.Readout.Listing
import ServerInventory.Readout.NvmeCli
import ServerInventory.Readout.Smartctl
import ServerInventory.Readout.Storcli
import ServerInventory.Record.Merge

/-!
Serial numbers as the keys of a join. A utility that has no serial number for a part prints
a placeholder, and parts must not be taken for one part because both have none. What is
reported is therefore set against what was printed, part by part (`ReportsSerial`), for
every parser whose parts are joined (`serials_reported`). The cards of `mlxup` are the
exception: their addresses are formatted but not cleaned, so a placeholder gets through.
-/

namespace ServerInventory

/-! ## One part -/

/-- What is reported as the serial number of a part for which a text was printed: real
data, and nothing where the text stands for absent data; then the part joins no other. -/
structure ReportsSerial (printed reported : String) : Prop where
  real : ¬IsPlaceholder reported
  absent : IsPlaceholder printed → reported = ""
  unjoined : IsPlaceholder printed →
    ∀ other, sameSerial other reported = false ∧ sameSerial reported other = false

theorem sameSerial_empty (other : String) : sameSerial other "" = false := by
  rw [← Bool.not_eq_true]
  intro same
  simp only [sameSerial, Bool.and_eq_true, Bool.not_eq_true', beq_iff_eq] at same
  obtain ⟨known, small⟩ := same
  rw [(Text.lowercase_eq_empty_iff "").2 rfl, Text.lowercase_eq_empty_iff] at small
  subst small
  exact absurd known (by decide)

theorem ReportsSerial.of_absent {printed reported : String} (real : ¬IsPlaceholder reported)
    (absent : IsPlaceholder printed → reported = "") : ReportsSerial printed reported where
  real := real
  absent := absent
  unjoined placeholder other := by
    rw [absent placeholder]
    exact ⟨sameSerial_empty other, rfl⟩

theorem reportsSerial_cleaned (printed : String) : ReportsSerial printed (cleaned printed) :=
  .of_absent (not_isPlaceholder_cleaned printed) cleaned_of_isPlaceholder

theorem reportsSerial_lowercase_cleaned (printed : String) :
    ReportsSerial printed (Text.lowercase (cleaned printed)) :=
  .of_absent (not_isPlaceholder_lowercase_cleaned printed) fun placeholder => by
    rw [cleaned_of_isPlaceholder placeholder]
    rfl

/-- A text that is no placeholder may be reported as it is printed. -/
theorem reportsSerial_self {printed : String} (real : ¬IsPlaceholder printed) :
    ReportsSerial printed printed :=
  .of_absent real fun placeholder => absurd placeholder real

/-- Where nothing is printed, nothing is reported. -/
theorem reportsSerial_nothing : ReportsSerial "" "" :=
  reportsSerial_self not_isPlaceholder_empty

/-- Parts reported one for each item of what was printed. -/
theorem forall₂_reportsSerial {α : Type} (items : List α) {printed reported : α → String}
    (each : ∀ item, ReportsSerial (printed item) (reported item)) :
    List.Forall₂ ReportsSerial (items.map printed) (items.map reported) := by
  rw [List.forall₂_map_left_iff, List.forall₂_map_right_iff]
  exact List.forall₂_same.2 fun item _ => each item

/-! ## Blocks -/

namespace Block

/-- The first value of some keys that is not empty, as it is printed. -/
def printed (block : Block) (keys : List String) : String :=
  (block.value? keys).getD ""

theorem printed_of_get? {block : Block} {key value : String}
    (found : block.get? key = some value) : block.printed [key] = value := by
  rw [printed, value?, List.filterMap_cons_some found, List.filterMap_nil, List.find?_cons]
  cases empty : value.isEmpty with
  | true => exact (String.isEmpty_iff.1 empty).symm
  | false => rfl

theorem reportsSerial_text (block : Block) (keys : List String) :
    ReportsSerial (block.printed keys) (block.text keys) := by
  rw [printed, text]
  cases block.value? keys with
  | none => exact reportsSerial_nothing
  | some value =>
    rw [Option.map_some, Option.getD_some, Option.getD_some]
    exact reportsSerial_cleaned value

end Block

/-! ## The tree of `lshw` -/

namespace Lshw

/-- Every part of a server has its serial number from the node that stands for it. -/
structure ReportsSerials (tree : Node) (device : Device) : Prop where
  system : ReportsSerial tree.info.serial device.serial
  nics : List.Forall₂ ReportsSerial
    ((tree.preorder.filter NodeInfo.isNetwork).map (·.serial)) (device.nics.map (·.serial))
  storageControllers : List.Forall₂ ReportsSerial
    ((tree.preorder.filter NodeInfo.isStorage).map (·.serial))
    (device.storageControllers.map (·.serial))
  drives : List.Forall₂ ReportsSerial
    ((tree.preorder.filter NodeInfo.isDrive).map (·.serial)) (device.drives.map (·.serial))
  bios : ReportsSerial
    (((tree.preorder.filter NodeInfo.isFirmware).getLast?.map (·.serial)).getD "")
    device.bios.serial
  others : device.bmc.serial = "" ∧ device.cpld.serial = ""

theorem NodeInfo.reportsSerial_identity (node : NodeInfo) :
    ReportsSerial node.serial node.identity.serial := by
  dsimp only [NodeInfo.identity]
  exact reportsSerial_cleaned node.serial

theorem NodeInfo.reportsSerial_bios (node : NodeInfo) :
    ReportsSerial node.serial node.bios.serial := by
  dsimp only [NodeInfo.bios, NodeInfo.identity]
  exact reportsSerial_cleaned node.serial

theorem NodeInfo.reportsSerial_drive (node : NodeInfo) :
    ReportsSerial node.serial node.drive.serial := by
  dsimp only [NodeInfo.drive, NodeInfo.identity]
  exact reportsSerial_cleaned node.serial

theorem NodeInfo.reportsSerial_nic (node : NodeInfo) :
    ReportsSerial node.serial node.nic.serial := by
  dsimp only [NodeInfo.nic, NodeInfo.identity]
  exact reportsSerial_lowercase_cleaned node.serial

theorem reportsSerials_deviceOfTree (tree : Node) : ReportsSerials tree (deviceOfTree tree) := by
  rw [deviceOfTree_eq]
  refine ⟨tree.info.reportsSerial_identity, ?_, ?_, ?_, ?_, rfl, rfl⟩
  · rw [List.map_map]
    exact forall₂_reportsSerial _ NodeInfo.reportsSerial_nic
  · rw [List.map_map]
    exact forall₂_reportsSerial _ NodeInfo.reportsSerial_identity
  · rw [List.map_map]
    exact forall₂_reportsSerial _ NodeInfo.reportsSerial_drive
  · cases (tree.preorder.filter NodeInfo.isFirmware).getLast? with
    | none => exact reportsSerial_nothing
    | some node =>
      exact node.reportsSerial_bios

end Lshw

/-! ## The answers of `storcli64` -/

namespace Storcli

/-- A member as text, as it is printed. -/
def printedAt (document : Json) (name : String) : String :=
  match document.member? name with
  | some (.quoted content) => content.getD ""
  | some (.numeral numeral) => (numeral.number?.map Json.Number.text).getD ""
  | _ => ""

theorem reportsSerial_textAt (document : Json) (name : String) :
    ReportsSerial (printedAt document name) (textAt document name) := by
  rw [printedAt, textAt]
  rcases document.member? name with _ | value
  · exact reportsSerial_nothing
  · cases value with
    | quoted content => exact reportsSerial_cleaned (content.getD "")
    | numeral numeral =>
      dsimp only
      cases numeral.number? with
      | none => exact reportsSerial_nothing
      | some number => exact reportsSerial_self (not_isPlaceholder_number number)
    | _ => exact reportsSerial_nothing

/-- The attributes of the drive that a member of an answer gives the details of. -/
def attributes? (member : Json.Quoted × Json) : Option Json := do
  let key ← member.1
  let name ← Text.stripEnd? key detailEnding
  member.2.member? (name ++ " Device attributes")

theorem map_serial_drive? (answer : Json) (member : Json.Quoted × Json) :
    (drive? answer member).map (·.serial) = (attributes? member).map (textAt · "SN") := by
  rw [drive?, attributes?]
  cases member.1 with
  | none => rfl
  | some key =>
    simp only [Option.bind_eq_bind, Option.bind_some]
    cases Text.stripEnd? key detailEnding with
    | none => rfl
    | some name =>
      simp only [Option.bind_some]
      cases member.2.member? (name ++ " Device attributes") <;> rfl

/-- The serial numbers that answers print for their controllers. -/
def printedControllerSerials (answers : List Json) : List String :=
  (answers.filterMap (Json.member? "Basics")).map (printedAt · "Serial Number")

/-- The serial numbers that answers print for their drives. -/
def printedDriveSerials (answers : List Json) : List String :=
  (answers.flatMap fun answer => answer.members.filterMap attributes?).map (printedAt · "SN")

theorem map_serial_controllers (answers : List Json) :
    (answers.filterMap controller?).map (·.serial) =
      (answers.filterMap (Json.member? "Basics")).map (textAt · "Serial Number") := by
  rw [List.map_filterMap, List.map_filterMap]
  refine List.filterMap_congr fun answer _ => ?_
  rw [controller?, Option.map_map]
  rfl

theorem map_serial_drives (answers : List Json) :
    (answers.flatMap drivesOf).map (·.serial) =
      (answers.flatMap fun answer => answer.members.filterMap attributes?).map (textAt · "SN") := by
  rw [List.map_flatMap, List.map_flatMap]
  refine List.flatMap_congr fun answer _ => ?_
  rw [drivesOf, List.map_filterMap, List.map_filterMap]
  exact List.filterMap_congr fun member _ => map_serial_drive? answer member

theorem reportsSerials_report {output : String} {controllers : List StorageController}
    {drives : List Drive} (read : report output = .ok (controllers, drives)) :
    ∃ answers, Storcli.answers output = .ok answers ∧
      List.Forall₂ ReportsSerial (printedControllerSerials answers) (controllers.map (·.serial)) ∧
      List.Forall₂ ReportsSerial (printedDriveSerials answers) (drives.map (·.serial)) := by
  rw [report] at read
  cases found : Storcli.answers output with
  | error error =>
    rw [found] at read
    cases read
  | ok answers =>
    rw [found] at read
    cases read
    refine ⟨answers, rfl, ?_, ?_⟩
    · rw [map_serial_controllers]
      exact forall₂_reportsSerial _ (reportsSerial_textAt · "Serial Number")
    · rw [map_serial_drives]
      exact forall₂_reportsSerial _ (reportsSerial_textAt · "SN")

end Storcli

/-! ## Single drives and lists of them -/

theorem Smartctl.reportsSerial_drive {output : String} {drive : Drive}
    (read : Smartctl.drive output = .ok drive) :
    ∃ info, Info.reader.ofText? output = some info ∧
      ReportsSerial info.serialNumber drive.serial := by
  rw [Smartctl.drive] at read
  split at read
  · cases read
  · next info found =>
    cases read
    refine ⟨info, found, ?_⟩
    dsimp only [Info.drive]
    exact reportsSerial_cleaned info.serialNumber

theorem NvmeCli.reportsSerials_drives {output : String} {drives : List Drive}
    (read : NvmeCli.drives output = .ok drives) :
    (Chars.allBlank output.toList = true ∧ drives = []) ∨
      ∃ entries, listReader.ofText? output = some entries ∧
        List.Forall₂ ReportsSerial (entries.map (·.serialNumber)) (drives.map (·.serial)) := by
  rw [NvmeCli.drives] at read
  split at read
  · next blank =>
    cases read
    exact .inl ⟨blank, rfl⟩
  · split at read
    · cases read
    · next entries found =>
      cases read
      refine .inr ⟨entries, found, ?_⟩
      rw [List.map_map]
      refine forall₂_reportsSerial _ fun entry => ?_
      dsimp only [Function.comp, Entry.drive]
      exact reportsSerial_cleaned entry.serialNumber

/-! ## Network cards of `mlxup` -/

namespace Mlxup

/-- The text that a block prints for the address of its card. -/
def printedAddress (lines : List Chars) : String :=
  (Block.ofLines lines).printed ["Base MAC"]

theorem serial_nic (lines : List Chars) :
    (nic lines).serial = Mac.format (printedAddress lines) := by
  have empty : Mac.format "" = "" := by decide +kernel
  rw [printedAddress, Block.printed]
  dsimp only [nic]
  cases (Block.ofLines lines).value? ["Base MAC"] with
  | none => exact empty.symm
  | some printed => rfl

/-- The address is formatted but not cleaned, and stays a placeholder if it was one. -/
theorem isPlaceholder_serial_nic (lines : List Chars) :
    IsPlaceholder (nic lines).serial ↔ IsPlaceholder (printedAddress lines) := by
  rw [serial_nic, Mac.isPlaceholder_format]

end Mlxup

/-! ## All parsers -/

/-- Each parser whose parts are joined by serial number reports real serial numbers and
leaves out those that are printed as absent, but for the cards of `mlxup`: these have a
placeholder for their serial number exactly where one is printed for their address. -/
theorem serials_reported (output : String) :
    (∀ device, Lshw.device output = .ok device →
      ∃ tree, Lshw.Describes output tree ∧ Lshw.ReportsSerials tree device) ∧
    (∀ drive, Smartctl.drive output = .ok drive →
      ∃ info, Smartctl.Info.reader.ofText? output = some info ∧
        ReportsSerial info.serialNumber drive.serial) ∧
    (∀ drives, NvmeCli.drives output = .ok drives →
      (Chars.allBlank output.toList = true ∧ drives = []) ∨
        ∃ entries, NvmeCli.listReader.ofText? output = some entries ∧
          List.Forall₂ ReportsSerial (entries.map (·.serialNumber)) (drives.map (·.serial))) ∧
    (∀ controllers drives, Storcli.report output = .ok (controllers, drives) →
      ∃ answers, Storcli.answers output = .ok answers ∧
        List.Forall₂ ReportsSerial (Storcli.printedControllerSerials answers)
          (controllers.map (·.serial)) ∧
        List.Forall₂ ReportsSerial (Storcli.printedDriveSerials answers)
          (drives.map (·.serial))) ∧
    List.Forall₂ ReportsSerial
      ((Block.ofText Mvcli.driveMarker output).map (·.printed ["Serial"]))
      ((Mvcli.drives output).map (·.serial)) ∧
    List.Forall₂ ReportsSerial
      ((Block.ofText Msecli.marker output).map (·.printed ["Serial No"]))
      ((Msecli.drives output).map (·.serial)) ∧
    List.Forall₂
      (fun printed reported => reported = Mac.format printed ∧
        (IsPlaceholder reported ↔ IsPlaceholder printed))
      ((Block.linesOfText Mlxup.marker output).map Mlxup.printedAddress)
      ((Mlxup.nics output).map (·.serial)) := by
  refine ⟨fun device read => ?_, fun _ => Smartctl.reportsSerial_drive,
    fun _ => NvmeCli.reportsSerials_drives, fun _ _ => Storcli.reportsSerials_report, ?_, ?_, ?_⟩
  · obtain ⟨tree, described, rfl⟩ := Lshw.device_eq_ok_iff.1 read
    exact ⟨tree, described, Lshw.reportsSerials_deviceOfTree tree⟩
  · rw [Mvcli.drives, List.map_map]
    exact forall₂_reportsSerial _ (·.reportsSerial_text ["Serial"])
  · rw [Msecli.drives, List.map_map]
    exact forall₂_reportsSerial _ (·.reportsSerial_text ["Serial No"])
  · rw [Mlxup.nics, List.map_map, List.forall₂_map_left_iff, List.forall₂_map_right_iff]
    exact List.forall₂_same.2 fun lines _ =>
      ⟨Mlxup.serial_nic lines, Mlxup.isPlaceholder_serial_nic lines⟩

/-- A card without an address is reported under a placeholder, and joins any other one. -/
theorem placeholder_reported :
    ∃ nic ∈ Mlxup.nics "Device Type: ConnectX5\nBase MAC: N/A\n",
      IsPlaceholder nic.serial ∧ sameSerial nic.serial "n/a" = true := by
  decide +kernel

end ServerInventory
