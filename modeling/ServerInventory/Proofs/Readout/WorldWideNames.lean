import ServerInventory.Proofs.Readout.Addresses
import ServerInventory.Proofs.Readout.Controllers
import ServerInventory.Proofs.Readout.DriveInfo
import ServerInventory.Proofs.Text.Hexadecimal

/-!
Drives known by their world-wide names. `smartctl` gives such a name in three parts and
`storcli` in sixteen digits, of any case. The parts are put one behind the other, each in as
many digits as its bits take, so either way the drive gets the sixteen small digits of the
64 bits that the parts make up, and no others (`wwns_agree`).
-/

namespace ServerInventory

/-! ## The digits of a name -/

/-- Whether a text is sixteen hexadecimal digits of a number, in any case. -/
structure Denotes (text : String) (number : Nat) : Prop where
  length : text.toList.length = 16
  digits : ∀ c ∈ text.toList, Chars.isHexDigit c = true
  value : Chars.hexValue text.toList = number

/-- Whether a text is the sixteen hexadecimal digits of a number in small letters. -/
structure Spells (text : String) (number : Nat) : Prop extends Denotes text number where
  small : ∀ c ∈ text.toList, c.toLower = c

theorem Spells.eq_iff {left right : String} {number other : Nat} (first : Spells left number)
    (second : Spells right other) : left = right ↔ number = other := by
  constructor
  · rintro rfl
    exact first.value.symm.trans second.value
  · rintro rfl
    refine String.toList_inj.1 (Chars.eq_of_hexValue_eq
      (fun c among => ⟨first.digits c among, first.small c among⟩)
      (fun c among => ⟨second.digits c among, second.small c among⟩)
      (first.length.trans second.length.symm) (first.value.trans second.value.symm))

theorem length_placeholders : (placeholders.all fun text => text.toList.length != 16) = true := by
  decide +kernel

/-- Digits of any case are kept by cleaning, and small letters make the one spelling of them. -/
theorem Denotes.spells_lowercase_cleaned {text : String} {number : Nat}
    (denotes : Denotes text number) : Spells (Text.lowercase (cleaned text)) number := by
  have plain : ∀ c ∈ text.toList, c.toNat < 0x80 ∧ Chars.isBlank c = false :=
    fun c among => Mac.plain_of_isHexDigit (denotes.digits c among)
  have trimmed : Chars.Trimmed text.toList := .of_visible fun c among => (plain c among).2
  have small : (Text.lowercase (Text.trim text)).toList = text.toList.map Char.toLower := by
    rw [Text.toList_lowercase, Text.toList_trim, trimmed.trim_eq,
      Chars.lowercase_of_ascii fun c among => (plain c among).1]
  -- No placeholder is as long as a name.
  have known : ¬IsPlaceholder text := by
    intro placeholder
    have other := List.all_eq_true.1 length_placeholders _ placeholder
    rw [small, List.length_map, denotes.length] at other
    cases other
  rw [cleaned_of_not_isPlaceholder known]
  refine ⟨⟨?_, ?_, ?_⟩, ?_⟩
  · rw [small, List.length_map, denotes.length]
  · rw [small]
    rintro _ mapped
    obtain ⟨c, among, rfl⟩ := List.mem_map.1 mapped
    rw [Chars.isHexDigit, Chars.hexValue?_toLower]
    exact denotes.digits c among
  · rw [small, Chars.hexValue_map_toLower, denotes.value]
  · rw [small]
    rintro _ mapped
    obtain ⟨c, among, rfl⟩ := List.mem_map.1 mapped
    exact Char.toLower_toLower_eq_toLower c

/-! ## Names in parts -/

namespace Smartctl

/-- The 64 bits that the parts of a name make up. -/
def Wwn.number (wwn : Wwn) : Nat :=
  wwn.naa * 2 ^ 60 + wwn.oui * 2 ^ 36 + wwn.id

/-- Whether each part keeps to its bits: four, 24 and 36. -/
structure Wwn.Fits (wwn : Wwn) : Prop where
  naa : wwn.naa < 2 ^ 4
  oui : wwn.oui < 2 ^ 24
  id : wwn.id < 2 ^ 36

variable {wwn other : Wwn}

theorem Wwn.Fits.spells (fits : wwn.Fits) : Spells wwn.text wwn.number := by
  -- No part is wider than its digits, so the places of those in front of it are as in the number.
  have first : (Chars.hexDigits 1 wwn.naa).length = 1 := Chars.length_hexDigits (by decide) fits.naa
  have next : (Chars.hexDigits 6 wwn.oui).length = 6 := Chars.length_hexDigits (by decide) fits.oui
  have last : (Chars.hexDigits 9 wwn.id).length = 9 := Chars.length_hexDigits (by decide) fits.id
  have parts : wwn.text.toList = Chars.hexDigits 1 wwn.naa ++ Chars.hexDigits 6 wwn.oui ++
      Chars.hexDigits 9 wwn.id := String.toList_ofList
  have small : ∀ c ∈ wwn.text.toList, Chars.IsSmallHex c := by
    rw [parts]
    intro c among
    simp only [List.mem_append] at among
    rcases among with (digit | digit) | digit
    all_goals exact Chars.isSmallHex_of_mem_hexDigits digit
  refine ⟨⟨?_, fun c among => (small c among).1, ?_⟩, fun c among => (small c among).2⟩
  · rw [parts, List.length_append, List.length_append, first, next, last]
  · rw [parts, Chars.hexValue_append, Chars.hexValue_append, next, last, Chars.hexValue_hexDigits,
      Chars.hexValue_hexDigits, Chars.hexValue_hexDigits, Wwn.number]
    omega

theorem Wwn.Fits.number_eq_iff (fits : wwn.Fits) (otherFits : other.Fits) :
    wwn.number = other.number ↔ wwn = other := by
  obtain ⟨naa, oui, id⟩ := wwn
  obtain ⟨otherNaa, otherOui, otherId⟩ := other
  obtain ⟨naaBound, ouiBound, idBound⟩ := fits
  obtain ⟨otherNaaBound, otherOuiBound, otherIdBound⟩ := otherFits
  simp only [Wwn.number, Wwn.mk.injEq] at *
  omega

/-- A drive that `smartctl -i -j` reports under a name. -/
def PrintsDrive (output : String) (wwn : Wwn) (drive : Drive) : Prop :=
  ∃ info, Describes output info ∧ info.wwn = some wwn ∧ wwn.Fits ∧ drive = info.drive

variable {output : String} {drive : Drive}

theorem PrintsDrive.reported (prints : PrintsDrive output wwn drive) :
    Smartctl.drive output = .ok drive := by
  obtain ⟨info, described, -, -, rfl⟩ := prints
  exact drive_of_describes described

theorem PrintsDrive.fits (prints : PrintsDrive output wwn drive) : wwn.Fits := by
  obtain ⟨info, -, -, fits, -⟩ := prints
  exact fits

theorem PrintsDrive.spells (prints : PrintsDrive output wwn drive) :
    Spells drive.wwn wwn.number := by
  obtain ⟨info, -, known, fits, rfl⟩ := prints
  have text : info.drive.wwn = wwn.text := by
    rw [Info.drive, known]
    rfl
  rw [text]
  exact fits.spells

/-- A document with nothing but a name. -/
def Wwn.document (wwn : Wwn) : Json :=
  .record [("wwn", .record
    [("naa", .ofNat wwn.naa), ("oui", .ofNat wwn.oui), ("id", .ofNat wwn.id)])]

/-- What is known of a drive of which nothing but the name is told. -/
def Wwn.info (wwn : Wwn) : Info :=
  { address := {}, modelFamily := "", modelName := "", scsiVendor := "", scsiProduct := "",
    scsiRevision := "", serialNumber := "", firmwareVersion := "", wwn := some wwn,
    capacityBytes := 0, logicalBlockSize := 0, rotationRate := none, passed := none }

theorem Wwn.Fits.info_writtenIn (fits : wwn.Fits) : wwn.info.WrittenIn wwn.document := by
  obtain ⟨naaBound, ouiBound, idBound⟩ := fits
  have parts : wwn.WrittenIn (.record
      [("naa", .ofNat wwn.naa), ("oui", .ofNat wwn.oui), ("id", .ofNat wwn.id)]) :=
    { once := .of_distinct _ (by decide : ["naa", "oui", "id"].Nodup)
      naa := Json.writesNatural_ofNat (naaBound.trans (by decide))
      oui := Json.writesNatural_ofNat (ouiBound.trans (by decide))
      id := Json.writesNatural_ofNat (idBound.trans (by decide)) }
  exact
    { once := .of_distinct _ (List.nodup_singleton "wwn")
      address := rfl
      modelFamily := rfl
      modelName := rfl
      scsiVendor := rfl
      scsiProduct := rfl
      scsiRevision := rfl
      serialNumber := rfl
      firmwareVersion := rfl
      wwn := ⟨nofun, parts⟩
      capacityBytes := rfl
      logicalBlockSize := rfl
      rotationRate := rfl
      passed := rfl }

theorem Wwn.legible_document : Json.Legible wwn.document := by
  have number : ∀ value : Nat, Json.Legible (.ofNat value) := fun _ =>
    .numeral (Json.Numeral.canonical_ofInt _)
  exact .record (List.forall_mem_singleton.2 (.record (List.forall_mem_cons.2 ⟨number _,
    List.forall_mem_cons.2 ⟨number _, List.forall_mem_singleton.2 (number _)⟩⟩)))

theorem Wwn.Fits.exists_drive (fits : wwn.Fits) :
    ∃ drive, PrintsDrive wwn.document.compact wwn drive :=
  ⟨_, wwn.info, describes_of_writtenIn (Json.ofText?_compact Wwn.legible_document)
    fits.info_writtenIn, rfl, fits, rfl⟩

end Smartctl

/-! ## Names in digits -/

namespace Storcli

/-- Whether an output has, in the answer of a controller that did what it was asked for, the
details of a drive with these attributes. -/
structure Details (output : String) (answer : Json) (name : String)
    (detail attributes : Json) : Prop where
  answered : ∃ entries entry, Lists output entries ∧ entry ∈ entries ∧ Succeeded entry ∧
    entry.member? "Response Data" = some answer
  found : answer.member? (name ++ " - Detailed Information") = some detail
  given : detail.member? (name ++ " Device attributes") = some attributes

variable {output name : String} {answer detail attributes : Json}

theorem Details.exists_drive (details : Details output answer name detail attributes) :
    ∃ controllers drives drive, report output = .ok (controllers, drives) ∧ drive ∈ drives ∧
      drive? answer (some (name ++ " - Detailed Information"), detail) = some drive ∧
      drive.wwn = Text.lowercase (textAt attributes "WWN") := by
  obtain ⟨⟨entries, entry, lists, among, succeeded, data⟩, found, given⟩ := details
  have stripped : Text.stripEnd? (name ++ " - Detailed Information") detailEnding = some name :=
    Text.stripEnd?_eq_some_iff.2 rfl
  obtain ⟨drive, reported, wwn⟩ : ∃ drive,
      drive? answer (some (name ++ " - Detailed Information"), detail) = some drive ∧
        drive.wwn = Text.lowercase (textAt attributes "WWN") := by
    simp only [drive?, Option.bind_eq_bind, Option.bind_some, stripped, given]
    refine ⟨_, rfl, ?_⟩
    rfl
  obtain ⟨_, _, members, -⟩ := List.lookup_eq_some_iff.1 found
  have member : (some (name ++ " - Detailed Information"), detail) ∈ answer.members :=
    members ▸ List.mem_append_right _ List.mem_cons_self
  refine ⟨_, _, drive, report_of_lists lists, ?_, reported, wwn⟩
  refine List.mem_flatMap.2 ⟨entry, among, ?_⟩
  rw [contribution_of_succeeded succeeded data]
  exact List.mem_filterMap.2 ⟨_, member, reported⟩

end Storcli

/-! ## One drive in both outputs -/

/-- A drive whose name `smartctl` gives in parts gets the sixteen small digits of the 64 bits
that they make up, whatever the parts; drives get the same digits only for the same parts;
and `storcli` gives a drive the same digits for that name, in whichever case it prints them. -/
theorem wwns_agree :
    (∀ output wwn drive, Smartctl.PrintsDrive output wwn drive →
      Smartctl.drive output = .ok drive ∧ Spells drive.wwn wwn.number) ∧
    (∀ wwn : Smartctl.Wwn, wwn.Fits →
      ∃ drive, Smartctl.PrintsDrive wwn.document.compact wwn drive) ∧
    (∀ output document info, Json.ofText? output = some document →
      Smartctl.Info.WrittenIn info document → Smartctl.Describes output info) ∧
    (∀ output query left right drive other, Smartctl.PrintsDrive output left drive →
      Smartctl.PrintsDrive query right other → (drive.wwn = other.wwn ↔ left = right)) ∧
    (∀ output wwn drive query answer name detail attributes printed,
      Smartctl.PrintsDrive output wwn drive →
      Storcli.Details query answer name detail attributes →
      attributes.member? "WWN" = some (.text printed) → Denotes printed wwn.number →
        ∃ controllers drives same, Storcli.report query = .ok (controllers, drives) ∧
          same ∈ drives ∧
          Storcli.drive? answer (some (name ++ " - Detailed Information"), detail) = some same ∧
          same.wwn = drive.wwn) := by
  refine ⟨fun _ _ _ prints => ⟨prints.reported, prints.spells⟩, fun _ fits => fits.exists_drive,
    fun _ _ _ => Smartctl.describes_of_writtenIn, ?_, ?_⟩
  · intro output query left right drive other prints otherPrints
    rw [prints.spells.eq_iff otherPrints.spells, prints.fits.number_eq_iff otherPrints.fits]
  · intro output wwn drive query answer name detail attributes printed prints details written
      denotes
    obtain ⟨controllers, drives, same, reported, among, found, digits⟩ := details.exists_drive
    refine ⟨controllers, drives, same, reported, among, found, ?_⟩
    have text : Storcli.textAt attributes "WWN" = cleaned printed := by
      rw [Storcli.textAt, written]
      rfl
    rw [digits, text]
    exact (denotes.spells_lowercase_cleaned.eq_iff prints.spells).2 rfl

def Storcli.attributesNaming (printed : String) : Json :=
  .record [("WWN", .text printed)]

def Storcli.detailNaming (printed : String) : Json :=
  .record [("Drive /c0/e8/s3 Device attributes", attributesNaming printed)]

def Storcli.answerNaming (printed : String) : Json :=
  .record [("Drive /c0/e8/s3 - Detailed Information", detailNaming printed)]

def Storcli.entryNaming (printed : String) : Json :=
  .record [("Command Status", .record [("Status", .text "Success")]),
    ("Response Data", answerNaming printed)]

theorem Storcli.details_naming (printed : String) :
    Details (alone (entryNaming printed)) (answerNaming printed) "Drive /c0/e8/s3"
      (detailNaming printed) (attributesNaming printed) := by
  have single : ∀ {room name document}, Json.Settled room document →
      Json.Settled (room + 1) (.record [(name, document)]) := fun settled =>
    .record (List.pairwise_singleton _ _) (List.forall_mem_singleton.2 settled)
  have entry : Json.Settled 125 (entryNaming printed) :=
    .record (List.pairwise_pair.2 (by decide +kernel : "Command Status" < "Response Data"))
      (List.forall_mem_cons.2 ⟨single (.text _), List.forall_mem_singleton.2
        (single (single (single (.text _))))⟩)
  exact
    { answered := ⟨_, _, lists_alone entry, List.mem_singleton_self _, ⟨_, rfl, rfl⟩, rfl⟩
      found := rfl
      given := rfl }

/-- Two names that are the same digits but for the zeros that fill up their parts, the one of
them also printed in capitals. -/
theorem wwns_agree_filled_up :
    ∃ drive other controllers drives same,
      Smartctl.drive (Smartctl.Wwn.document ⟨5, 0xA0, 0x754⟩).compact = .ok drive ∧
      Smartctl.drive (Smartctl.Wwn.document ⟨5, 0xA07, 0x54⟩).compact = .ok other ∧
      Spells drive.wwn 0x50000A0000000754 ∧ drive.wwn ≠ other.wwn ∧
      Storcli.report (Storcli.alone (Storcli.entryNaming "50000A0000000754")) =
        .ok (controllers, drives) ∧
      same ∈ drives ∧ same.wwn = drive.wwn := by
  obtain ⟨spelled, filled, tells, distinct, joined⟩ := wwns_agree
  have fits : Smartctl.Wwn.Fits ⟨5, 0xA0, 0x754⟩ := ⟨by decide, by decide, by decide⟩
  have otherFits : Smartctl.Wwn.Fits ⟨5, 0xA07, 0x54⟩ := ⟨by decide, by decide, by decide⟩
  obtain ⟨other, otherPrints⟩ := filled _ otherFits
  have described := tells _ _ _ (Json.ofText?_compact Smartctl.Wwn.legible_document)
    fits.info_writtenIn
  have prints : Smartctl.PrintsDrive (Smartctl.Wwn.document ⟨5, 0xA0, 0x754⟩).compact
      ⟨5, 0xA0, 0x754⟩ _ := ⟨_, described, rfl, fits, rfl⟩
  obtain ⟨reported, spells⟩ := spelled _ _ _ prints
  have denotes : Denotes "50000A0000000754" (Smartctl.Wwn.number ⟨5, 0xA0, 0x754⟩) :=
    ⟨by decide, List.all_eq_true.1 (by decide), by decide⟩
  obtain ⟨controllers, drives, same, listed, among, -, digits⟩ :=
    joined _ _ _ _ _ _ _ _ _ prints (Storcli.details_naming "50000A0000000754") rfl denotes
  refine ⟨_, other, controllers, drives, same, reported, (spelled _ _ _ otherPrints).1, spells,
    ?_, listed, among, digits⟩
  rw [Ne, distinct _ _ _ _ _ _ prints otherPrints]
  exact fun same => absurd (congrArg Smartctl.Wwn.oui same) (by decide)

end ServerInventory
