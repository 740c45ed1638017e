import ServerInventory.Device.Basic
import ServerInventory.Proofs.Json.Readers

/-!
The documents of a server and its components are taken back as they were, from the document
and from both texts it is written as (`documents_roundTrip`).

A component's document holds the members of its identity and its own side by side
(`Identity.StandsIn`), and a member of which there is nothing to say is left out. Both work as
no own member bears the name of one of the identity, and as what is left out is what a reader
puts in its place.
-/

namespace ServerInventory

open Json

/-! ## Maps that are left out when they are empty -/

namespace StringMap

variable {α : Type} {write : α → Json} {name key : String} {room : Nat}
  {found : List (String × Json)} {reader : Reader α}

theorem lookup_memberUnlessEmpty (map : StringMap α) :
    (map.memberUnlessEmpty name write).lookup name =
      if map.isEmpty then none
      else some (record (map.entries.map fun entry => (entry.1, write entry.2))) := by
  unfold StringMap.memberUnlessEmpty
  split
  · rfl
  · rw [List.lookup_cons_self]

theorem lookup_memberUnlessEmpty_of_ne (other : key ≠ name) (map : StringMap α) :
    (map.memberUnlessEmpty name write).lookup key = none := by
  unfold StringMap.memberUnlessEmpty
  split
  · rfl
  · rw [List.lookup_cons, beq_false_of_ne other]
    rfl

theorem lookup_memberUnlessEmpty_eq_none (map : StringMap α) :
    (map.memberUnlessEmpty name write).lookup name = none ↔ map = ∅ := by
  rw [lookup_memberUnlessEmpty]
  split
  · rename_i empty
    exact ⟨fun _ => StringMap.ext (List.isEmpty_iff.1 empty), fun _ => rfl⟩
  · rename_i filled
    constructor
    · nofun
    · rintro rfl
      exact absurd rfl filled

theorem sublist_memberUnlessEmpty (map : StringMap α) (name : String) (write : α → Json) :
    ((map.memberUnlessEmpty name write).map Prod.fst).Sublist [name] := by
  unfold StringMap.memberUnlessEmpty
  split
  · exact List.nil_sublist [name]
  · exact List.Sublist.refl [name]

theorem proper_memberUnlessEmpty (faithful : Faithful reader write room) (map : StringMap α)
    (name : String) :
    ∀ member ∈ map.memberUnlessEmpty name write, Proper (room + 1) member.2 := by
  unfold StringMap.memberUnlessEmpty
  split
  · nofun
  · intro member inside
    cases List.mem_singleton.1 inside
    exact faithful.map.proper map

/-- A map is read whether it was written or left out. -/
theorem defaulted_map (faithful : Faithful reader write room) (map : StringMap α)
    (written : found.lookup name = (map.memberUnlessEmpty name write).lookup name) :
    Members.defaulted ⟨room + 1, found⟩ name (.mapOf reader) ∅ = some map := by
  unfold Members.defaulted
  dsimp only
  rw [written, lookup_memberUnlessEmpty]
  by_cases empty : map.isEmpty
  · rw [if_pos empty]
    exact congrArg some (StringMap.ext (List.isEmpty_iff.1 empty).symm)
  · rw [if_neg empty]
    exact faithful.map.read map

end StringMap

/-! ## Firmware -/

namespace Firmware

/-- The members of the document of a firmware. -/
def members (firmware : Firmware) : List (String × Json) :=
  [("installed", .text firmware.installed)] ++
    (if firmware.available.isEmpty then [] else [("available", .text firmware.available)]) ++
    firmware.metadata.memberUnlessEmpty "metadata" .text

variable {room : Nat}

theorem proper_members (firmware : Firmware) :
    ∀ member ∈ firmware.members, Proper (room + 1) member.2 := by
  have metadata : ∀ member ∈ firmware.metadata.memberUnlessEmpty "metadata" Json.text,
      Proper (room + 1) member.2 :=
    StringMap.proper_memberUnlessEmpty faithful_text firmware.metadata "metadata"
  have available : ∀ member ∈ if firmware.available.isEmpty then []
      else [("available", Json.text firmware.available)], Proper (room + 1) member.2 := by
    split
    · nofun
    · exact List.forall_mem_singleton.2 (.text _)
  have installed : Proper (room + 1) (.text firmware.installed) := .text _
  unfold members
  exact List.forall_mem_append.2
    ⟨List.forall_mem_append.2 ⟨List.forall_mem_singleton.2 installed, available⟩, metadata⟩

theorem distinct_members (firmware : Firmware) : (firmware.members.map Prod.fst).Nodup := by
  have metadata := firmware.metadata.sublist_memberUnlessEmpty "metadata" Json.text
  have available : ((if firmware.available.isEmpty then []
      else [("available", Json.text firmware.available)]).map Prod.fst).Sublist ["available"] := by
    split
    · exact List.nil_sublist _
    · exact List.Sublist.refl _
  have names : (firmware.members.map Prod.fst).Sublist layout.names := by
    unfold members
    rw [List.map_append, List.map_append]
    exact (((List.Sublist.refl ["installed"]).append available).append metadata)
  exact names.nodup (by decide)

theorem lookup_metadata (firmware : Firmware) : firmware.members.lookup "metadata" =
    (firmware.metadata.memberUnlessEmpty "metadata" Json.text).lookup "metadata" := by
  unfold members
  by_cases empty : firmware.available.isEmpty = true
  · rw [if_pos empty]
    rfl
  · rw [if_neg empty]
    rfl

theorem faithful : Faithful reader document (room + 2) := by
  refine ⟨fun firmware => .record firmware.proper_members, fun firmware => ?_⟩
  have read : layout.members? (room + 2) (Json.record firmware.members) =
      some ⟨room + 1, firmware.members⟩ :=
    members?_record firmware.distinct_members firmware.proper_members
  have available : Members.defaulted ⟨room + 1, firmware.members⟩ "available" Reader.text "" =
      some firmware.available := by
    by_cases empty : firmware.available.isEmpty = true
    · have missing : firmware.members.lookup "available" = none := by
        unfold members
        rw [if_pos empty]
        exact firmware.metadata.lookup_memberUnlessEmpty_of_ne (by decide)
      rw [defaulted_absent missing, String.isEmpty_iff.1 empty]
    · unfold Members.defaulted members
      rw [if_neg empty]
      rfl
  have metadata : Members.defaulted ⟨room + 1, firmware.members⟩ "metadata" (.mapOf .text) ∅ =
      some firmware.metadata :=
    StringMap.defaulted_map faithful_text firmware.metadata firmware.lookup_metadata
  show (layout.members? (room + 2) (Json.record firmware.members)).bind _ = _
  rw [read]
  dsimp only [Option.bind_eq_bind, Option.bind_some]
  rw [available, metadata]
  rfl

end Firmware

/-! ## Identities -/

namespace Identity

variable {α : Type} {room : Nat} {own : List (String × Json)} {name : String}

theorem faithful_firmware : Faithful (.optional Firmware.reader)
    (fun firmware => (firmware.map Firmware.document).getD .null) (room + 2) := by
  constructor
  · intro firmware
    cases firmware with
    | none => exact .null
    | some firmware => exact Firmware.faithful.proper firmware
  · intro firmware
    cases firmware with
    | none => rfl
    | some firmware =>
      show (Firmware.reader (room + 2) firmware.document).map some = _
      rw [Firmware.faithful.read]
      rfl

theorem ofMembers?_members (identity : Identity) (apart : own.lookup "metadata" = none) :
    ofMembers? ⟨room + 2, identity.members ++ own⟩ = some identity := by
  have metadata : Members.defaulted ⟨room + 2, identity.members ++ own⟩ "metadata"
      (.mapOf .text) ∅ = some identity.metadata := by
    refine StringMap.defaulted_map faithful_text identity.metadata ?_
    unfold members
    rw [List.lookup_append, apart, Option.or_none]
    rfl
  unfold ofMembers?
  rw [metadata]
  show (do
    let firmware ← Reader.optional Firmware.reader (room + 2)
      ((identity.firmware.map Firmware.document).getD .null)
    _) = _
  rw [faithful_firmware.read]
  rfl

theorem names_members (identity : Identity) :
    (identity.members.map Prod.fst).Sublist memberNames := by
  have metadata := identity.metadata.sublist_memberUnlessEmpty "metadata" Json.text
  unfold members
  rw [List.map_append]
  exact (List.Sublist.refl ["vendor", "model", "serial", "description", "product_name", "oem",
    "firmware"]).append metadata

theorem proper_members (identity : Identity) :
    ∀ member ∈ identity.members, Proper (room + 2) member.2 := by
  have metadata : ∀ member ∈ identity.metadata.memberUnlessEmpty "metadata" Json.text,
      Proper (room + 2) member.2 :=
    StringMap.proper_memberUnlessEmpty faithful_text identity.metadata "metadata"
  have firmware : Proper (room + 2) ((identity.firmware.map Firmware.document).getD .null) :=
    faithful_firmware.proper identity.firmware
  unfold members
  refine List.forall_mem_append.2 ⟨?_, metadata⟩
  simp only [List.forall_mem_cons]
  exact ⟨.text _, .text _, .text _, .text _, .text _, .flag _, firmware, nofun⟩

/-- The members of a component's own stand behind those of its identity. -/
theorem lookup_own (identity : Identity) (other : name ∉ memberNames) :
    (identity.members ++ own).lookup name = own.lookup name := by
  have absent : identity.members.lookup name = none := by
    refine List.lookup_eq_none_iff.2 fun member inside => bne_iff_ne.2 fun same => other ?_
    exact same ▸ identity.names_members.subset (List.mem_map_of_mem inside)
  rw [List.lookup_append, absent, Option.none_or]

/-- A reader goes on with the value of a member of the component's own. -/
theorem bind_own {β γ : Type} {identity : Identity} {reader : Reader β} {document : Json}
    {value : β} {result : γ} {next : β → Option γ} (other : name ∉ memberNames)
    (written : own.lookup name = some document) (read : reader room document = some value)
    (rest : next value = some result) :
    (do next (← Members.required ⟨room, identity.members ++ own⟩ name reader)) = some result := by
  rw [required_eq ((identity.lookup_own other).trans written), read]
  exact rest

theorem bind_own_defaulted {β γ : Type} {identity : Identity} {reader : Reader β} {absent : β}
    {document : Json} {value : β} {result : γ} {next : β → Option γ} (other : name ∉ memberNames)
    (written : own.lookup name = some document) (read : reader room document = some value)
    (rest : next value = some result) :
    (do next (← Members.defaulted ⟨room, identity.members ++ own⟩ name reader absent)) =
      some result := by
  rw [defaulted_eq ((identity.lookup_own other).trans written), read]
  exact rest

theorem bind_own_map {β γ : Type} {identity : Identity} {reader : Reader β} {write : β → Json}
    {result : γ} {next : StringMap β → Option γ} (map : StringMap β) (other : name ∉ memberNames)
    (faithful : Faithful reader write room)
    (written : own.lookup name = (map.memberUnlessEmpty name write).lookup name)
    (rest : next map = some result) :
    (do next (← Members.defaulted ⟨room + 1, identity.members ++ own⟩ name (.mapOf reader) ∅)) =
      some result := by
  rw [StringMap.defaulted_map faithful map ((identity.lookup_own other).trans written)]
  exact rest

/-- The members of an identity stand in a document as in the document of the identity alone. -/
def StandsIn (identity : Identity) (document : Json) : Prop :=
  ∀ name ∈ memberNames, document.member? name = identity.document.member? name

/-- A faithful reader of a component whose document takes up that of its identity. -/
structure FaithfulComponent (reader : Reader α) (toIdentity : α → Identity) (write : α → Json)
    (room : Nat) : Prop extends Faithful reader write room where
  flat : ∀ component, (toIdentity component).StandsIn (write component)

/-- A component is read back from its document if its own members are read back from among
themselves, and none of them bears the name of a member of the identity. -/
theorem faithful_component {toIdentity : α → Identity} {own : α → List (String × Json)}
    {names : List String} {build : Identity → Members → Option α}
    (distinct : (memberNames ++ names).Nodup)
    (sublist : ∀ component, ((own component).map Prod.fst).Sublist names)
    (proper : ∀ component, ∀ member ∈ own component, Proper (room + 2) member.2)
    (read : ∀ component, build (toIdentity component)
      ⟨room + 2, (toIdentity component).members ++ own component⟩ = some component) :
    FaithfulComponent (fun room document => do
        let members ← (componentLayout names).members? room document
        let identity ← ofMembers? members
        build identity members)
      toIdentity (fun component => .record ((toIdentity component).members ++ own component))
      (room + 3) := by
  have proper component : ∀ member ∈ (toIdentity component).members ++ own component,
      Proper (room + 2) member.2 :=
    List.forall_mem_append.2 ⟨proper_members _, proper component⟩
  have apart component : ∀ name ∈ memberNames, (own component).lookup name = none := by
    intro name known
    refine List.lookup_eq_none_iff.2 fun member inside => bne_iff_ne.2 fun same => ?_
    have there := (sublist component).subset (List.mem_map_of_mem inside)
    exact (List.nodup_append.1 distinct).2.2 name known _ there same
  refine ⟨⟨fun component => .record (proper component), fun component => ?_⟩,
    fun component name known => ?_⟩
  · have fresh : (((toIdentity component).members ++ own component).map Prod.fst).Nodup := by
      rw [List.map_append]
      exact ((toIdentity component).names_members.append (sublist component)).nodup distinct
    rw [members?_record fresh (proper component)]
    dsimp only [Option.bind_eq_bind, Option.bind_some]
    rw [ofMembers?_members _ (apart component "metadata" (by decide))]
    exact read component
  · unfold document
    rw [member?_record, member?_record, List.lookup_append, apart component name known,
      Option.or_none]

theorem faithful : Faithful Identity.reader document (room + 3) := by
  refine ⟨fun identity => .record identity.proper_members, fun identity => ?_⟩
  have distinct : (identity.members.map Prod.fst).Nodup :=
    identity.names_members.nodup (by decide)
  have read : ofMembers? ⟨room + 2, identity.members ++ []⟩ = some identity :=
    ofMembers?_members identity rfl
  rw [List.append_nil] at read
  show (layout.members? (room + 3) (Json.record identity.members)).bind _ = _
  rw [members?_record distinct identity.proper_members]
  exact read

theorem member?_metadata (identity : Identity) :
    identity.document.member? "metadata" = none ↔ identity.metadata = ∅ := by
  have written : identity.members.lookup "metadata" =
      (identity.metadata.memberUnlessEmpty "metadata" Json.text).lookup "metadata" := rfl
  unfold document
  rw [member?_record, written, StringMap.lookup_memberUnlessEmpty_eq_none]

end Identity

/-! ## Components -/

open Identity

theorem Nic.faithful (room : Nat) :
    FaithfulComponent Nic.reader Nic.toIdentity Nic.document (room + 3) := by
  refine faithful_component (by decide) (fun nic => List.Sublist.refl _) ?_ ?_
  · intro nic
    simp only [List.forall_mem_cons]
    exact ⟨.text _, faithful_int64.proper _, .text _, nofun⟩
  · intro nic
    exact bind_own (by decide) rfl rfl <| bind_own (by decide) rfl (faithful_int64.read _) <|
      bind_own (by decide) rfl rfl rfl

theorem Bmc.faithful (room : Nat) :
    FaithfulComponent Bmc.reader Bmc.toIdentity Bmc.document (room + 3) := by
  refine faithful_component (by decide) (fun bmc => List.Sublist.refl _) ?_ ?_
  · intro bmc
    simp only [List.forall_mem_cons]
    exact ⟨.text _, .text _, nofun⟩
  · intro bmc
    exact bind_own (by decide) rfl rfl <| bind_own (by decide) rfl rfl rfl

theorem Bios.faithful (room : Nat) :
    FaithfulComponent Bios.reader Bios.toIdentity Bios.document (room + 3) := by
  refine faithful_component (by decide) (fun bios => List.Sublist.refl _) ?_ ?_
  · intro bios
    simp only [List.forall_mem_cons]
    exact ⟨.text _, faithful_int64.proper _, faithful_int64.proper _, nofun⟩
  · intro bios
    exact bind_own (by decide) rfl rfl <| bind_own (by decide) rfl (faithful_int64.read _) <|
      bind_own (by decide) rfl (faithful_int64.read _) rfl

theorem Cpld.faithful (room : Nat) :
    FaithfulComponent Cpld.reader Cpld.toIdentity Cpld.document (room + 3) := by
  have document : Cpld.document = fun cpld => .record (cpld.toIdentity.members ++ []) :=
    funext fun cpld => by rw [List.append_nil, Cpld.document]
  rw [document]
  exact faithful_component (by decide) (fun cpld => List.Sublist.refl _) (fun _ => nofun)
    fun cpld => rfl

theorem StorageController.faithful (room : Nat) :
    FaithfulComponent StorageController.reader StorageController.toIdentity
      StorageController.document (room + 3) := by
  refine faithful_component (by decide) (fun controller => List.Sublist.refl _) ?_ ?_
  · intro controller
    simp only [List.forall_mem_cons]
    exact ⟨.text _, .text _, .text _, .text _, faithful_int32.proper _, nofun⟩
  · intro controller
    exact bind_own (by decide) rfl rfl <| bind_own (by decide) rfl rfl <|
      bind_own (by decide) rfl rfl <| bind_own (by decide) rfl rfl <|
      bind_own (by decide) rfl (faithful_int32.read _) rfl

theorem Drive.faithful (room : Nat) :
    FaithfulComponent Drive.reader Drive.toIdentity Drive.document (room + 3) := by
  unfold Drive.document
  simp only [List.append_assoc]
  refine faithful_component (by decide) ?_ ?_ ?_
  · intro drive
    have capabilities := drive.capabilities.sublist_memberUnlessEmpty "capabilities" Json.flag
    rw [List.map_append]
    exact (List.Sublist.refl ["protocol", "drive_type", "logical_name", "capacity_bytes",
      "block_size_bytes", "wwn", "smart_status", "storage_controller"]).append capabilities
  · intro drive
    have capabilities : ∀ member ∈ drive.capabilities.memberUnlessEmpty "capabilities" Json.flag,
        Proper (room + 2) member.2 :=
      StringMap.proper_memberUnlessEmpty faithful_flag drive.capabilities "capabilities"
    refine List.forall_mem_append.2 ⟨?_, capabilities⟩
    simp only [List.forall_mem_cons]
    exact ⟨.text _, .text _, .text _, faithful_int64.proper _, faithful_int64.proper _, .text _,
      .text _, .text _, nofun⟩
  · intro drive
    exact bind_own (by decide) rfl rfl <| bind_own (by decide) rfl rfl <|
      bind_own (by decide) rfl rfl <| bind_own (by decide) rfl (faithful_int64.read _) <|
      bind_own (by decide) rfl (faithful_int64.read _) <| bind_own (by decide) rfl rfl <|
      bind_own (by decide) rfl rfl <| bind_own (by decide) rfl rfl <|
      bind_own_map drive.capabilities (by decide) faithful_flag rfl rfl

theorem Device.faithful (room : Nat) :
    FaithfulComponent Device.reader Device.toIdentity Device.document (room + 5) := by
  have drives := (Drive.faithful room).toFaithful.list
  have nics := (Nic.faithful room).toFaithful.list
  have controllers := (StorageController.faithful room).toFaithful.list
  have bmc := Bmc.faithful (room + 1)
  have bios := Bios.faithful (room + 1)
  have cpld := Cpld.faithful (room + 1)
  refine faithful_component (by decide) (fun device => List.Sublist.refl _) ?_ ?_
  · intro device
    simp only [List.forall_mem_cons]
    exact ⟨drives.proper _, nics.proper _, bmc.proper _, bios.proper _, cpld.proper _,
      controllers.proper _, nofun⟩
  · intro device
    exact bind_own_defaulted (by decide) rfl (drives.read _) <|
      bind_own_defaulted (by decide) rfl (nics.read _) <|
      bind_own_defaulted (by decide) rfl (bmc.read _) <|
      bind_own_defaulted (by decide) rfl (bios.read _) <|
      bind_own_defaulted (by decide) rfl (cpld.read _) <|
      bind_own_defaulted (by decide) rfl (controllers.read _) rfl

/-! ## The whole format -/

theorem Firmware.member?_available (firmware : Firmware) :
    firmware.document.member? "available" = none ↔ firmware.available = "" := by
  show (Json.record firmware.members).member? "available" = none ↔ _
  rw [member?_record, members]
  by_cases empty : firmware.available.isEmpty = true
  · rw [if_pos empty]
    exact ⟨fun _ => String.isEmpty_iff.1 empty,
      fun _ => firmware.metadata.lookup_memberUnlessEmpty_of_ne (by decide)⟩
  · rw [if_neg empty]
    constructor
    · nofun
    · exact fun same => absurd (String.isEmpty_iff.2 same) empty

theorem Firmware.member?_metadata (firmware : Firmware) :
    firmware.document.member? "metadata" = none ↔ firmware.metadata = ∅ := by
  show (Json.record firmware.members).member? "metadata" = none ↔ _
  rw [member?_record, firmware.lookup_metadata, StringMap.lookup_memberUnlessEmpty_eq_none]

theorem Drive.member?_capabilities (drive : Drive) :
    drive.document.member? "capabilities" = none ↔ drive.capabilities = ∅ := by
  unfold Drive.document
  rw [List.append_assoc, member?_record, lookup_own _ (by decide), List.lookup_append]
  show none.or ((drive.capabilities.memberUnlessEmpty "capabilities" Json.flag).lookup
    "capabilities") = none ↔ _
  rw [Option.none_or, StringMap.lookup_memberUnlessEmpty_eq_none]

/-- Every record of the format is taken back from the text it is written as, although an
identity stands among the members of its component and empty versions and maps are left out. -/
theorem documents_roundTrip :
    (RoundTrips Device.reader Device.document ∧ RoundTrips Drive.reader Drive.document ∧
      RoundTrips Nic.reader Nic.document ∧ RoundTrips Bmc.reader Bmc.document ∧
      RoundTrips Bios.reader Bios.document ∧ RoundTrips Cpld.reader Cpld.document ∧
      RoundTrips StorageController.reader StorageController.document ∧
      RoundTrips Firmware.reader Firmware.document ∧
      RoundTrips Identity.reader Identity.document) ∧
    ((∀ device : Device, device.toIdentity.StandsIn device.document) ∧
      (∀ drive : Drive, drive.toIdentity.StandsIn drive.document) ∧
      (∀ nic : Nic, nic.toIdentity.StandsIn nic.document) ∧
      (∀ bmc : Bmc, bmc.toIdentity.StandsIn bmc.document) ∧
      (∀ bios : Bios, bios.toIdentity.StandsIn bios.document) ∧
      (∀ cpld : Cpld, cpld.toIdentity.StandsIn cpld.document) ∧
      ∀ controller : StorageController, controller.toIdentity.StandsIn controller.document) ∧
    (∀ identity : Identity, identity.document.member? "metadata" = none ↔ identity.metadata = ∅) ∧
    (∀ firmware : Firmware,
      (firmware.document.member? "available" = none ↔ firmware.available = "") ∧
      (firmware.document.member? "metadata" = none ↔ firmware.metadata = ∅)) ∧
    ∀ drive : Drive, drive.document.member? "capabilities" = none ↔ drive.capabilities = ∅ :=
  ⟨⟨(Device.faithful _).roundTrips, (Drive.faithful _).roundTrips, (Nic.faithful _).roundTrips,
      (Bmc.faithful _).roundTrips, (Bios.faithful _).roundTrips, (Cpld.faithful _).roundTrips,
      (StorageController.faithful _).roundTrips, Firmware.faithful.roundTrips,
      Identity.faithful.roundTrips⟩,
    ⟨(Device.faithful 0).flat, (Drive.faithful 0).flat, (Nic.faithful 0).flat,
      (Bmc.faithful 0).flat, (Bios.faithful 0).flat, (Cpld.faithful 0).flat,
      (StorageController.faithful 0).flat⟩,
    Identity.member?_metadata,
    fun firmware => ⟨firmware.member?_available, firmware.member?_metadata⟩,
    Drive.member?_capabilities⟩

end ServerInventory
