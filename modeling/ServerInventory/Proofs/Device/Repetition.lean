import ServerInventory.Pass
import ServerInventory.Proofs.Merge.Absorption
import ServerInventory.Proofs.Record.Slices

/-!
Components that get the same once more. Features of a drive that were merged stay when all
the reports on the drive and then the features come in again (`Drive.withFeatures_again`). A
component that was named after the model of its server keeps the name when all the reports on
it come in again (`Named.again`), unless one of them knows better, in which case it was not
named after the server in the first place.
-/

namespace ServerInventory

/-! ## Merges of the features -/

/-- A merge of the features leaves the identity at the start of a record alone. -/
theorem Identity.record_settle_capabilities (left right : Identity) (own otherOwn : Record) :
    (left.record ++ own).settle (Change.passes (some "Capabilities"))
        (right.record ++ otherOwn) =
      left.record ++ own.settle (Change.passes (some "Capabilities")) otherOwn := by
  have alone : left.record.settle (Change.passes (some "Capabilities")) right.record =
      left.record := by
    simp (disch := decide) only [record, Record.ofList, Record.settle,
      Change.passes_under_of_ne, Field.settle_none]
  rw [Record.settle_append, alone]
  rfl

namespace Drive

/-- A drive with some features merged in. -/
def withFeatures (drive : Drive) (features : StringMap Bool) : Drive :=
  { drive with capabilities := .gather (·.getLastD false) [drive.capabilities, features] }

/-- A merge of the features leaves everything else alone. -/
theorem combineFor_capabilities (drive collected : Drive) :
    combineFor (some "Capabilities") drive collected =
      drive.withFeatures collected.capabilities := by
  refine eq_of_record_eq ?_
  rw [record_combineFor]
  change (record drive).settle (Change.passes (some "Capabilities")) (record collected) =
    record (drive.withFeatures collected.capabilities)
  simp (disch := decide) only [record, Identity.record_settle_capabilities, Record.ofList,
    Record.settle,
    Change.passes_under_of_ne, Field.settle_none, Change.passes_under_self,
    Change.isHarmless_under, Field.settle_flags]
  rfl

theorem withFeatures_empty (drive : Drive) : drive.withFeatures ∅ = drive := by
  have alone : StringMap.gather (·.getLastD false) [drive.capabilities, ∅] =
      drive.capabilities := by
    refine StringMap.ext_get? fun key => ?_
    rw [StringMap.get?_gather]
    change amongPresent _ [drive.capabilities.get? key, none] = drive.capabilities.get? key
    cases drive.capabilities.get? key <;> rfl
  rw [withFeatures, alone]

/-- A drive that nothing is reported on keeps its features. -/
theorem mergeField_nothing (drive : Drive) :
    mergeField drive { capabilities := .ofList [] } "Capabilities" = .ok ⟨drive, 0⟩ :=
  mergeChanges_of_idle (by
    rw [combineFor_capabilities]
    exact drive.withFeatures_empty)

end Drive

/-- What a rule makes of several values can stand for all of them. -/
theorem Collapses.append {α : Type} {blank : α} {choose : List α → α}
    (collapses : Collapses blank choose) : ∀ (first : α) (rest others : List α),
    choose (choose (first :: rest) :: others) = choose (first :: (rest ++ others))
  | first, [], others => by rw [collapses.single, List.nil_append]
  | first, second :: rest, others => by
    rw [← collapses.pair first second rest, collapses.append (choose [first, second]) rest,
      collapses.pair, List.cons_append]

namespace Drive

/-- The reports on a drive that come in after its features touch nothing but those, and the
features settle it again. -/
theorem exists_joined_withFeatures {collected : List Drive} {drive : Drive}
    (settled : Settled collected drive) (features : StringMap Bool) :
    ∃ capabilities, joined collected (drive.withFeatures features) = { drive with capabilities } ∧
      withFeatures { drive with capabilities } features = drive.withFeatures features := by
  have series := foldl_combine_eq overall_collapses combine_eq (reports collected drive)
  have flags := (getLastD_collapses false).gather
  obtain ⟨before, equal⟩ := settled
  have whole : overall (drive :: reports collected drive) = drive := by
    rw [← series]
    exact Settled.joined_eq ⟨before, equal⟩
  let all := (reports collected drive).map (·.capabilities)
  have known : drive.capabilities = .gather (·.getLastD false) (before.capabilities :: all) := by
    rw [series] at equal
    exact congrArg (·.capabilities) equal
  have once : (drive.withFeatures features).capabilities =
      .gather (·.getLastD false) (before.capabilities :: (all ++ [features])) := by
    rw [← flags.append, ← known]
    rfl
  have later : joined collected (drive.withFeatures features) =
      { drive with
        capabilities :=
          .gather (·.getLastD false) ((drive.withFeatures features).capabilities :: all) } := by
    have told : joined collected (drive.withFeatures features) =
        { overall (drive :: reports collected drive) with
          capabilities :=
            .gather (·.getLastD false) ((drive.withFeatures features).capabilities :: all) } :=
      foldl_combine_eq overall_collapses combine_eq (reports collected drive)
        (drive.withFeatures features)
    rw [told, whole]
  refine ⟨_, later, ?_⟩
  have echo := (getLastD_ignoresEcho false).gather
    (before.capabilities :: (all ++ [features])) (all ++ [features]) (List.suffix_cons _ _)
  have final : StringMap.gather (·.getLastD false)
      [.gather (·.getLastD false) ((drive.withFeatures features).capabilities :: all),
        features] = (drive.withFeatures features).capabilities := by
    rw [once, flags.append, flags.append]
    exact echo
  exact congrArg (fun capabilities => { drive with capabilities }) final

end Drive

/-! ## Models in place of none -/

theorem lastKnown_eq_blank_iff {α : Type} [DecidableEq α] {blank : α} :
    ∀ values : List α, lastKnown blank values = blank ↔ ∀ value ∈ values, value = blank
  | [] => iff_of_true rfl nofun
  | first :: rest => by
    rw [lastKnown_cons, List.forall_mem_cons, ← lastKnown_eq_blank_iff rest]
    split
    · rename_i unknown
      exact ⟨fun same => ⟨same, unknown⟩, fun both => both.1⟩
    · rename_i told
      exact ⟨fun same => absurd same told, fun both => absurd both.2 told⟩

/-- An identity that settled without a model of its own keeps the one that it was given. -/
theorem Identity.foldl_combine_withModel {fragments : List Identity} {identity : Identity}
    (settled : fragments.foldl combine identity = identity) (model : String) :
    (fragments.foldl combine (identity.withModel model)).withModel model =
      identity.withModel model := by
  have series := foldl_combine_eq overall_collapses combine_eq fragments
  rw [series] at settled
  rw [series]
  by_cases missing : identity.model.isEmpty = true
  · have unnamed : identity.model = "" := String.isEmpty_iff.1 missing
    have silent : lastKnown "" (fragments.map (·.model)) = "" := by
      have models : lastKnown "" (identity.model :: fragments.map (·.model)) = identity.model :=
        congrArg (·.model) settled
      rw [unnamed, lastKnown_eq_blank_iff] at models
      exact (lastKnown_eq_blank_iff _).2 (List.forall_mem_cons.1 models).2
    have named : identity.withModel model = { identity with model } := if_pos missing
    have again : overall ({ identity with model } :: fragments) = { identity with model } := by
      have told : overall ({ identity with model } :: fragments) =
          { overall (identity :: fragments) with
            model := lastKnown "" (model :: fragments.map (·.model)) } := rfl
      rw [told, settled, lastKnown_cons, if_pos silent]
    rw [named, again, withModel]
    split <;> rfl
  · have own : identity.withModel model = identity := if_neg missing
    rw [own, settled, own]

/-- A type of components that may take the model of their server. -/
class Named (α : Type) [Recordable α] where
  identity : α → Identity
  withIdentity : α → Identity → α
  withIdentity_identity : ∀ component, withIdentity component (identity component) = component
  identity_withIdentity : ∀ component own, identity (withIdentity component own) = own
  withIdentity_withIdentity : ∀ component first second,
    withIdentity (withIdentity component first) second = withIdentity component second
  combine_withIdentity : ∀ (component : α) own collected,
    combine (withIdentity component own) collected =
      withIdentity (combine component collected) (combine own (identity collected))

instance : Named Bmc where
  identity bmc := bmc.toIdentity
  withIdentity bmc toIdentity := { bmc with toIdentity }
  withIdentity_identity _ := rfl
  identity_withIdentity _ _ := rfl
  withIdentity_withIdentity _ _ _ := rfl
  combine_withIdentity bmc own collected := by
    rw [Bmc.combine_eq, Bmc.combine_eq, Identity.combine_eq]
    rfl

instance : Named Bios where
  identity bios := bios.toIdentity
  withIdentity bios toIdentity := { bios with toIdentity }
  withIdentity_identity _ := rfl
  identity_withIdentity _ _ := rfl
  withIdentity_withIdentity _ _ _ := rfl
  combine_withIdentity bios own collected := by
    rw [Bios.combine_eq, Bios.combine_eq, Identity.combine_eq]
    rfl

instance : Named Cpld where
  identity cpld := cpld.toIdentity
  withIdentity cpld toIdentity := { cpld with toIdentity }
  withIdentity_identity _ := rfl
  identity_withIdentity _ _ := rfl
  withIdentity_withIdentity _ _ _ := rfl
  combine_withIdentity cpld own collected := by
    rw [Cpld.combine_eq, Identity.combine_eq]
    rfl

namespace Named

variable {α : Type} [Recordable α] [Named α]

/-- A component named after the model of its server, if it has no model of its own. -/
def withModel (component : α) (model : String) : α :=
  withIdentity component ((identity component).withModel model)

theorem foldl_combine_withIdentity (fragments : List α) : ∀ (component : α) (own : Identity),
    fragments.foldl combine (withIdentity component own) =
      withIdentity (fragments.foldl combine component)
        ((fragments.map identity).foldl combine own) := by
  induction fragments with
  | nil => exact fun _ _ => rfl
  | cons fragment fragments ih =>
    intro component own
    rw [List.foldl_cons, combine_withIdentity, ih]
    rfl

/-- A component that settled without a model of its own keeps the one that it was given. -/
theorem foldl_combine_withModel {fragments : List α} {component : α}
    (settled : fragments.foldl combine component = component) (model : String) :
    withModel (fragments.foldl combine (withModel component model)) model =
      withModel component model := by
  have own : (fragments.map identity).foldl combine (identity component) =
      identity component := by
    have parts := foldl_combine_withIdentity fragments component (identity component)
    rw [withIdentity_identity, settled] at parts
    rw [← identity_withIdentity component (List.foldl combine _ _), ← parts]
  have named := Identity.foldl_combine_withModel own model
  rw [withModel, withModel, foldl_combine_withIdentity, settled, identity_withIdentity,
    withIdentity_withIdentity, named]

end Named

/-! ## Servers -/

section

variable {α : Type} [Identified α]

/-- A treatment of parts that may come after any joins: it leaves the serial numbers alone,
and a list that it has treated gets the same once more. -/
structure Repeats (treat : List α → List α) : Prop where
  serials : ∀ parts, (treat parts).map Identified.serial = parts.map Identified.serial
  again : ∀ collected parts, (∀ part ∈ parts, Settled collected part) →
    treat ((treat parts).map (joined collected)) = treat parts

theorem repeats_id [Inhabited α] [Repeatable α] : Repeats (id : List α → List α) :=
  ⟨fun _ => rfl, fun _ _ settled => map_joined_of_settled settled⟩

theorem any_reportsOn_of_serials {parts others : List α}
    (same : parts.map Identified.serial = others.map Identified.serial) (fragment : α) :
    parts.any (reportsOn fragment) = others.any (reportsOn fragment) := by
  have bySerial : ∀ parts : List α, parts.any (reportsOn fragment) =
      (parts.map Identified.serial).any fun serial =>
        Identified.serial fragment ≠ "" ∧
          Text.lowercase (Identified.serial fragment) = Text.lowercase serial := by
    intro parts
    rw [List.any_map]
    rfl
  rw [bySerial, bySerial, same]

variable [LawfulIdentified α]

theorem map_joined_append (early late parts : List α) :
    (parts.map (joined early)).map (joined late) = parts.map (joined (early ++ late)) := by
  rw [List.map_map]
  exact List.map_congr_left fun part _ => (joined_append early late part).symm

/-- If all that is found has a serial number, nothing of it is added to the parts that were
absorbed, joined and treated. -/
theorem Repeats.absorbed_treated {treat : List α → List α} (repeats : Repeats treat)
    {found : List α} (lettered : ∀ part ∈ found, Identified.serial part ≠ "")
    (known collected : List α) :
    absorbed (treat ((absorbed known found).map (joined collected))) found =
      (treat ((absorbed known found).map (joined collected))).map (joined found) := by
  have met : ∀ fragment ∈ found, Identified.serial fragment ≠ "" →
      (treat ((absorbed known found).map (joined collected))).any (reportsOn fragment) =
        true := by
    intro fragment member there
    rw [any_reportsOn_of_serials (repeats.serials _), any_map_joined]
    exact any_absorbed known member there
  have complete : found.filter lacksSerial = [] :=
    List.filter_eq_nil_iff.2 fun part member lacking =>
      lettered part member (of_decide_eq_true lacking)
  rw [absorbed_of_met met, complete, List.append_nil]

variable [Inhabited α] [Repeatable α]

/-- Parts that were absorbed and joined end with all that was said of them. -/
theorem settled_joined_absorbed (known found collected : List α) :
    ∀ part ∈ (absorbed known found).map (joined collected),
      Settled (found ++ collected) part := by
  intro part member
  obtain ⟨before, inside, rfl⟩ := List.mem_map.1 member
  exact (settled_absorbed known found before inside).joined collected

/-- Parts that were absorbed, joined and treated get the same once more. -/
theorem Repeats.absorbed_again {treat : List α → List α} (repeats : Repeats treat)
    {found : List α} (lettered : ∀ part ∈ found, Identified.serial part ≠ "")
    (known collected : List α) :
    let parts := treat ((absorbed known found).map (joined collected))
    treat ((absorbed parts found).map (joined collected)) = parts := by
  intro parts
  rw [repeats.absorbed_treated lettered, map_joined_append]
  exact repeats.again _ _ (settled_joined_absorbed known found collected)

end

/-- What a pass brings to a server after the baseline. -/
structure Contribution where
  drives : List Drive
  /-- How the features of the joined drives are merged. -/
  features : List Drive → List Drive
  nics : List Nic
  bmc : List Bmc
  bios : List Bios
  cpld : List Cpld
  storageControllers : List StorageController
  /-- Whether components are named after the model of the server. -/
  names : Bool

namespace Contribution

/-- A server with what a pass brings to it. -/
def addTo (brought : Contribution) (device : Device) : Device :=
  let merged : Device :=
    { device with
      drives := brought.features (device.drives.map (joined brought.drives))
      nics := device.nics.map (joined brought.nics)
      bmc := brought.bmc.foldl combine device.bmc
      bios := brought.bios.foldl combine device.bios
      cpld := brought.cpld.foldl combine device.cpld
      storageControllers := device.storageControllers.map (joined brought.storageControllers) }
  if brought.names then merged.withModels else merged

/-- The only component of a class, after all that is merged into it and the naming. -/
def single {α : Type} [Recordable α] [Named α] (names : Bool) (model : String)
    (fragments : List α) (known : α) : α :=
  if names then Named.withModel (fragments.foldl combine known) model
  else fragments.foldl combine known

theorem single_again {α : Type} [Recordable α] [Inhabited α] [Repeatable α] [Named α]
    (names : Bool) (model : String) (fragments : List α) (known : α) :
    single names model fragments (single names model fragments known) =
      single names model fragments known := by
  have settled := Repeatable.again fragments known
  cases names with
  | false => exact settled
  | true => exact Named.foldl_combine_withModel settled model

theorem addTo_eq (brought : Contribution) (device : Device) : brought.addTo device =
    { device with
      drives := brought.features (device.drives.map (joined brought.drives))
      nics := device.nics.map (joined brought.nics)
      bmc := single brought.names device.model brought.bmc device.bmc
      bios := single brought.names device.model brought.bios device.bios
      cpld := single brought.names device.model brought.cpld device.cpld
      storageControllers :=
        device.storageControllers.map (joined brought.storageControllers) } := by
  unfold addTo single
  cases brought.names <;> rfl

/-- What a pass brings is there after the pass, and makes no difference when it is brought
once more on top of the same baseline. -/
theorem addTo_absorbed_again (brought : Contribution) (repeats : Repeats brought.features)
    {found : Device}
    (drives : ∀ part ∈ found.drives, Identified.serial part ≠ "")
    (nics : ∀ part ∈ found.nics, Identified.serial part ≠ "")
    (controllers : ∀ part ∈ found.storageControllers, Identified.serial part ≠ "")
    (known : Device) :
    let once := brought.addTo (known.absorbed found)
    brought.addTo (once.absorbed found) = once := by
  intro once
  let model := (combine known.toIdentity found.toIdentity).model
  have identity := combine_again known.toIdentity found.toIdentity
  have drivesAgain := repeats.absorbed_again drives known.drives brought.drives
  have nicsAgain := repeats_id.absorbed_again nics known.nics brought.nics
  have controllersAgain := repeats_id.absorbed_again controllers known.storageControllers
    brought.storageControllers
  have bmc := single_again brought.names model (found.bmc :: brought.bmc) known.bmc
  have bios := single_again brought.names model (found.bios :: brought.bios) known.bios
  have cpld := single_again brought.names model (found.cpld :: brought.cpld) known.cpld
  have equal : once = _ := brought.addTo_eq (known.absorbed found)
  have sameModel : (once.absorbed found).model = model := by
    rw [equal]
    exact congrArg (·.model) identity
  rw [addTo_eq, sameModel, equal, Device.mk.injEq]
  exact ⟨identity, drivesAgain, nicsAgain, bmc, bios, cpld, controllersAgain⟩

end Contribution

end ServerInventory
