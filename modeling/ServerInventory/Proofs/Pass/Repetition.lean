import ServerInventory.Proofs.Device.Repetition
import ServerInventory.Proofs.Pass.Course

/-!
A pass that is repeated. A pass brings the same to a server each time, as long as the
collectors answer alike (`Registry.finished_eq`). Its second run starts with a baseline that
takes some attributes back, but what it leaves in the end is what the first run left
(`Pass.collect_again`).
-/

namespace ServerInventory

namespace Registry

variable (registry : Registry) (config : Config) (executor : Executor)

/-- What is found for one of some classes of components, unless a call for it fails. -/
def heard {α : Type} (kinds : List ComponentKind) (kind : ComponentKind) (found : List α) :
    List α :=
  if kind ∈ kinds ∧ firstFailure executor (registry.classCalls kind) = none then found else []

/-- The treatment of drives in the work on some classes of components. -/
def treatment (kinds : List ComponentKind) (drives : List Drive) : List Drive :=
  if .drive ∈ kinds ∧ firstFailure executor (registry.classCalls .drive) = none ∧
      config.collectDriveCapabilities = true then
    registry.featuredUpToFailure executor drives
  else drives

/-- What the work on some classes of components brings to a server. -/
def contribution (kinds : List ComponentKind) (names : Bool) : Contribution :=
  { drives := registry.heard executor kinds .drive (foundBy executor registry.drives)
    features := registry.treatment config executor kinds
    nics := registry.heard executor kinds .nic (foundBy executor registry.nics.toList)
    bmc := registry.heard executor kinds .bmc (Pass.toldBy executor registry.bmc)
    bios := registry.heard executor kinds .bios (Pass.toldBy executor registry.bios)
    cpld := registry.heard executor kinds .cpld (Pass.toldBy executor registry.cpld)
    storageControllers :=
      registry.heard executor kinds .storageController
        (foundBy executor registry.storageControllers)
    names }

variable {registry config executor} {α : Type} {kinds : List ComponentKind}
  {kind other : ComponentKind} {found : List α}

theorem heard_cons (outside : kind ∉ kinds) :
    registry.heard executor (kind :: kinds) other found =
      registry.heard executor [kind] other found ++
        registry.heard executor kinds other found := by
  unfold heard
  by_cases same : other = kind
  · obtain rfl := same
    by_cases nowhere : firstFailure executor (registry.classCalls other) = none <;>
      simp [nowhere, outside]
  · simp [same]

theorem heard_of_ne (different : other ≠ kind) :
    registry.heard executor [kind] other found = [] :=
  if_neg fun both => different (List.mem_singleton.1 both.1)

theorem heard_of_failing {error : Error}
    (failing : firstFailure executor (registry.classCalls kind) = some error) :
    registry.heard executor [kind] other found = [] := by
  refine if_neg fun both => ?_
  rw [List.mem_singleton.1 both.1, failing] at both
  exact nomatch both.2

theorem heard_self (nowhere : firstFailure executor (registry.classCalls kind) = none) :
    registry.heard executor [kind] kind found = found :=
  if_pos ⟨List.mem_singleton.2 rfl, nowhere⟩

theorem heard_of_notMem (outside : kind ∉ kinds) :
    registry.heard executor kinds kind found = [] :=
  if_neg fun both => outside both.1

theorem treatment_of_notMem (outside : .drive ∉ kinds) :
    registry.treatment config executor kinds = id :=
  funext fun _ => if_neg fun all => outside all.1

theorem treatment_cons_of_ne (different : kind ≠ .drive) :
    registry.treatment config executor (kind :: kinds) =
      registry.treatment config executor kinds := by
  funext drives
  refine if_congr ?_ rfl rfl
  rw [List.mem_cons, or_iff_right different.symm]

theorem treatment_cons_drive (kinds : List ComponentKind) :
    registry.treatment config executor (.drive :: kinds) =
      registry.treatment config executor [.drive] := by
  funext drives
  refine if_congr ?_ rfl rfl
  rw [and_iff_right List.mem_cons_self, and_iff_right List.mem_cons_self]

theorem treatment_of_failing {error : Error}
    (failing : firstFailure executor (registry.classCalls kind) = some error) :
    registry.treatment config executor [kind] = id := by
  funext drives
  refine if_neg fun all => ?_
  rw [List.mem_singleton.1 all.1, failing] at all
  exact nomatch all.2.1

theorem treatment_drive (nowhere : firstFailure executor (registry.classCalls .drive) = none) :
    registry.treatment config executor [.drive] = fun drives =>
      if config.collectDriveCapabilities = true then
        registry.featuredUpToFailure executor drives
      else drives := by
  funext drives
  refine if_congr ?_ rfl rfl
  rw [and_iff_right List.mem_cons_self, and_iff_right nowhere]

theorem joined_nil [Identified α] : joined ([] : List α) = id := rfl

/-- The work on one class of components. -/
theorem collected_eq_addTo (device : Device) (kind : ComponentKind) :
    registry.collected config executor device kind =
      (registry.contribution config executor [kind] false).addTo device := by
  rw [Contribution.addTo_eq]
  cases failing : firstFailure executor (registry.classCalls kind) with
  | some error =>
    simp only [contribution, heard_of_failing failing, treatment_of_failing failing, joined_nil,
      List.map_id]
    rw [collected, failing]
    rfl
  | none =>
    by_cases drive : kind = .drive
    · subst drive
      simp (disch := decide) only [contribution, heard_self failing, heard_of_ne,
        treatment_drive failing, joined_nil, List.map_id]
      rw [Pass.collected_drive _ _ failing, joinedDrives, mergeBySerial_eq]
      rfl
    · have unfailed : ¬ (firstFailure executor (registry.classCalls kind)).isSome = true :=
        Option.not_isSome_iff_eq_none.2 failing
      rw [Pass.collected_of_ne_drive _ _ _ drive, if_neg unfailed]
      cases kind with
      | drive => exact absurd rfl drive
      | nic | storageController =>
        simp (disch := decide) only [contribution, heard_self failing, heard_of_ne,
          treatment_of_notMem, joined_nil, List.map_id]
        rw [completed, mergeBySerial_eq]
        rfl
      | bmc | bios | cpld =>
        simp (disch := decide) only [contribution, heard_self failing, heard_of_ne,
          treatment_of_notMem, joined_nil, List.map_id]
        rw [completed, Pass.combineFound_eq]
        rfl

/-- The work on one more class of components adds to that on the others. -/
theorem addTo_addTo (outside : kind ∉ kinds) (device : Device) :
    (registry.contribution config executor kinds false).addTo
        ((registry.contribution config executor [kind] false).addTo device) =
      (registry.contribution config executor (kind :: kinds) false).addTo device := by
  have parts : ∀ {α : Type} [Identified α] [LawfulIdentified α] (other : ComponentKind)
      (found parts : List α),
      (parts.map (joined (registry.heard executor [kind] other found))).map
          (joined (registry.heard executor kinds other found)) =
        parts.map (joined (registry.heard executor (kind :: kinds) other found)) := by
    intro α _ _ other found parts
    rw [map_joined_append, ← heard_cons outside]
  have single : ∀ {α : Type} [Recordable α] (other : ComponentKind) (found : List α) (known : α),
      (registry.heard executor kinds other found).foldl combine
          ((registry.heard executor [kind] other found).foldl combine known) =
        (registry.heard executor (kind :: kinds) other found).foldl combine known := by
    intro α _ other found known
    rw [← List.foldl_append, ← heard_cons outside]
  have drives : ∀ found drives : List Drive,
      registry.treatment config executor kinds
          ((registry.treatment config executor [kind]
            (drives.map (joined (registry.heard executor [kind] .drive found)))).map
              (joined (registry.heard executor kinds .drive found))) =
        registry.treatment config executor (kind :: kinds)
          (drives.map (joined (registry.heard executor (kind :: kinds) .drive found))) := by
    intro found drives
    by_cases drive : kind = .drive
    · subst drive
      rw [heard_cons outside, heard_of_notMem outside, List.append_nil,
        treatment_of_notMem outside, treatment_cons_drive kinds, joined_nil, List.map_id]
      rfl
    · have alone : .drive ∉ [kind] := fun inside => drive (List.mem_singleton.1 inside).symm
      rw [treatment_of_notMem alone, treatment_cons_of_ne drive, ← parts]
      rfl
  rw [Contribution.addTo_eq, Contribution.addTo_eq, Contribution.addTo_eq, Device.mk.injEq]
  exact ⟨rfl, drives _ _, parts _ _ _, single _ _ _, single _ _ _, single _ _ _, parts _ _ _⟩

/-- The classes on which work is done before an error ends it. -/
def reached (registry : Registry) (config : Config) (executor : Executor)
    (drives : List Drive) : List ComponentKind → List ComponentKind
  | [] => []
  | kind :: kinds =>
    if (firstFailure executor (registry.calls config drives kind)).isSome then [kind]
    else kind :: reached registry config executor drives kinds

variable {drives : List Drive}

theorem reached_subset : ∀ {kinds : List ComponentKind},
    registry.reached config executor drives kinds ⊆ kinds
  | [] => List.Subset.refl []
  | kind :: kinds => by
    rw [reached]
    split
    · exact List.cons_subset.2 ⟨List.mem_cons_self, List.nil_subset _⟩
    · exact List.cons_subset_cons kind reached_subset

theorem contribution_nil (device : Device) :
    (registry.contribution config executor [] false).addTo device = device := by
  rw [Contribution.addTo_eq]
  simp only [contribution, heard_of_notMem List.not_mem_nil,
    treatment_of_notMem List.not_mem_nil, joined_nil, List.map_id]
  rfl

/-- The work on classes other than the drives leaves the drives alone. -/
theorem drives_collected (different : kind ≠ .drive) (device : Device) :
    (registry.collected config executor device kind).drives = device.drives := by
  rw [Pass.collected_of_ne_drive _ _ _ different]
  split
  · rfl
  · cases kind with
    | drive => exact absurd rfl different
    | _ => rfl

/-- The calls for classes other than the drives do not depend on the drives. So those drives
count that the drives are joined to, wherever they come in the work. -/
theorem calls_eq {device : Device}
    (same : kind = .drive → registry.joinedDrives executor device.drives = drives) :
    registry.calls config (registry.joinedDrives executor device.drives) kind =
      registry.calls config drives kind := by
  by_cases drive : kind = .drive
  · rw [same drive]
  · rw [Pass.calls_of_ne_drive _ _ _ drive, Pass.calls_of_ne_drive _ _ _ drive]

/-- The calls for some classes, and what the work on them brings, are settled by the
drives that the features are asked for. -/
theorem course_eq : ∀ {kinds : List ComponentKind}, kinds.Nodup → ∀ device : Device,
    (.drive ∈ kinds → registry.joinedDrives executor device.drives = drives) →
    registry.callsFrom config executor device kinds =
        kinds.flatMap (registry.calls config drives) ∧
      registry.course config executor device kinds =
        (registry.contribution config executor (registry.reached config executor drives kinds)
          false).addTo device
  | [], _, device, _ => ⟨rfl, (contribution_nil device).symm⟩
  | kind :: kinds, distinct, device, joins => by
    obtain ⟨outside, othersDistinct⟩ := List.nodup_cons.1 distinct
    have first : registry.calls config (registry.joinedDrives executor device.drives) kind =
        registry.calls config drives kind :=
      calls_eq fun drive => joins (drive ▸ List.mem_cons_self)
    have later : .drive ∈ kinds →
        registry.joinedDrives executor (registry.collected config executor device kind).drives =
          drives := by
      intro inside
      have different : kind ≠ .drive := fun drive => outside (drive ▸ inside)
      rw [drives_collected different, joins (List.mem_cons_of_mem kind inside)]
    obtain ⟨calls, course⟩ := course_eq othersDistinct _ later
    refine ⟨?_, ?_⟩
    · rw [callsFrom, first, calls, List.flatMap_cons]
    · rw [Registry.course, first, course, reached]
      split
      · exact collected_eq_addTo device kind
      · rw [collected_eq_addTo, addTo_addTo fun inside => outside (reached_subset inside)]

/-- A server after the work on all classes of components. -/
theorem finished_eq (device : Device) :
    let drives := registry.joinedDrives executor device.drives
    registry.finished config executor device =
      (registry.contribution config executor
        (registry.reached config executor drives ComponentKind.all)
        (firstFailure executor
          (ComponentKind.all.flatMap (registry.calls config drives))).isNone).addTo device := by
  intro drives
  have distinct : ComponentKind.all.Nodup := by decide
  have joins : .drive ∈ ComponentKind.all →
      registry.joinedDrives executor device.drives = drives := fun _ => rfl
  obtain ⟨calls, course⟩ := course_eq distinct device joins
  rw [finished, calls, course]
  cases firstFailure executor (ComponentKind.all.flatMap (registry.calls config drives)) <;> rfl

/-! ## Features again -/

/-- The features that are found for the drive at a path. -/
def featuresAt (registry : Registry) (executor : Executor) (logicalName : String) :
    Option (StringMap Bool) :=
  if logicalName.isEmpty then none
  else ((registry.featureCollector { logicalName }).answer executor).data?.map .ofList

theorem featured_eq (drive : Drive) : registry.featured executor drive =
    (registry.featuresAt executor drive.logicalName).elim drive drive.withFeatures := by
  have same : registry.featureCollector { logicalName := drive.logicalName } =
      registry.featureCollector drive := rfl
  unfold featured featuresAt
  rw [same]
  split
  · rfl
  · cases ((registry.featureCollector drive).answer executor).data? with
    | none => rfl
    | some found => exact Drive.combineFor_capabilities drive { capabilities := .ofList found }

theorem exists_joined_featured {collected : List Drive} {drive : Drive}
    (settled : Settled collected drive) :
    ∃ capabilities, joined collected (registry.featured executor drive) =
        { drive with capabilities } ∧
      registry.featured executor { drive with capabilities } =
        registry.featured executor drive := by
  rw [featured_eq]
  cases known : registry.featuresAt executor drive.logicalName with
  | none =>
    refine ⟨drive.capabilities, settled.joined_eq, ?_⟩
    rw [featured_eq]
    dsimp only
    rw [known]
  | some features =>
    obtain ⟨capabilities, joins, again⟩ := Drive.exists_joined_withFeatures settled features
    refine ⟨capabilities, joins, ?_⟩
    rw [featured_eq]
    dsimp only
    rw [known]
    exact again

theorem serial_featured (drive : Drive) :
    Identified.serial (registry.featured executor drive) = Identified.serial drive := by
  rw [featured_eq]
  cases registry.featuresAt executor drive.logicalName <;> rfl

/-- Drives with their features keep them, and are asked for the same, when all that settled
them comes in again. -/
theorem featuredUpToFailure_again (collected : List Drive) : ∀ drives : List Drive,
    (∀ drive ∈ drives, Settled collected drive) →
    let again := (registry.featuredUpToFailure executor drives).map (joined collected)
    again.map (·.logicalName) = drives.map (·.logicalName) ∧
      registry.featuredUpToFailure executor again = registry.featuredUpToFailure executor drives
  | [], _ => ⟨rfl, rfl⟩
  | drive :: rest, settled => by
    rw [featuredUpToFailure]
    by_cases failing : (firstFailure executor (registry.featureCalls [drive])).isSome = true
    · rw [if_pos failing, map_joined_of_settled settled]
      refine ⟨rfl, ?_⟩
      rw [featuredUpToFailure, if_pos failing]
    · obtain ⟨first, others⟩ := List.forall_mem_cons.1 settled
      obtain ⟨names, again⟩ := featuredUpToFailure_again collected rest others
      obtain ⟨capabilities, joins, featured⟩ : ∃ capabilities,
          joined collected (registry.featured executor drive) = { drive with capabilities } ∧
            registry.featured executor { drive with capabilities } =
              registry.featured executor drive := exists_joined_featured first
      have calls : registry.featureCalls [{ drive with capabilities }] =
          registry.featureCalls [drive] := featureCalls_congr rfl
      rw [if_neg failing, List.map_cons, joins]
      refine ⟨congrArg (drive.logicalName :: ·) names, ?_⟩
      rw [featuredUpToFailure, calls, if_neg failing, featured, again]

theorem serials_featuredUpToFailure : ∀ drives : List Drive,
    (registry.featuredUpToFailure executor drives).map Identified.serial =
      drives.map Identified.serial
  | [] => rfl
  | drive :: rest => by
    rw [featuredUpToFailure]
    split
    · rfl
    · rw [List.map_cons, List.map_cons, serial_featured, serials_featuredUpToFailure rest]

theorem repeats_featuredUpToFailure : Repeats (registry.featuredUpToFailure executor) :=
  ⟨serials_featuredUpToFailure, fun collected drives settled =>
    (featuredUpToFailure_again collected drives settled).2⟩

theorem repeats_treatment (kinds : List ComponentKind) :
    Repeats (registry.treatment config executor kinds) := by
  have either : registry.treatment config executor kinds =
        registry.featuredUpToFailure executor ∨
      registry.treatment config executor kinds = id := by
    by_cases treated : .drive ∈ kinds ∧
        firstFailure executor (registry.classCalls .drive) = none ∧
        config.collectDriveCapabilities = true
    · exact .inl (funext fun _ => if_pos treated)
    · exact .inr (funext fun _ => if_neg treated)
  rcases either with same | same
  · rw [same]
    exact repeats_featuredUpToFailure
  · rw [same]
    exact repeats_id

theorem joinedDrives_eq (known : List Drive) : registry.joinedDrives executor known =
    known.map (joined (foundBy executor registry.drives)) := by
  rw [joinedDrives, mergeBySerial_eq]

theorem drive_mem_reached (drives : List Drive) :
    .drive ∈ registry.reached config executor drives ComponentKind.all := by
  rw [ComponentKind.all, reached]
  split <;> exact List.mem_cons_self

/-! ## The same again -/

/-- Every part that is found in the three lists has a serial number. -/
structure Lettered (found : Device) : Prop where
  drives : ∀ drive ∈ found.drives, drive.serial ≠ ""
  nics : ∀ nic ∈ found.nics, nic.serial ≠ ""
  storageControllers : ∀ controller ∈ found.storageControllers, controller.serial ≠ ""

/-- The drives after a pass that asks for their features. -/
theorem drives_finished (nowhere : firstFailure executor (registry.classCalls .drive) = none)
    (asked : config.collectDriveCapabilities = true) (device : Device) :
    (registry.finished config executor device).drives =
      registry.featuredUpToFailure executor (registry.joinedDrives executor device.drives) := by
  have inside : .drive ∈ registry.reached config executor
      (registry.joinedDrives executor device.drives) ComponentKind.all :=
    drive_mem_reached _
  have heard : registry.heard executor (registry.reached config executor
      (registry.joinedDrives executor device.drives) ComponentKind.all) .drive
        (foundBy executor registry.drives) = foundBy executor registry.drives :=
    if_pos ⟨inside, nowhere⟩
  rw [finished_eq, Contribution.addTo_eq]
  change registry.treatment config executor _ (List.map (joined (registry.heard executor _
    .drive (foundBy executor registry.drives))) device.drives) = _
  rw [heard, treatment, if_pos ⟨inside, nowhere, asked⟩, joinedDrives_eq]

/-- The drives that the second run joins to come to the same failure as those of the first. -/
theorem firstFailure_calls_again {found : Device} (lettered : Lettered found)
    (known : Device) (kind : ComponentKind) :
    firstFailure executor (registry.calls config (registry.joinedDrives executor
        ((registry.finished config executor (known.absorbed found)).absorbed found).drives)
          kind) =
      firstFailure executor (registry.calls config
        (registry.joinedDrives executor (known.absorbed found).drives) kind) := by
  by_cases featured : kind = .drive ∧ config.collectDriveCapabilities = true
  swap
  · rw [calls, calls, if_neg featured, if_neg featured]
  rw [calls, calls, if_pos featured, if_pos featured, firstFailure_append, firstFailure_append]
  obtain ⟨rfl, asked⟩ := featured
  cases nowhere : firstFailure executor (registry.classCalls .drive) with
  | some error => rfl
  | none =>
    let collected := foundBy executor registry.drives
    let drives := (ServerInventory.absorbed known.drives found.drives).map (joined collected)
    have settled : ∀ drive ∈ drives, Settled (found.drives ++ collected) drive :=
      settled_joined_absorbed known.drives found.drives collected
    have joins : registry.joinedDrives executor (known.absorbed found).drives = drives :=
      joinedDrives_eq _
    have first : (registry.finished config executor (known.absorbed found)).drives =
        registry.featuredUpToFailure executor drives := by
      rw [drives_finished nowhere asked, joins]
    have second : registry.joinedDrives executor
        ((registry.finished config executor (known.absorbed found)).absorbed found).drives =
          (registry.featuredUpToFailure executor drives).map
            (joined (found.drives ++ collected)) := by
      rw [joinedDrives_eq, Device.absorbed]
      dsimp only
      rw [first, repeats_featuredUpToFailure.absorbed_treated lettered.drives,
        map_joined_append]
    have names : ((registry.featuredUpToFailure executor drives).map
        (joined (found.drives ++ collected))).map (·.logicalName) = drives.map (·.logicalName) :=
      (featuredUpToFailure_again (found.drives ++ collected) drives settled).1
    rw [second, joins, featureCalls_congr names]

theorem reached_congr {drives others : List Drive} : ∀ kinds : List ComponentKind,
    (∀ kind, firstFailure executor (registry.calls config drives kind) =
      firstFailure executor (registry.calls config others kind)) →
    registry.reached config executor drives kinds = registry.reached config executor others kinds ∧
      firstFailure executor (kinds.flatMap (registry.calls config drives)) =
        firstFailure executor (kinds.flatMap (registry.calls config others))
  | [], _ => ⟨rfl, rfl⟩
  | kind :: kinds, same => by
    obtain ⟨others, failure⟩ := reached_congr kinds same
    refine ⟨?_, ?_⟩
    · rw [reached, reached, same kind, others]
    · rw [List.flatMap_cons, List.flatMap_cons, firstFailure_append, firstFailure_append,
        same kind, failure]

/-- The work that follows the baseline leaves the same when both are repeated. -/
theorem finished_again {found : Device} (lettered : Lettered found) (known : Device) :
    let once := registry.finished config executor (known.absorbed found)
    registry.finished config executor (once.absorbed found) = once := by
  intro once
  have calls : ∀ kind, firstFailure executor (registry.calls config
        (registry.joinedDrives executor (once.absorbed found).drives) kind) =
      firstFailure executor (registry.calls config
        (registry.joinedDrives executor (known.absorbed found).drives) kind) :=
    firstFailure_calls_again lettered known
  obtain ⟨reaches, failure⟩ := reached_congr ComponentKind.all calls
  have firstRun : once = _ := finished_eq (known.absorbed found)
  have secondRun : registry.finished config executor (once.absorbed found) = _ :=
    finished_eq (once.absorbed found)
  rw [secondRun, reaches, failure, firstRun]
  exact Contribution.addTo_absorbed_again _ (repeats_treatment _) lettered.drives lettered.nics
    lettered.storageControllers known

/-! ## Collectors that answer alike -/

/-- All who may be asked in a pass answer alike whether commands are run by one executor or
by another. -/
structure AnswersAlike (registry : Registry) (first second : Executor) : Prop where
  inventory : ∀ collector ∈ registry.inventory, collector.answer first = collector.answer second
  drives : ∀ collector ∈ registry.drives, collector.answer first = collector.answer second
  nics : ∀ collector ∈ registry.nics, collector.answer first = collector.answer second
  bmc : ∀ collector ∈ registry.bmc, collector.answer first = collector.answer second
  bios : ∀ collector ∈ registry.bios, collector.answer first = collector.answer second
  cpld : ∀ collector ∈ registry.cpld, collector.answer first = collector.answer second
  storageControllers : ∀ collector ∈ registry.storageControllers,
    collector.answer first = collector.answer second
  features : ∀ drive : Drive, (registry.featureCollector drive).answer first =
    (registry.featureCollector drive).answer second

theorem AnswersAlike.refl (registry : Registry) (executor : Executor) :
    registry.AnswersAlike executor executor :=
  ⟨fun _ _ => rfl, fun _ _ => rfl, fun _ _ => rfl, fun _ _ => rfl, fun _ _ => rfl,
    fun _ _ => rfl, fun _ _ => rfl, fun _ => rfl⟩

section

variable {first second : Executor}

theorem foundBy_congr {collectors : List (Collector (List α))}
    (alike : ∀ collector ∈ collectors, collector.answer first = collector.answer second) :
    foundBy first collectors = foundBy second collectors := by
  refine congrArg List.flatten (List.filterMap_congr fun collector member => ?_)
  rw [alike collector member]

theorem firstFailure_congr {collectors : List (Collector α)} (kind : ComponentKind)
    (alike : ∀ collector ∈ collectors, collector.answer first = collector.answer second) :
    firstFailure first (collectors.map (.of kind)) =
      firstFailure second (collectors.map (.of kind)) := by
  induction collectors with
  | nil => rfl
  | cons collector collectors ih =>
    obtain ⟨here, others⟩ := List.forall_mem_cons.1 alike
    rw [List.map_cons, firstFailure_cons, firstFailure_cons, ih others, Call.failure?_of,
      Call.failure?_of, here]

theorem toldBy_congr [DecidableEq α] [Inhabited α] {collector : Option (Collector α)}
    (alike : ∀ asked ∈ collector, asked.answer first = asked.answer second) :
    Pass.toldBy first collector = Pass.toldBy second collector := by
  refine congrArg (List.filter fun found => decide (found ≠ default))
    (foundBy_congr fun list member => ?_)
  obtain ⟨asked, inside, rfl⟩ := List.mem_map.1 member
  rw [Pass.answer_asList, Pass.answer_asList, alike asked (Option.mem_toList.1 inside)]

theorem AnswersAlike.classCalls (alike : registry.AnswersAlike first second)
    (kind : ComponentKind) :
    firstFailure first (registry.classCalls kind) =
      firstFailure second (registry.classCalls kind) := by
  cases kind with
  | drive => exact firstFailure_congr .drive alike.drives
  | storageController => exact firstFailure_congr .storageController alike.storageControllers
  | nic => exact firstFailure_congr .nic fun asked member =>
      alike.nics asked (Option.mem_toList.1 member)
  | bmc => exact firstFailure_congr .bmc fun asked member =>
      alike.bmc asked (Option.mem_toList.1 member)
  | bios => exact firstFailure_congr .bios fun asked member =>
      alike.bios asked (Option.mem_toList.1 member)
  | cpld => exact firstFailure_congr .cpld fun asked member =>
      alike.cpld asked (Option.mem_toList.1 member)

theorem AnswersAlike.featureCalls (alike : registry.AnswersAlike first second) :
    ∀ drives : List Drive, firstFailure first (registry.featureCalls drives) =
      firstFailure second (registry.featureCalls drives)
  | [] => rfl
  | drive :: rest => by
    rw [Pass.featureCalls_cons, firstFailure_append, firstFailure_append,
      alike.featureCalls rest]
    by_cases nameless : drive.logicalName.isEmpty = true
    · rw [Pass.featureCalls_of_nameless registry nameless]
      rfl
    · rw [Pass.featureCalls_of_named registry nameless, firstFailure_singleton,
        firstFailure_singleton, Call.failure?_of, Call.failure?_of, alike.features drive]

theorem AnswersAlike.calls (alike : registry.AnswersAlike first second) (drives : List Drive)
    (kind : ComponentKind) :
    firstFailure first (registry.calls config drives kind) =
      firstFailure second (registry.calls config drives kind) := by
  rw [Registry.calls]
  split
  · rw [firstFailure_append, firstFailure_append, alike.classCalls kind,
      alike.featureCalls drives]
  · exact alike.classCalls kind

theorem AnswersAlike.featuredUpToFailure (alike : registry.AnswersAlike first second) :
    ∀ drives : List Drive, registry.featuredUpToFailure first drives =
      registry.featuredUpToFailure second drives
  | [] => rfl
  | drive :: rest => by
    have here : registry.featured first drive = registry.featured second drive := by
      rw [featured, featured, alike.features drive]
    rw [Registry.featuredUpToFailure, Registry.featuredUpToFailure, here,
      alike.featureCalls [drive], alike.featuredUpToFailure rest]

theorem AnswersAlike.contribution (alike : registry.AnswersAlike first second)
    (kinds : List ComponentKind) (names : Bool) :
    registry.contribution config first kinds names =
      registry.contribution config second kinds names := by
  have heard : ∀ {α : Type} (kind : ComponentKind) (found : List α),
      registry.heard first kinds kind found = registry.heard second kinds kind found := by
    intro α kind found
    unfold Registry.heard
    rw [alike.classCalls kind]
  have treatment : registry.treatment config first kinds =
      registry.treatment config second kinds := by
    funext drives
    unfold Registry.treatment
    rw [alike.classCalls .drive, alike.featuredUpToFailure drives]
  unfold Registry.contribution
  rw [treatment, heard, heard, heard, heard, heard, heard, foundBy_congr alike.drives,
    foundBy_congr fun asked member => alike.nics asked (Option.mem_toList.1 member),
    toldBy_congr alike.bmc, toldBy_congr alike.bios,
    toldBy_congr alike.cpld, foundBy_congr alike.storageControllers]

theorem AnswersAlike.reached (alike : registry.AnswersAlike first second)
    (drives : List Drive) : ∀ kinds : List ComponentKind,
    registry.reached config first drives kinds = registry.reached config second drives kinds ∧
      firstFailure first (kinds.flatMap (registry.calls config drives)) =
        firstFailure second (kinds.flatMap (registry.calls config drives))
  | [] => ⟨rfl, rfl⟩
  | kind :: kinds => by
    obtain ⟨reaches, failure⟩ := alike.reached drives kinds
    refine ⟨?_, ?_⟩
    · rw [Registry.reached, Registry.reached, alike.calls drives kind, reaches]
    · rw [List.flatMap_cons, firstFailure_append, firstFailure_append, alike.calls drives kind,
        failure]

theorem AnswersAlike.finished (alike : registry.AnswersAlike first second) (device : Device) :
    registry.finished config first device = registry.finished config second device := by
  have joins : registry.joinedDrives first device.drives =
      registry.joinedDrives second device.drives := by
    rw [joinedDrives, joinedDrives, foundBy_congr alike.drives]
  have same : registry.reached config first (registry.joinedDrives second device.drives)
      ComponentKind.all = _ ∧ _ := alike.reached _ ComponentKind.all
  rw [finished_eq, finished_eq, joins, same.1, same.2, alike.contribution]

end

end Registry

namespace Pass

/-- A pass that is repeated leaves what its first run left: whether it ends with a summary,
with an error that a collector reports or with a baseline that breaks down, and whoever else
breaks down. It is only asked that nobody cancels it, that the collectors answer the second
time as they did the first time, and that the baseline knows the serial number of each part
that it lists. -/
theorem collect_again {config : Config} {first second : Executor} {registry : Registry}
    {device : Option Device} {host otherHost : Run}
    (alike : (registry.withDefaults config).AnswersAlike first second)
    (lettered : ∀ baseline found, (registry.withDefaults config).inventory = some baseline →
      baseline.answer first = .data found → Registry.Lettered found)
    (uncancelled : (collect config first registry device host).host.cancelled = false)
    (againUncancelled : (collect config second registry
      (collect config first registry device host).device otherHost).host.cancelled = false) :
    (collect config second registry (collect config first registry device host).device
      otherHost).device = (collect config first registry device host).device := by
  cases device with
  | none => rfl
  | some device =>
    obtain ⟨baseline, there⟩ := exists_inventory registry config
    have same : baseline.answer first = baseline.answer second := alike.inventory baseline there
    cases answered : baseline.answer first with
    | failure error =>
      rw [collect_of_baseline_failure there uncancelled answered] at againUncancelled ⊢
      rw [same] at answered
      rw [collect_of_baseline_failure there againUncancelled answered]
    | fault reason =>
      rw [collect_of_baseline_fault there uncancelled answered] at againUncancelled ⊢
      rw [same] at answered
      rw [collect_of_baseline_fault there againUncancelled answered]
    | data found =>
      let filled := registry.withDefaults config
      have once : (collect config first registry (some device) host).device =
          some (filled.finished config first (device.absorbed found)) :=
        congrArg some (collect_of_found there uncancelled answered).device
      rw [once] at againUncancelled ⊢
      rw [same] at answered
      have twice := congrArg some (collect_of_found there againUncancelled answered).device
      have again : filled.finished config first
            ((filled.finished config first (device.absorbed found)).absorbed found) =
          filled.finished config first (device.absorbed found) :=
        Registry.finished_again (lettered baseline found there (same.trans answered)) device
      rw [← alike.finished] at twice
      exact twice.trans (congrArg some again)

/-- Collectors of whom one breaks down and one reports an error, while the others find
something. -/
def unreliable : Registry :=
  { inventory := some ⟨"lshw", .finish (.ok {
      drives := [{ serial := "S1", logicalName := "/dev/sda", vendor := "ATA" }]
      bmc := { vendor := "Supermicro" } })⟩
    drives := [⟨"smartctl", .finish (.ok [{ serial := "s1", vendor := "Micron", oem := true }])⟩,
      ⟨"nvme", .fault "index out of bounds"⟩]
    nics := some ⟨"mlxup", .finish (.ok [])⟩
    bios := some ⟨"dmidecode", .finish (.error (.parse "dmidecode" "no table"))⟩
    driveCapabilities := [⟨"hdparm", .ata, fun _ => .finish (.ok [("SMART", true)])⟩] }

theorem collect_again_unreliable :
    let once := collect {} (Replies.executor {}) unreliable (some {}) {}
    let twice := collect {} (Replies.executor {}) unreliable once.device {}
    once.host.cancelled = false ∧ twice.host.cancelled = false ∧ twice.device = once.device := by
  have once : (collect {} (Replies.executor {}) unreliable (some {}) {}).host.cancelled =
      false := by decide +kernel
  have twice : (collect {} (Replies.executor {}) unreliable
      (collect {} (Replies.executor {}) unreliable (some {}) {}).device {}).host.cancelled =
        false := by decide +kernel
  have lettered : ∀ baseline found, (unreliable.withDefaults {}).inventory = some baseline →
      baseline.answer (Replies.executor {}) = .data found → Registry.Lettered found := by
    intro baseline found there answered
    cases there
    cases answered
    exact ⟨by decide, by decide, by decide⟩
  exact ⟨once, twice, collect_again (.refl _ _) lettered once twice⟩

end Pass

end ServerInventory
