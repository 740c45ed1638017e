import ServerInventory.Proofs.Device.Repetition
import ServerInventory.Proofs.Device.Retention
import ServerInventory.Proofs.Pass.Course

/-!
Passes keep what is known. Whatever the collectors answer, wherever a pass is cut short and
however many passes there are, nothing that was known of the server before is lost
(`Device.keeps_afterPasses`). Each part of a pass either leaves the server alone (`Still`)
or keeps what is known of it (`Keeps`), and both hold however the part ends.
-/

namespace ServerInventory

namespace Pass

variable {α β : Type} {part : Pass α} {next : α → Pass β}

/-- A part of a pass that leaves the server alone. -/
def Still (part : Pass α) : Prop :=
  ∀ state : State, (part state).2.device = state.device

/-- A part of a pass after which all that was known of the server is known. -/
def Keeps (part : Pass α) : Prop :=
  ∀ state : State, state.device.Keeps (part state).2.device

/-- What holds of all that a part of a pass hands over. -/
def Yields (property : α → Prop) (part : Pass α) : Prop :=
  ∀ (state : State) value later, part state = (.data value, later) → property value

/-! ## Parts one after the other -/

theorem Still.device_eq (still : part.Still) {state later : State} {value : α}
    (run : part state = (.data value, later)) : later.device = state.device := by
  have same := still state
  rw [run] at same
  exact same

theorem Still.keeps (still : part.Still) : part.Keeps := by
  intro state
  rw [still state]
  exact .refl state.device

theorem Still.bind (first : part.Still) (rest : ∀ value, (next value).Still) :
    (part >>= next).Still := by
  intro state
  refine state_bind (·.device = state.device) (first state) fun value later _ same => ?_
  rw [rest value later, same]

theorem Keeps.bind (first : part.Keeps) (rest : ∀ value, (next value).Keeps) :
    (part >>= next).Keeps := by
  intro state
  refine state_bind (state.device.Keeps ·.device) (first state) fun value later _ early => ?_
  exact early.trans (rest value later)

theorem Yields.bind {property : β → Prop} (rest : ∀ value, (next value).Yields property) :
    (part >>= next).Yields property := by
  intro state value later run
  obtain ⟨found, middle, _, further⟩ := exists_of_bind_data run
  exact rest found middle value later further

/-! ## Parts that leave the server alone -/

theorem still_pure (value : α) : (Pure.pure value : Pass α).Still :=
  fun _ => rfl

theorem still_checkCancelled : checkCancelled.Still :=
  fun _ => rfl

theorem still_perform (executor : Executor) (probe : Probe α) : (perform executor probe).Still :=
  fun _ => rfl

theorem still_ofExcept (name : String) (result : Except Error α) :
    (ofExcept name result).Still := by
  cases result <;> exact fun _ => rfl

theorem still_isolate (name : String) (still : part.Still) : (isolate name part).Still := by
  intro state
  have same := still state
  unfold isolate
  cases run : part state with
  | mk answer later =>
    rw [run] at same
    cases answer <;> exact same

theorem still_ask (executor : Executor) (kind : ComponentKind) (collector : Collector α) :
    (ask executor kind collector).Still := by
  refine (still_isolate kind.name (still_perform executor collector.probe)).bind fun answer => ?_
  cases answer with
  | ok found => exact still_pure (some found)
  | error reason => exact Still.bind (fun _ => rfl) fun _ => still_pure none

theorem still_gather (executor : Executor) (kind : ComponentKind) :
    ∀ collectors : List (Collector (List α)), (gather executor kind collectors).Still
  | [] => still_pure (0, [])
  | collector :: collectors => by
    have rest := still_gather executor kind collectors
    refine (still_ask executor kind collector).bind fun answer => ?_
    cases answer with
    | none => exact rest
    | some found => exact rest.bind fun others => still_pure (others.1 + 1, found ++ others.2)

/-! ## Merges -/

/-- A place is one of a server: what is put there only has to keep what is known of what was
there. -/
def Place.Within (place : Place α) (keeps : α → α → Prop) : Prop :=
  ∀ device value, keeps (place.get device) value → device.Keeps (place.set device value)

theorem within_drives : Place.Within drives PartsKeep := fun device _ kept =>
  { Device.Keeps.refl device with drives := kept }

theorem within_nics : Place.Within nics PartsKeep := fun device _ kept =>
  { Device.Keeps.refl device with nics := kept }

theorem within_storageControllers : Place.Within storageControllers PartsKeep :=
  fun device _ kept => { Device.Keeps.refl device with storageControllers := kept }

theorem within_bmc : Place.Within bmc ServerInventory.Keeps := fun device _ kept =>
  { Device.Keeps.refl device with bmc := kept }

theorem within_bios : Place.Within bios ServerInventory.Keeps := fun device _ kept =>
  { Device.Keeps.refl device with bios := kept }

theorem within_cpld : Place.Within cpld ServerInventory.Keeps := fun device _ kept =>
  { Device.Keeps.refl device with cpld := kept }

theorem keeps_mergeList [Identified α] [LawfulIdentified α] {place : Place (List α)}
    (lawful : place.Lawful) (within : place.Within PartsKeep) (kind : ComponentKind)
    (fragments : List α) : (mergeList kind place fragments).Keeps := by
  intro state
  obtain ⟨outcome, _, run⟩ := exists_mergeList kind lawful fragments state
  rw [run]
  exact within state.device _ (partsKeep_mergeBySerial (place.get state.device) fragments)

theorem keeps_mergeSingle [Recordable α] [LawfulRecordable α] [DecidableEq α] [Inhabited α]
    {place : Place α} (lawful : place.Lawful) (within : place.Within ServerInventory.Keeps)
    (kind : ComponentKind) (fragments : List α) : (mergeSingle kind place fragments).Keeps := by
  intro state
  obtain ⟨outcome, _, run⟩ := exists_mergeSingle kind lawful fragments state
  rw [run]
  exact within state.device _ (keeps_foldl_combine _ (place.get state.device))

/-! ## Classes of components -/

theorem keeps_collectWith (executor : Executor) (kind : ComponentKind)
    (collectors : List (Collector (List α))) {mergeFound : List α → Pass ClassOutcome}
    (merges : ∀ fragments, (mergeFound fragments).Keeps) :
    (collectWith executor kind collectors mergeFound).Keeps := by
  unfold collectWith
  split
  · exact (still_pure _).keeps
  · refine (still_gather executor kind collectors).keeps.bind fun found => ?_
    obtain ⟨completed, fragments⟩ := found
    dsimp only
    split
    · exact (still_pure _).keeps
    · exact merges fragments

theorem keeps_collectList [Identified α] [LawfulIdentified α] {place : Place (List α)}
    (lawful : place.Lawful) (within : place.Within PartsKeep) (executor : Executor)
    (kind : ComponentKind) (collectors : List (Collector (List α))) :
    (collectList executor kind collectors place).Keeps :=
  keeps_collectWith executor kind collectors (keeps_mergeList lawful within kind)

theorem keeps_collectSingle [Recordable α] [LawfulRecordable α] [DecidableEq α] [Inhabited α]
    {place : Place α} (lawful : place.Lawful) (within : place.Within ServerInventory.Keeps)
    (executor : Executor) (kind : ComponentKind) (collector : Option (Collector α)) :
    (collectSingle executor kind collector place).Keeps :=
  keeps_collectWith executor kind _ (keeps_mergeSingle lawful within kind)

/-! ## Features of drives -/

theorem still_withCapabilities (executor : Executor) (registry : Registry) (drive : Drive) :
    (withCapabilities executor registry drive).Still := by
  unfold withCapabilities
  split
  · exact still_pure _
  · refine still_checkCancelled.bind fun _ => ?_
    refine (still_ask executor .drive _).bind fun answer => ?_
    cases answer with
    | none => exact still_pure _
    | some found => exact still_ofExcept _ _

/-- A drive is handed over as it is or with features merged. -/
theorem yields_withCapabilities (executor : Executor) (registry : Registry) (drive : Drive) :
    (withCapabilities executor registry drive).Yields fun merged =>
      merged.record = drive ∨ ∃ capabilities,
        merged.record = combineFor (some "Capabilities") drive { capabilities } := by
  unfold withCapabilities
  split
  · intro state merged later run
    cases run
    exact .inl rfl
  · refine Yields.bind fun _ => Yields.bind fun answer => ?_
    cases answer with
    | none =>
      intro state merged later run
      cases run
      exact .inl rfl
    | some found =>
      intro state merged later run
      obtain ⟨changes, _, merges, _⟩ := mergeChanges_eq (some "Capabilities") drive
        { capabilities := .ofList found }
      dsimp only at run
      rw [mergeField, merges] at run
      cases run
      exact .inr ⟨_, rfl⟩

section

variable {executor : Executor} {registry : Registry} {drive : Drive} {merged : Merged Drive}
  {state later : State}
  (run : withCapabilities executor registry drive state = (.data merged, later))

include run

/-- Features are merged without a change to anything else that is known of the drive. -/
theorem partKeeps_withCapabilities : PartKeeps drive merged.record := by
  rcases yields_withCapabilities executor registry drive state merged later run with
    same | ⟨capabilities, combined⟩
  · rw [same]
    exact .refl drive
  · rw [combined]
    exact Drive.partKeeps_combineFor (by decide) drive _

theorem logicalName_withCapabilities : merged.record.logicalName = drive.logicalName := by
  rcases yields_withCapabilities executor registry drive state merged later run with
    same | ⟨capabilities, combined⟩
  · rw [same]
  · rw [combined, Drive.combineFor_capabilities]
    rfl

end

/-- The drives are taken one by one. What carries the induction is that those that have
their features already and those that are still to come make up all the drives. -/
theorem keeps_collectCapabilities (executor : Executor) (registry : Registry) :
    ∀ (rest done : List Drive) (state : State), state.device.drives = done ++ rest →
      state.device.Keeps (collectCapabilities executor registry done rest state).2.device
  | [], _, state, _ => .refl state.device
  | drive :: rest, done, state, parts => by
    have still := still_withCapabilities executor registry drive
    have ended : state.device.Keeps
        (withCapabilities executor registry drive state).2.device := still.keeps state
    rw [collectCapabilities]
    refine state_bind (state.device.Keeps ·.device) ended fun merged later run _ => ?_
    have kept := partKeeps_withCapabilities run
    have replaced : PartsKeep later.device.drives (done ++ merged.record :: rest) := by
      rw [still.device_eq run, parts]
      exact .replace kept done rest
    have written := within_drives later.device _ replaced
    have others := keeps_collectCapabilities executor registry rest (done ++ [merged.record])
      { later with device := drives.set later.device (done ++ merged.record :: rest) }
      (List.append_cons done merged.record rest)
    rw [write_bind]
    rw [← still.device_eq run]
    exact state_bind (later.device.Keeps ·.device) (written.trans others) fun _ _ _ kept => kept

/-- However the collection of features ends, the drives keep their paths. -/
theorem names_collectCapabilities (executor : Executor) (registry : Registry) :
    ∀ (rest done : List Drive) (state : State), state.device.drives = done ++ rest →
    (collectCapabilities executor registry done rest state).2.device.drives.map (·.logicalName) =
      (done ++ rest).map (·.logicalName)
  | [], _, _, parts => congrArg (List.map _) parts
  | drive :: rest, done, state, parts => by
    have still := still_withCapabilities executor registry drive
    rw [collectCapabilities]
    refine state_bind
      (·.device.drives.map (·.logicalName) = (done ++ drive :: rest).map (·.logicalName)) ?_ ?_
    · rw [still state, parts]
    · intro merged later run _
      have sameName := logicalName_withCapabilities run
      have others := names_collectCapabilities executor registry rest (done ++ [merged.record])
        { later with device := drives.set later.device (done ++ merged.record :: rest) }
        (List.append_cons done merged.record rest)
      have names : (done ++ [merged.record] ++ rest).map (·.logicalName) =
          (done ++ drive :: rest).map (·.logicalName) := by
        rw [← List.append_cons, List.map_append, List.map_append, List.map_cons, List.map_cons,
          sameName]
      rw [names] at others
      rw [write_bind]
      exact state_bind
        (·.device.drives.map (·.logicalName) = (done ++ drive :: rest).map (·.logicalName))
        others fun _ _ _ kept => kept

/-! ## The whole pass -/

theorem keeps_collectDrives (config : Config) (executor : Executor) (registry : Registry) :
    (collectDrives config executor registry).Keeps := by
  have list := keeps_collectList lawful_drives within_drives executor .drive registry.drives
  refine list.bind fun outcome => ?_
  split
  · intro state
    have features := keeps_collectCapabilities executor registry (drives.get state.device) []
      state rfl
    rw [read_bind]
    exact state_bind (state.device.Keeps ·.device) features fun _ _ _ kept => kept
  · exact (still_pure outcome).keeps

theorem keeps_collectKind (config : Config) (executor : Executor) (registry : Registry)
    (kind : ComponentKind) : (collectKind config executor registry kind).Keeps := by
  cases kind with
  | drive => exact keeps_collectDrives config executor registry
  | nic => exact keeps_collectList lawful_nics within_nics executor .nic _
  | storageController =>
    exact keeps_collectList lawful_storageControllers within_storageControllers executor
      .storageController _
  | bmc => exact keeps_collectSingle lawful_bmc within_bmc executor .bmc registry.bmc
  | bios => exact keeps_collectSingle lawful_bios within_bios executor .bios registry.bios
  | cpld => exact keeps_collectSingle lawful_cpld within_cpld executor .cpld registry.cpld

theorem keeps_collectKinds (config : Config) (executor : Executor) (registry : Registry) :
    ∀ kinds : List ComponentKind, (collectKinds config executor registry kinds).Keeps
  | [] => (still_pure ()).keeps
  | kind :: kinds => by
    have rest := keeps_collectKinds config executor registry kinds
    refine still_checkCancelled.keeps.bind fun _ => ?_
    refine (keeps_collectKind config executor registry kind).bind fun outcome => ?_
    exact Keeps.bind (fun state => .refl state.device) fun _ => rest

/-- The baseline is absorbed whole or not at all. -/
theorem keeps_baseline (executor : Executor) (collector : Collector Device) :
    (baseline executor collector).Keeps := by
  intro state
  rw [baseline_eq]
  cases collector.probe.perform executor state.host with
  | mk answer host =>
    cases answer with
    | data found => exact state.device.keeps_absorbed found
    | failure error => exact .refl state.device
    | fault reason => exact .refl state.device

theorem keeps_afterBaseline (config : Config) (executor : Executor) (registry : Registry) :
    (afterBaseline config executor registry).Keeps := by
  refine (keeps_collectKinds config executor registry ComponentKind.all).bind fun _ => ?_
  exact fun state => state.device.keeps_withModels

theorem keeps_run (config : Config) (executor : Executor) (registry : Registry) :
    (run config executor registry).Keeps := by
  have rest := keeps_afterBaseline config executor registry
  cases there : registry.inventory with
  | none =>
    rw [run, there]
    exact rest
  | some collector =>
    rw [run_of_inventory config executor there]
    exact (keeps_baseline executor collector).bind fun _ => rest

/-! ## Passes one after the other -/

/-- What a pass depends on, the server apart: how it is configured, who is asked and what the
host answers. -/
structure Setting where
  config : Config
  executor : Executor
  registry : Registry
  host : Run

/-- The server that a pass leaves behind, however it ends. -/
def Setting.pass (setting : Setting) (device : Device) : Device :=
  (collect setting.config setting.executor setting.registry (some device)
    setting.host).device.getD device

end Pass

namespace Device

/-- A server after some passes over it, each with its own setting. -/
def afterPasses (device : Device) (settings : List Pass.Setting) : Device :=
  settings.foldl (fun device setting => setting.pass device) device

/-- Nothing that is known of a server is lost in any number of passes. -/
theorem keeps_afterPasses (device : Device) (settings : List Pass.Setting) :
    device.Keeps (device.afterPasses settings) := by
  induction settings generalizing device with
  | nil => exact .refl device
  | cons setting settings ih =>
    have first : device.Keeps (setting.pass device) :=
      Pass.keeps_run setting.config setting.executor
        (setting.registry.withDefaults setting.config) { device, host := setting.host }
    exact first.trans (ih (setting.pass device))

end Device

end ServerInventory
