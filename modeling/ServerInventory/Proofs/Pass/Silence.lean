import ServerInventory.Proofs.Device.Repetition
import ServerInventory.Proofs.Pass.Course
import ServerInventory.Proofs.Pass.Probes

/-!
Collectors that find nothing where they would break down. A pass with such collectors goes
the way of the pass with those that break down: it asks the same collectors, merges the same
and ends alike, and only the notes on the breakdowns are missing (`Pass.Quiets`,
`Pass.collect_eq_silenced`).
-/

namespace ServerInventory

/-! ## Silenced collectors -/

/-- An answer with data in place of a fault. -/
def Answer.silenced {α : Type} (nothing : α) : Answer α → Answer α
  | .fault _ => .data nothing
  | answer => answer

namespace Probe

variable {α β : Type}

/-- A probe that finds nothing where it would break down. -/
def silenced (nothing : α) : Probe α → Probe α
  | finish result => finish result
  | fault _ => finish (.ok nothing)
  | cancel rest => cancel (rest.silenced nothing)
  | run command rest => run command fun output => (rest output).silenced nothing

/-- It does the same on the host. -/
theorem perform_silenced (executor : Executor) (nothing : α) :
    ∀ (probe : Probe α) (host : Run), (probe.silenced nothing).perform executor host =
      ((probe.perform executor host).1.silenced nothing, (probe.perform executor host).2)
  | finish (.ok _), _ => rfl
  | finish (.error _), _ => rfl
  | fault _, _ => rfl
  | cancel rest, host => perform_silenced executor nothing rest { host with cancelled := true }
  | run command rest, host =>
    perform_silenced executor nothing (rest (host.exec executor command).1)
      (host.exec executor command).2

theorem Straight.silenced_eq (nothing : α) : ∀ {probe : Probe α}, probe.Straight →
    probe.silenced nothing = probe
  | finish _, _ => rfl
  | run command rest, ⟨fails, goesOn⟩ => by
    refine congrArg (run command) (funext fun output => ?_)
    cases output with
    | error error =>
      rw [fails error]
      rfl
    | ok output => exact (goesOn output).silenced_eq nothing

/-- What is found may be put into another form before or after. -/
theorem silenced_bind_pure (nothing : α) (form : α → β) : ∀ probe : Probe α,
    (do return form (← probe.silenced nothing)) =
      (do return form (← probe) : Probe β).silenced (form nothing)
  | finish (.ok _) => rfl
  | finish (.error _) => rfl
  | fault _ => rfl
  | cancel rest => congrArg cancel (silenced_bind_pure nothing form rest)
  | run command rest =>
    congrArg (run command) (funext fun output => silenced_bind_pure nothing form (rest output))

end Probe

/-- A collector that finds nothing where it would break down. -/
def Collector.silenced {α : Type} (nothing : α) (collector : Collector α) : Collector α :=
  { collector with probe := collector.probe.silenced nothing }

def CapabilityCollector.silenced (collector : CapabilityCollector) : CapabilityCollector :=
  { collector with probe := fun logicalName => (collector.probe logicalName).silenced [] }

/-- A registry of collectors that find nothing where they would break down. The baseline may
still break down. -/
def Registry.silenced (registry : Registry) : Registry where
  inventory := registry.inventory
  drives := registry.drives.map (·.silenced [])
  nics := registry.nics.map (·.silenced [])
  bmc := registry.bmc.map (·.silenced default)
  bios := registry.bios.map (·.silenced default)
  cpld := registry.cpld.map (·.silenced default)
  storageControllers := registry.storageControllers.map (·.silenced [])
  driveCapabilities := registry.driveCapabilities.map (·.silenced)

theorem Collector.silenced_eq {α : Type} (nothing : α) {collector : Collector α}
    (straight : collector.probe.Straight) : collector.silenced nothing = collector :=
  congrArg (Collector.mk collector.name) (straight.silenced_eq nothing)

namespace Registry

/-- A utility that steps in does not break down, so it makes no difference if it is silenced. -/
theorem map_silenced_or {α : Type} (nothing : α) (named : Option (Collector α))
    (config : Config) (utility : Utility) {probe : Probe α} (straight : probe.Straight) :
    (named.map (·.silenced nothing)).or (unlessDisabled config utility probe) =
      (named.or (unlessDisabled config utility probe)).map (·.silenced nothing) := by
  cases named with
  | some collector => rfl
  | none =>
    unfold unlessDisabled
    split
    · rfl
    · have same : (utility.collector probe).silenced nothing = utility.collector probe :=
        Collector.silenced_eq nothing straight
      exact congrArg some same.symm

theorem withDefaults_silenced (registry : Registry) (config : Config) :
    registry.silenced.withDefaults config = (registry.withDefaults config).silenced := by
  have usual : (defaultDrives config).map (·.silenced []) = defaultDrives config := by
    refine (List.map_congr_left fun collector member => ?_).trans (List.map_id _)
    exact Collector.silenced_eq [] (straight_of_mem_defaultDrives member)
  have drives : (if (registry.drives.map (·.silenced [])).isEmpty then defaultDrives config
        else registry.drives.map (·.silenced [])) =
      (if registry.drives.isEmpty then defaultDrives config
        else registry.drives).map (·.silenced []) := by
    rw [List.isEmpty_map]
    split
    · exact usual.symm
    · rfl
  have nics := map_silenced_or [] registry.nics config .mlxup Mlxup.straight_queriedNics
  have bmc := map_silenced_or default registry.bmc config .ipmitool Ipmitool.straight_controller
  have bios :=
    map_silenced_or default registry.bios config .dmidecode Dmidecode.straight_systemFirmware
  unfold withDefaults silenced
  rw [Registry.mk.injEq]
  exact ⟨rfl, drives, nics, bmc, bios, rfl, rfl, rfl⟩

theorem capabilityCollector_silenced (registry : Registry) (logicalName : String) :
    registry.silenced.capabilityCollector logicalName =
      (registry.capabilityCollector logicalName).silenced := by
  have lookedUp : registry.silenced.driveCapabilities.find? (fun collector =>
        collector.transport == Transport.ofLogicalName logicalName) =
      (registry.driveCapabilities.find? fun collector =>
        collector.transport == Transport.ofLogicalName logicalName).map (·.silenced) :=
    List.find?_map
  unfold capabilityCollector
  dsimp only
  rw [lookedUp]
  cases registry.driveCapabilities.find? fun collector =>
      collector.transport == Transport.ofLogicalName logicalName with
  | some collector => rfl
  | none =>
    cases Transport.ofLogicalName logicalName with
    | nvme =>
      exact congrArg (CapabilityCollector.mk _ _) (funext fun logicalName =>
        ((NvmeCli.straight_capabilitiesOf logicalName).silenced_eq []).symm)
    | ata =>
      exact congrArg (CapabilityCollector.mk _ _) (funext fun logicalName =>
        ((Hdparm.straight_capabilitiesOf logicalName).silenced_eq []).symm)

end Registry

/-! ## Parts of a pass with silenced collectors -/

/-- Answers of one kind, with related data. -/
inductive Answer.Alike {α β : Type} (related : α → β → Prop) : Answer α → Answer β → Prop
  | data {value : α} {other : β} :
    related value other → Alike related (.data value) (.data other)
  | failure (error : Error) : Alike related (.failure error) (.failure error)
  | fault (reason : String) : Alike related (.fault reason) (.fault reason)

/-- An answer with its data, if there are any, in another form. -/
def Answer.map {α β : Type} (form : α → β) : Answer α → Answer β
  | .data value => .data (form value)
  | .failure error => .failure error
  | .fault reason => .fault reason

theorem Answer.Alike.eq_map {α β : Type} {form : α → β} {answer : Answer α} {other : Answer β}
    (alike : Alike (fun value other => other = form value) answer other) :
    other = answer.map form := by
  cases alike with
  | data same => exact congrArg Answer.data same
  | failure error => rfl
  | fault reason => rfl

/-- An outcome as it is when whoever broke down had nothing to say. -/
def ClassOutcome.silenced : ClassOutcome → ClassOutcome
  | .faulted => .empty
  | outcome => outcome

def Summary.silenced (summary : Summary) : Summary where
  classes := summary.classes.map fun report => (report.1, report.2.silenced)
  faults := []
  capabilityChanges := summary.capabilityChanges

namespace Pass

def State.silenced (state : State) : State :=
  { state with summary := state.summary.silenced }

section

variable {α β γ δ : Type}

/-- The quiet part of a pass does what the loud one does, apart from the notes on breakdowns,
and it ends alike, with related data. -/
def Quiets (related : α → β → Prop) (loud : Pass α) (quiet : Pass β) : Prop :=
  ∀ state, (loud state).1.Alike related (quiet state.silenced).1 ∧
    (quiet state.silenced).2 = (loud state).2.silenced

/-- The outcome is told alike, but for breakdowns. -/
def ToldAlike (outcome quiet : ClassOutcome) : Prop :=
  quiet = outcome.silenced

variable {executor : Executor} {related : α → β → Prop} {goal : γ → δ → Prop}
  {loud : Pass α} {quiet : Pass β} {next : α → Pass γ} {quietNext : β → Pass δ}

theorem quiets_pure {value : α} {other : β} (alike : related value other) :
    Quiets related (Pure.pure value) (Pure.pure other) :=
  fun _ => ⟨.data alike, rfl⟩

theorem Quiets.bind (first : Quiets related loud quiet)
    (further : ∀ value other, related value other →
      Quiets goal (next value) (quietNext other)) :
    Quiets goal (loud >>= next) (quiet >>= quietNext) := by
  intro state
  obtain ⟨answers, states⟩ := first state
  cases run : loud state with
  | mk answer later =>
    cases quietRun : quiet state.silenced with
    | mk quietAnswer quietLater =>
      rw [run, quietRun] at answers
      rw [run, quietRun] at states
      obtain rfl : quietLater = later.silenced := states
      cases answers with
      | data alike =>
        rw [bind_of_data run, bind_of_data quietRun]
        exact further _ _ alike later
      | failure error =>
        rw [bind_of_failure run, bind_of_failure quietRun]
        exact ⟨.failure error, rfl⟩
      | fault reason =>
        rw [bind_of_fault run, bind_of_fault quietRun]
        exact ⟨.fault reason, rfl⟩

/-- The second part gets the same from both. -/
theorem Quiets.bind_same {quiet : Pass α} {quietNext : α → Pass δ} (first : Quiets Eq loud quiet)
    (further : ∀ value, Quiets goal (next value) (quietNext value)) :
    Quiets goal (loud >>= next) (quiet >>= quietNext) :=
  first.bind fun value _ same => same ▸ further value

/-- What the quiet part gives may be put into another form. -/
theorem Quiets.form {goal : α → δ → Prop} (first : Quiets related loud quiet) (form : β → δ)
    (alike : ∀ value other, related value other → goal value (form other)) :
    Quiets goal loud (do return form (← quiet)) := by
  have same : (loud >>= fun value => Pure.pure value) = loud := by
    funext state
    cases run : loud state with
    | mk answer later =>
      cases answer with
      | data value => exact bind_of_data run
      | failure error => exact bind_of_failure run
      | fault reason => exact bind_of_fault run
  rw [← same]
  exact first.bind fun value other related => quiets_pure (alike value other related)

theorem quiets_checkCancelled : Quiets Eq checkCancelled checkCancelled := by
  intro state
  refine ⟨?_, rfl⟩
  unfold checkCancelled
  change Answer.Alike Eq (if state.host.cancelled then _ else _)
    (if state.host.cancelled then _ else _)
  split
  · exact .failure _
  · exact .data rfl

theorem quiets_ofExcept (name : String) (result : Except Error α) :
    Quiets Eq (ofExcept name result) (ofExcept name result) := by
  cases result with
  | ok value => exact fun _ => ⟨.data rfl, rfl⟩
  | error error => exact fun _ => ⟨.failure _, rfl⟩

theorem quiets_read (place : Place α) : Quiets Eq (read place) (read place) :=
  fun _ => ⟨.data rfl, rfl⟩

theorem quiets_write (place : Place α) (value : α) :
    Quiets Eq (write place value) (write place value) :=
  fun _ => ⟨.data rfl, rfl⟩

theorem quiets_update {change quietChange : State → State}
    (alike : ∀ state : State, quietChange state.silenced = (change state).silenced) :
    Quiets Eq (update change) (update quietChange) :=
  fun state => ⟨.data rfl, alike state⟩

/-! ## Asking -/

theorem quiets_ask (kind : ComponentKind) (collector : Collector α) (nothing : α) :
    Quiets (fun found quiet => quiet = some (found.getD nothing))
      (ask executor kind collector) (ask executor kind (collector.silenced nothing)) := by
  intro state
  cases run : collector.probe.perform executor state.host with
  | mk answer host =>
    have quietRun : (collector.silenced nothing).probe.perform executor state.silenced.host =
        (answer.silenced nothing, host) := by
      change (collector.probe.silenced nothing).perform executor state.host = _
      rw [Probe.perform_silenced, run]
    rw [ask_eq, run, ask_eq, quietRun]
    cases answer with
    | data found => exact ⟨.data rfl, rfl⟩
    | failure error => exact ⟨.failure _, rfl⟩
    | fault reason => exact ⟨.data rfl, rfl⟩

/-- All that tells anything is found by both. The numbers of those who completed differ, but
the loud one finds nothing if it is zero. -/
theorem quiets_gather {telling : α → Bool} {nothing : List α}
    (silent : nothing.filter telling = []) (kind : ComponentKind) :
    ∀ collectors : List (Collector (List α)),
      Quiets
        (fun found quiet => quiet.1 = collectors.length ∧
          quiet.2.filter telling = found.2.filter telling ∧ (found.1 = 0 → found.2 = []))
        (gather executor kind collectors)
        (gather executor kind (collectors.map (·.silenced nothing)))
  | [] => quiets_pure ⟨rfl, rfl, fun _ => rfl⟩
  | collector :: collectors => by
    have others := quiets_gather silent kind collectors
    refine (quiets_ask kind collector nothing).bind ?_
    rintro answer _ rfl
    cases answer with
    | none =>
      -- The silenced collector is counted, but what it finds tells nothing.
      refine others.form _ fun value other alike => ?_
      obtain ⟨count, told, noneCompleted⟩ := alike
      refine ⟨congrArg (· + 1) count, ?_, noneCompleted⟩
      rw [Option.getD_none, List.filter_append, silent, told]
      rfl
    | some found =>
      refine others.bind fun value other alike => quiets_pure ?_
      obtain ⟨count, told, _⟩ := alike
      refine ⟨congrArg (· + 1) count, ?_, nofun⟩
      rw [List.filter_append, List.filter_append, told]
      rfl

/-! ## Merging -/

theorem quiets_mergeList [Identified α] (kind : ComponentKind) (place : Place (List α))
    (fragments : List α) :
    Quiets ToldAlike (mergeList kind place fragments) (mergeList kind place fragments) := by
  unfold mergeList
  split
  · exact quiets_pure rfl
  · refine (quiets_read place).bind_same fun known => ?_
    refine (quiets_write place _).bind_same fun _ => ?_
    exact (quiets_ofExcept kind.name _).bind_same fun summary => quiets_pure rfl

theorem quiets_mergeAll [Recordable α] (kind : ComponentKind) (place : Place α) :
    ∀ fragments : List α,
      Quiets Eq (mergeAll kind place fragments) (mergeAll kind place fragments)
  | [] => quiets_pure rfl
  | fragment :: fragments => by
    have others := quiets_mergeAll kind place fragments
    refine (quiets_read place).bind_same fun known => ?_
    refine (quiets_ofExcept kind.name _).bind_same fun merged => ?_
    refine (quiets_write place merged.record).bind_same fun _ => ?_
    exact others.bind_same fun applied => quiets_pure rfl

theorem quiets_mergeSingle [Recordable α] [DecidableEq α] [Inhabited α] (kind : ComponentKind)
    (place : Place α) (fragments : List α) :
    Quiets ToldAlike (mergeSingle kind place fragments) (mergeSingle kind place fragments) := by
  unfold mergeSingle
  dsimp only
  split
  · exact quiets_pure rfl
  · exact (quiets_mergeAll kind place _).bind_same fun applied => quiets_pure rfl

/-- Where all break down the quiet part merges nothing, and where some do not both merge
the same. -/
theorem quiets_collectWith {telling : α → Bool} {nothing : List α}
    (silent : nothing.filter telling = []) (kind : ComponentKind)
    (collectors : List (Collector (List α))) {mergeFound : List α → Pass ClassOutcome}
    (onlyTelling : ∀ fragments, mergeFound (fragments.filter telling) = mergeFound fragments)
    (unmerged : mergeFound [] = Pure.pure .empty)
    (merges : ∀ fragments, Quiets ToldAlike (mergeFound fragments) (mergeFound fragments)) :
    Quiets ToldAlike (collectWith executor kind collectors mergeFound)
      (collectWith executor kind (collectors.map (·.silenced nothing)) mergeFound) := by
  unfold collectWith
  rw [List.isEmpty_map]
  split
  · exact quiets_pure rfl
  · rename_i somebody
    refine (quiets_gather silent kind collectors).bind ?_
    rintro ⟨completed, found⟩ ⟨count, heard⟩ ⟨rfl, told, noneCompleted⟩
    have sameMerge : mergeFound heard = mergeFound found := by
      rw [← onlyTelling heard, told, onlyTelling found]
    have counted : collectors.length ≠ 0 :=
      fun nobody => somebody (List.isEmpty_iff.2 (List.length_eq_zero_iff.1 nobody))
    dsimp only
    rw [if_neg counted, sameMerge]
    split
    · rename_i broken
      obtain rfl : found = [] := noneCompleted broken
      rw [unmerged]
      exact quiets_pure rfl
    · exact merges found

theorem quiets_collectList [Identified α] (kind : ComponentKind)
    (collectors : List (Collector (List α))) (place : Place (List α)) :
    Quiets ToldAlike (collectList executor kind collectors place)
      (collectList executor kind (collectors.map (·.silenced [])) place) := by
  have silent : ([] : List α).filter (fun _ => true) = [] := rfl
  have onlyTelling : ∀ fragments : List α,
      mergeList kind place (fragments.filter fun _ => true) = mergeList kind place fragments :=
    fun fragments => by rw [List.filter_true]
  exact quiets_collectWith silent kind collectors onlyTelling rfl (quiets_mergeList kind place)

theorem asList_silenced (collector : Collector α) (nothing : α) :
    asList (collector.silenced nothing) = (asList collector).silenced [nothing] :=
  congrArg (Collector.mk collector.name) (collector.probe.silenced_bind_pure nothing ([·]))

theorem quiets_collectSingle [Recordable α] [DecidableEq α] [Inhabited α]
    (kind : ComponentKind) (collector : Option (Collector α)) (place : Place α) :
    Quiets ToldAlike (collectSingle executor kind collector place)
      (collectSingle executor kind (collector.map (·.silenced default)) place) := by
  have silent : [(default : α)].filter (· ≠ default) = [] := by simp
  have onlyTelling : ∀ fragments : List α,
      mergeSingle kind place (fragments.filter (· ≠ default)) =
        mergeSingle kind place fragments := by
    intro fragments
    unfold mergeSingle
    rw [List.filter_filter]
    simp only [Bool.and_self]
  have lists : (collector.map (·.silenced default)).toList.map asList =
      (collector.toList.map asList).map (·.silenced [default]) := by
    cases collector with
    | none => rfl
    | some collector => exact congrArg ([·]) (asList_silenced collector default)
  unfold collectSingle
  rw [lists]
  exact quiets_collectWith silent kind _ onlyTelling rfl (quiets_mergeSingle kind place)

/-! ## Features of drives -/

theorem quiets_withCapabilities (registry : Registry) (drive : Drive) :
    Quiets Eq (withCapabilities executor registry drive)
      (withCapabilities executor registry.silenced drive) := by
  unfold withCapabilities
  split
  · exact quiets_pure rfl
  · refine quiets_checkCancelled.bind_same fun _ => ?_
    dsimp only
    rw [registry.capabilityCollector_silenced]
    refine (quiets_ask .drive (registry.featureCollector drive) []).bind ?_
    rintro answer _ rfl
    cases answer with
    | none =>
      rw [Option.getD_none]
      dsimp only
      rw [drive.mergeField_nothing]
      exact quiets_pure rfl
    | some found => exact quiets_ofExcept _ _

theorem quiets_collectCapabilities (registry : Registry) : ∀ rest done : List Drive,
    Quiets Eq (collectCapabilities executor registry done rest)
      (collectCapabilities executor registry.silenced done rest)
  | [], _ => quiets_pure rfl
  | drive :: rest, done => by
    refine (quiets_withCapabilities registry drive).bind_same fun merged => ?_
    refine (quiets_write drives _).bind_same fun _ => ?_
    refine (quiets_collectCapabilities registry rest (done ++ [merged.record])).bind_same
      fun applied => quiets_pure rfl

/-! ## The whole pass -/

theorem quiets_collectDrives (config : Config) (registry : Registry) :
    Quiets ToldAlike (collectDrives config executor registry)
      (collectDrives config executor registry.silenced) := by
  refine (quiets_collectList .drive registry.drives drives).bind fun outcome other told => ?_
  split
  · refine (quiets_read drives).bind_same fun known => ?_
    refine (quiets_collectCapabilities registry known []).bind_same fun changes => ?_
    exact Quiets.bind_same (quiets_update fun _ => rfl) fun _ => quiets_pure told
  · exact quiets_pure told

theorem quiets_collectKind (config : Config) (registry : Registry) (kind : ComponentKind) :
    Quiets ToldAlike (collectKind config executor registry kind)
      (collectKind config executor registry.silenced kind) := by
  cases kind with
  | drive => exact quiets_collectDrives config registry
  | nic =>
    have lists : (registry.nics.map (·.silenced [])).toList =
        registry.nics.toList.map (·.silenced []) := by
      cases registry.nics <;> rfl
    change Quiets ToldAlike _
      (collectList executor .nic (registry.nics.map (·.silenced [])).toList nics)
    rw [lists]
    exact quiets_collectList .nic registry.nics.toList nics
  | storageController =>
    exact quiets_collectList .storageController registry.storageControllers storageControllers
  | bmc => exact quiets_collectSingle .bmc registry.bmc bmc
  | bios => exact quiets_collectSingle .bios registry.bios bios
  | cpld => exact quiets_collectSingle .cpld registry.cpld cpld

theorem quiets_collectKinds (config : Config) (registry : Registry) :
    ∀ kinds : List ComponentKind,
      Quiets Eq (collectKinds config executor registry kinds)
        (collectKinds config executor registry.silenced kinds)
  | [] => quiets_pure rfl
  | kind :: kinds => by
    have others := quiets_collectKinds config registry kinds
    refine quiets_checkCancelled.bind_same fun _ => ?_
    refine (quiets_collectKind config registry kind).bind ?_
    rintro outcome _ rfl
    refine Quiets.bind_same (quiets_update fun state => ?_) fun _ => others
    have classes : (state.summary.classes ++ [(kind, outcome)]).map
          (fun report => (report.1, report.2.silenced)) =
        state.summary.silenced.classes ++ [(kind, outcome.silenced)] :=
      List.map_append
    unfold State.silenced Summary.silenced
    dsimp only
    rw [classes]
    rfl

theorem quiets_baseline (collector : Collector Device) :
    Quiets Eq (baseline executor collector) (baseline executor collector) := by
  intro state
  cases run : collector.probe.perform executor state.host with
  | mk answer host =>
    have quietRun : collector.probe.perform executor state.silenced.host = (answer, host) := run
    rw [baseline_eq, run, baseline_eq, quietRun]
    cases answer with
    | data found => exact ⟨.data rfl, rfl⟩
    | failure error => exact ⟨.failure _, rfl⟩
    | fault reason => exact ⟨.fault reason, rfl⟩

theorem quiets_afterBaseline (config : Config) (registry : Registry) :
    Quiets (fun summary quiet => quiet = summary.silenced)
      (afterBaseline config executor registry)
      (afterBaseline config executor registry.silenced) := by
  refine (quiets_collectKinds config registry ComponentKind.all).bind_same fun _ => ?_
  exact fun _ => ⟨.data rfl, rfl⟩

theorem quiets_run (config : Config) (registry : Registry) :
    Quiets (fun summary quiet => quiet = summary.silenced) (run config executor registry)
      (run config executor registry.silenced) := by
  have rest : Quiets _ (afterBaseline config executor registry) _ :=
    quiets_afterBaseline config registry
  cases there : registry.inventory with
  | none =>
    have quietThere : registry.silenced.inventory = none := there
    rw [run, there, run, quietThere]
    exact rest
  | some collector =>
    have quietThere : registry.silenced.inventory = some collector := there
    rw [run_of_inventory config executor there, run_of_inventory config executor quietThere]
    exact (quiets_baseline collector).bind_same fun _ => rest

end

/-- What a pass comes to, but for what it tells of breakdowns. -/
def Result.silenced (result : Result) : Result :=
  { result with answer := result.answer.map Summary.silenced }

/-- A pass whose collectors find nothing where they would break down. -/
theorem collect_eq_silenced (config : Config) (executor : Executor) (registry : Registry)
    (device : Option Device) (host : Run) :
    collect config executor registry.silenced device host =
      (collect config executor registry device host).silenced := by
  cases device with
  | none => rfl
  | some device =>
    let filled := registry.withDefaults config
    have alike : Quiets _ (run config executor filled) (run config executor filled.silenced) :=
      quiets_run config filled
    obtain ⟨answers, states⟩ := alike { device, host }
    have sameStart : State.silenced { device, host } = { device, host } := rfl
    rw [sameStart] at answers states
    rw [collect, registry.withDefaults_silenced config]
    dsimp only
    rw [answers.eq_map, states]
    rfl

end Pass

end ServerInventory
