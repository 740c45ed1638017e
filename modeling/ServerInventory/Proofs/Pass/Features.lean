import ServerInventory.Proofs.Device.Features
import ServerInventory.Proofs.Pass.Accounting

/-!
The features of drives in a pass. After the drives were merged each of them that has a path is
asked for once, in their order: the step on one drive is `Drive.Asked`, the run over all of them
`AskedInTurn`. A pass that comes to its end has done just that between the merge of the drives
and the other classes, and counted what is new (`Pass.collect_features`).
-/

namespace ServerInventory

/-! ## Who is asked -/

/-- The utility that is asked about the drives of a bus unless somebody else is named. -/
def Transport.usualCollector : Transport → CapabilityCollector
  | .nvme => ⟨Utility.nvme.name, .nvme, NvmeCli.capabilitiesOf⟩
  | .ata => ⟨Utility.hdparm.name, .ata, Hdparm.capabilitiesOf⟩

namespace Registry

/-- Who is asked about the drives of a bus: the first one that is named for it, or the usual
utility where nobody is. -/
inductive Asks (registry : Registry) (transport : Transport) : CapabilityCollector → Prop
  | named {early late : List CapabilityCollector} {collector : CapabilityCollector} :
    registry.driveCapabilities = early ++ collector :: late →
    (∀ other ∈ early, other.transport ≠ transport) → collector.transport = transport →
    Asks registry transport collector
  | usual : (∀ other ∈ registry.driveCapabilities, other.transport ≠ transport) →
    Asks registry transport transport.usualCollector

theorem asks_capabilityCollector (registry : Registry) (logicalName : String) :
    registry.Asks (.ofLogicalName logicalName) (registry.capabilityCollector logicalName) := by
  unfold capabilityCollector
  dsimp only
  cases found : registry.driveCapabilities.find? fun collector =>
      collector.transport == Transport.ofLogicalName logicalName with
  | some collector =>
    obtain ⟨own, early, late, split, others⟩ := List.find?_eq_some_iff_append.1 found
    refine .named split (fun other member same => ?_) (eq_of_beq own)
    have apart := others other member
    rw [same, beq_self_eq_true] at apart
    cases apart
  | none =>
    have nobody : ∀ other ∈ registry.driveCapabilities,
        other.transport ≠ Transport.ofLogicalName logicalName := fun other member same =>
      List.find?_eq_none.1 found other member (beq_iff_eq.2 same)
    have usual := Asks.usual nobody
    cases bus : Transport.ofLogicalName logicalName <;> rw [bus] at usual <;> exact usual

end Registry

/-! ## One drive after the other -/

/-- What comes of a drive when its features are asked for, on a host that is then left in
another state, which breakdowns are noted and how many features are new. A drive without a
path cannot be asked for, and nothing comes of a call that breaks down. -/
inductive Drive.Asked (executor : Executor) (registry : Registry) (drive : Drive) (host : Run) :
    Drive → Run → List Fault → Nat → Prop
  | nameless : drive.logicalName = "" → Asked executor registry drive host drive host [] 0
  | broken {collector : CapabilityCollector} {reason : String} {later : Run} :
    drive.logicalName ≠ "" → registry.Asks (.ofLogicalName drive.logicalName) collector →
    (collector.probe drive.logicalName).perform executor host = (.fault reason, later) →
    Asked executor registry drive host drive later [⟨.drive, collector.name, reason⟩] 0
  | told {collector : CapabilityCollector} {reported : List (String × Bool)} {after : Drive}
      {later : Run} :
    drive.logicalName ≠ "" → registry.Asks (.ofLogicalName drive.logicalName) collector →
    (collector.probe drive.logicalName).perform executor host = (.data reported, later) →
    drive.TakesFeatures reported after →
    Asked executor registry drive host after later [] (drive.newFeatures after)

/-- What comes of some drives when their features are asked for, once each and in their
order. -/
inductive AskedInTurn (executor : Executor) (registry : Registry) :
    List Drive → Run → List Drive → Run → List Fault → Nat → Prop
  | nil {host : Run} : AskedInTurn executor registry [] host [] host [] 0
  | cons {drive after : Drive} {rest others : List Drive} {host between last : Run}
      {faults more : List Fault} {changes further : Nat} :
    drive.Asked executor registry host after between faults changes →
    AskedInTurn executor registry rest between others last more further →
    AskedInTurn executor registry (drive :: rest) host (after :: others) last (faults ++ more)
      (changes + further)

namespace Pass

variable {config : Config} {executor : Executor} {registry : Registry} {drive : Drive}
  {state later : State}

/-- The step on one drive: nothing but its features, the host and the notes on breakdowns
changes. -/
theorem asked_withCapabilities {merged : Merged Drive}
    (run : withCapabilities executor registry drive state = (.data merged, later)) :
    ∃ faults, drive.Asked executor registry state.host merged.record later.host faults
        merged.applied ∧
      later = { state with
        host := later.host
        summary := { state.summary with faults := state.summary.faults ++ faults } } := by
  unfold withCapabilities at run
  split at run
  · rename_i nameless
    cases run
    exact ⟨[], .nameless (String.isEmpty_iff.1 nameless), by rw [List.append_nil]⟩
  · rename_i named
    have path : drive.logicalName ≠ "" := fun empty => named (String.isEmpty_iff.2 empty)
    have who := registry.asks_capabilityCollector drive.logicalName
    obtain ⟨_, begun, checked, run⟩ := exists_of_bind_data run
    obtain rfl : state = begun := congrArg (·.2) checked
    obtain ⟨answer, between, asked, run⟩ := exists_of_bind_data run
    rw [ask_eq] at asked
    cases performed : ((registry.capabilityCollector drive.logicalName).probe
        drive.logicalName).perform executor state.host with
    | mk answered host =>
      rw [performed] at asked
      cases answered with
      | failure error => cases asked
      | fault reason =>
        cases asked
        cases run
        exact ⟨_, .broken path who performed, rfl⟩
      | data reported =>
        cases asked
        obtain ⟨after, merges, takes⟩ := drive.exists_mergeField reported
        dsimp only at run
        rw [merges] at run
        cases run
        exact ⟨[], .told path who performed takes, by rw [List.append_nil]⟩

/-- The run over all drives. -/
theorem askedInTurn_collectCapabilities : ∀ {rest done : List Drive} {state later : State}
    {changes : Nat}, state.device.drives = done ++ rest →
    collectCapabilities executor registry done rest state = (.data changes, later) →
    ∃ after faults, AskedInTurn executor registry rest state.host after later.host faults
        changes ∧
      later = { device := { state.device with drives := done ++ after }
                host := later.host
                summary := { state.summary with faults := state.summary.faults ++ faults } }
  | [], done, state, later, changes, parts, run => by
    cases run
    refine ⟨[], [], .nil, ?_⟩
    rw [← parts, List.append_nil]
  | drive :: rest, done, state, later, changes, parts, run => by
    obtain ⟨merged, between, featured, run⟩ := exists_of_bind_data run
    obtain ⟨faults, own, same⟩ := asked_withCapabilities featured
    rw [write_bind] at run
    obtain ⟨further, last, collected, run⟩ := exists_of_bind_data run
    cases run
    obtain ⟨others, more, inTurn, sameLast⟩ :=
      askedInTurn_collectCapabilities (List.append_cons done merged.record rest) collected
    refine ⟨merged.record :: others, faults ++ more, .cons own inTurn, ?_⟩
    rw [sameLast, same, List.append_cons done merged.record others, ← List.append_assoc]
    rfl

/-! ## Other steps -/

/-- A part of a pass that counts no features. -/
def Uncounting {α : Type} (part : Pass α) : Prop :=
  ∀ state, (part state).2.summary.capabilityChanges = state.summary.capabilityChanges

section

variable {α β : Type} {part : Pass α} {next : α → Pass β}

theorem Uncounting.bind (first : part.Uncounting) (rest : ∀ value, (next value).Uncounting) :
    (part >>= next).Uncounting := fun state =>
  state_bind (·.summary.capabilityChanges = state.summary.capabilityChanges) (first state)
    fun value later _ same => (rest value later).trans same

theorem uncounting_ask (kind : ComponentKind) (collector : Collector α) :
    (ask executor kind collector).Uncounting := by
  intro state
  rw [ask_eq]
  cases collector.probe.perform executor state.host with
  | mk answer host => cases answer <;> rfl

theorem uncounting_gather (kind : ComponentKind) : ∀ collectors : List (Collector (List α)),
    (gather executor kind collectors).Uncounting
  | [] => fun _ => rfl
  | collector :: collectors => by
    have rest := uncounting_gather kind collectors
    refine (uncounting_ask kind collector).bind fun answer => ?_
    cases answer with
    | none => exact rest
    | some found => exact rest.bind fun _ _ => rfl

theorem uncounting_collectWith (kind : ComponentKind) (collectors : List (Collector (List α)))
    {mergeFound : List α → Pass ClassOutcome}
    (merges : ∀ fragments, (mergeFound fragments).Uncounting) :
    (collectWith executor kind collectors mergeFound).Uncounting := by
  unfold collectWith
  split
  · exact fun _ => rfl
  · refine (uncounting_gather kind collectors).bind fun found => ?_
    obtain ⟨completed, fragments⟩ := found
    dsimp only
    split
    · exact fun _ => rfl
    · exact merges fragments

theorem uncounting_collectList [Identified α] [LawfulIdentified α] (kind : ComponentKind)
    {place : Place (List α)} (lawful : place.Lawful) (collectors : List (Collector (List α))) :
    (collectList executor kind collectors place).Uncounting :=
  uncounting_collectWith kind collectors fun fragments state => by
    rw [mergeList_eq kind lawful]

theorem uncounting_collectSingle [Recordable α] [LawfulRecordable α] [DecidableEq α]
    [Inhabited α] (kind : ComponentKind) {place : Place α} (lawful : place.Lawful)
    (collector : Option (Collector α)) :
    (collectSingle executor kind collector place).Uncounting :=
  uncounting_collectWith kind _ fun fragments state => by
    rw [mergeSingle_eq kind lawful]

end

/-- The work on the drives alone counts features. -/
theorem uncounting_collectKind (config : Config) (registry : Registry) {kind : ComponentKind}
    (other : kind ≠ .drive) : (collectKind config executor registry kind).Uncounting := by
  cases kind with
  | drive => exact absurd rfl other
  | nic => exact uncounting_collectList .nic lawful_nics registry.nics.toList
  | storageController =>
    exact uncounting_collectList .storageController lawful_storageControllers
      registry.storageControllers
  | bmc => exact uncounting_collectSingle .bmc lawful_bmc registry.bmc
  | bios => exact uncounting_collectSingle .bios lawful_bios registry.bios
  | cpld => exact uncounting_collectSingle .cpld lawful_cpld registry.cpld

theorem uncounting_collectKinds (config : Config) (registry : Registry)
    {kinds : List ComponentKind} (without : .drive ∉ kinds) :
    (collectKinds config executor registry kinds).Uncounting := fun state =>
  kept_collectKinds config executor registry
    (fun early late => late.summary.capabilityChanges = early.summary.capabilityChanges)
    (fun _ => rfl) (fun _ _ _ early late => late.trans early) (fun _ _ _ => rfl) kinds state
    fun _ member => uncounting_collectKind config registry (ne_of_mem_of_not_mem member without)

/-! ## The whole pass -/

/-- A state with the features of the drives collected. -/
def State.withFeatures (state : State) (drives : List Drive) (host : Run) (faults : List Fault)
    (changes : Nat) : State where
  device := { state.device with drives }
  host := host
  summary :=
    { state.summary with
      faults := state.summary.faults ++ faults
      capabilityChanges := state.summary.capabilityChanges + changes }

/-- The work on the drives is the merge of what the collectors found and then one question after
the other for the features, which change nothing but the drives. -/
theorem exists_of_collectDrives {outcome : ClassOutcome}
    (asked : config.collectDriveCapabilities = true)
    (run : collectDrives config executor registry state = (.data outcome, later)) :
    ∃ merged drives host faults changes,
      collectList executor .drive registry.drives Pass.drives state = (.data outcome, merged) ∧
      AskedInTurn executor registry merged.device.drives merged.host drives host faults changes ∧
      later = merged.withFeatures drives host faults changes := by
  obtain ⟨told, merged, list, run⟩ := exists_of_bind_data run
  rw [if_pos asked, read_bind] at run
  obtain ⟨changes, featured, collected, run⟩ := exists_of_bind_data run
  cases run
  obtain ⟨drives, faults, inTurn, same⟩ :=
    askedInTurn_collectCapabilities (List.nil_append merged.device.drives).symm collected
  refine ⟨merged, drives, featured.host, faults, changes, list, inTurn, ?_⟩
  rw [same]
  rfl

/-- The classes that are collected after the drives. -/
def laterKinds : List ComponentKind :=
  [.nic, .bios, .cpld, .bmc, .storageController]

/-- The features of drives are collected in a phase of its own: after the drives were merged
each one with a path is asked for, in turn, and nothing else is touched. The classes behind
leave the drives and the count alone. -/
theorem collect_features {device : Device} {host : Run} {summary : Summary}
    (asked : config.collectDriveCapabilities = true)
    (done : (collect config executor registry (some device) host).answer = .data summary) :
    ∃ baseline found after based outcome merged drives between faults last,
      (registry.withDefaults config).inventory = some baseline ∧
      baseline.probe.perform executor host = (.data found, after) ∧
      device.absorb found = .ok based ∧
      collectList executor .drive (registry.withDefaults config).drives Pass.drives
        { device := based, host := after } = (.data outcome, merged) ∧
      AskedInTurn executor (registry.withDefaults config) merged.device.drives merged.host drives
        between faults summary.capabilityChanges ∧
      collectKinds config executor (registry.withDefaults config) laterKinds
        ((merged.withFeatures drives between faults summary.capabilityChanges).reported .drive
          outcome) = (.data (), last) ∧
      last.device.drives = drives ∧
      collect config executor registry (some device) host =
        ⟨.data summary, some last.device.withModels, last.host⟩ := by
  obtain ⟨baseline, found, after, last, there, performed, collected, rfl, whole⟩ :=
    exists_of_collect done
  obtain ⟨_, outcome, worked, own, rest⟩ := exists_of_collectKinds collected
  obtain ⟨merged, drives, between, faults, changes, list, inTurn, rfl⟩ :=
    exists_of_collectDrives asked own
  change collectKinds config executor _ laterKinds _ = _ at rest
  have without : ComponentKind.drive ∉ laterKinds := by decide
  have nothing : merged.summary.capabilityChanges = 0 := by
    have merging : (collectList executor .drive (registry.withDefaults config).drives
        Pass.drives).Uncounting := uncounting_collectList .drive lawful_drives _
    have same := merging { device := device.absorbed found, host := after }
    rw [list] at same
    exact same
  have counted : last.summary.capabilityChanges = changes := by
    have same : (collectKinds config executor _ laterKinds _).2.summary.capabilityChanges = _ :=
      uncounting_collectKinds config (registry.withDefaults config) without
        ((merged.withFeatures drives between faults changes).reported .drive outcome)
    rw [rest] at same
    calc last.summary.capabilityChanges
        = merged.summary.capabilityChanges + changes := same
      _ = changes := by rw [nothing, Nat.zero_add]
  have kept : last.device.drives = drives := by
    have same := sameFor_collectKinds config executor (registry.withDefaults config) without
      ((merged.withFeatures drives between faults changes).reported .drive outcome)
    rw [rest] at same
    exact Eq.symm same
  exact ⟨baseline, found, after, _, outcome, merged, drives, between, faults, last, there,
    performed, Device.absorb_eq device found, list, counted ▸ inTurn, counted ▸ rest, kept, whole⟩

/-- A registry for three drives: one has no path, the questions about the second break down,
and of the third some features are reported, one of them twice, by the first of two who could be
asked. -/
def featuresReported : Registry :=
  { inventory := some ⟨"lshw", .finish (.ok {
      drives := [
        { serial := "S1" },
        { serial := "S2", logicalName := "/dev/sda" },
        { serial := "S3", logicalName := "/dev/nvme0n1", oem := true,
          capabilities := .ofList [("directives", false), ("format-nvm", true)] }] })⟩
    drives := [⟨"smartctl", .finish (.ok [])⟩]
    nics := some ⟨"mlxup", .finish (.ok [])⟩
    bmc := some ⟨"ipmitool", .finish (.ok {})⟩
    bios := some ⟨"dmidecode", .finish (.ok {})⟩
    driveCapabilities := [
      ⟨"hdparm", .ata, fun _ => .fault "no features"⟩,
      ⟨"nvme", .nvme, fun _ => .finish (.ok
        [("format-nvm", true), ("device-self-test", true), ("format-nvm", false)])⟩,
      ⟨"other", .nvme, fun _ => .fault "asked a second time"⟩] }

theorem collect_features_reported :
    let config : Config := { collectDriveCapabilities := true }
    let result := collect config (Replies.executor {}) featuresReported (some {}) {}
    ∃ summary merged drives between faults,
      config.collectDriveCapabilities = true ∧ result.answer = .data summary ∧
      AskedInTurn (Replies.executor {}) (featuresReported.withDefaults config)
        (State.device merged).drives merged.host drives between faults
        summary.capabilityChanges ∧
      summary.capabilityChanges = 2 ∧
      result.device.map (·.drives) = some drives := by
  intro config result
  have answered : result.answer = .data
      { classes :=
          [(.drive, .empty), (.nic, .empty), (.bios, .empty), (.cpld, .skipped),
            (.bmc, .empty), (.storageController, .skipped)]
        faults := [⟨.drive, "hdparm", "no features"⟩]
        capabilityChanges := 2 } := Answer.eq_data_of_data? (by decide +kernel)
  obtain ⟨_, _, _, _, _, merged, drives, between, faults, last, _, _, _, _, inTurn, _, kept,
    whole⟩ := collect_features rfl answered
  refine ⟨_, merged, drives, between, faults, rfl, answered, inTurn, rfl, ?_⟩
  have left : result.device = some last.device.withModels := congrArg Result.device whole
  rw [left, ← kept]
  rfl

end Pass

end ServerInventory
