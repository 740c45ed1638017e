import ServerInventory.Proofs.Pass.Retention
import ServerInventory.Proofs.Pass.Silence

/-!
What a pass tells of breakdowns. A pass that is not ended by an error has made all its calls,
and it has noted which of them broke down, in their order (`Pass.Noted`). Of a class all of
whose collectors broke down it tells just that (`Summary.Accounts`). Without the breakdowns,
when the same collectors find nothing instead, it comes to the same (`Pass.collect_silenced`).
-/

namespace ServerInventory

/-! ## Calls one after the other -/

section

variable (executor : Executor)

/-- The answers to some calls, each of which finds the host as the call before has left it. -/
def answersTo : List Call → Run → List (Call × Answer Unit)
  | [], _ => []
  | call :: later, host =>
    (call, (call.probe.perform executor host).1) ::
      answersTo later (call.probe.perform executor host).2

/-- The host after some calls. -/
def hostAfter (calls : List Call) (host : Run) : Run :=
  calls.foldl (fun host call => (call.probe.perform executor host).2) host

/-- The breakdowns among some calls. -/
def faultsIn (calls : List Call) (host : Run) : List Fault :=
  (answersTo executor calls host).filterMap fun answered =>
    answered.2.fault?.map fun reason => ⟨answered.1.kind, answered.1.name, reason⟩

/-- Whether none of some calls does anything but break down. -/
def allBreakDown (calls : List Call) (host : Run) : Bool :=
  (answersTo executor calls host).all (·.2.fault?.isSome)

/-- The classes that somebody was asked about, and everybody broke down. -/
def Registry.brokenClasses (registry : Registry) (config : Config) (drives : List Drive) :
    List ComponentKind → Run → List ComponentKind
  | [], _ => []
  | kind :: kinds, host =>
    let others := brokenClasses registry config drives kinds
      (hostAfter executor (registry.calls config drives kind) host)
    if registry.classCalls kind ≠ [] ∧ allBreakDown executor (registry.classCalls kind) host then
      kind :: others
    else others

variable {executor} {early late : List Call} {host : Run}

theorem answersTo_append : ∀ (early : List Call) (host : Run),
    answersTo executor (early ++ late) host =
      answersTo executor early host ++ answersTo executor late (hostAfter executor early host)
  | [], _ => rfl
  | call :: early, host =>
    congrArg ((call, (call.probe.perform executor host).1) :: ·)
      (answersTo_append early (call.probe.perform executor host).2)

theorem hostAfter_append :
    hostAfter executor (early ++ late) host =
      hostAfter executor late (hostAfter executor early host) :=
  List.foldl_append

theorem faultsIn_append :
    faultsIn executor (early ++ late) host =
      faultsIn executor early host ++ faultsIn executor late (hostAfter executor early host) := by
  rw [faultsIn, answersTo_append, List.filterMap_append]
  rfl

theorem allBreakDown_cons {call : Call} :
    allBreakDown executor (call :: late) host =
      (allBreakDown executor [call] host &&
        allBreakDown executor late (hostAfter executor [call] host)) := by
  unfold allBreakDown
  rw [← List.singleton_append, answersTo_append, List.all_append]

variable (executor)

theorem faultsIn_singleton (call : Call) (host : Run) :
    faultsIn executor [call] host =
      ((call.probe.perform executor host).1.fault?.map
        fun reason => (⟨call.kind, call.name, reason⟩ : Fault)).toList := by
  unfold faultsIn answersTo answersTo
  rw [List.filterMap_cons]
  cases (call.probe.perform executor host).1.fault? <;> rfl

theorem allBreakDown_singleton (call : Call) (host : Run) :
    allBreakDown executor [call] host = (call.probe.perform executor host).1.fault?.isSome :=
  Bool.and_true _

/-- The call of a collector forgets what it finds. -/
theorem Call.perform_of {α : Type} (kind : ComponentKind) (collector : Collector α)
    (host : Run) :
    (Call.of kind collector).probe.perform executor host =
      ((collector.probe.perform executor host).1.map fun _ => (),
        (collector.probe.perform executor host).2) := by
  rw [of, Probe.perform_bind]
  cases collector.probe.perform executor host with
  | mk answer host => cases answer <;> rfl

end

/-! ## Notes -/

namespace Pass

section

variable {α β : Type} {executor : Executor} {part : Pass α} {next : α → Pass β}
  {state between later : State} {early late : List Call} {value : β}

/-- What is told, from one state of a pass to a later one, of the calls that are made between
them. -/
structure Noted (executor : Executor) (calls : List Call)
    (reports : List (ComponentKind × ClassOutcome)) (state later : State) : Prop where
  host : later.host = hostAfter executor calls state.host
  faults : later.summary.faults = state.summary.faults ++ faultsIn executor calls state.host
  classes : later.summary.classes = state.summary.classes ++ reports

theorem Noted.trans {reports others : List (ComponentKind × ClassOutcome)}
    (first : Noted executor early reports state between)
    (second : Noted executor late others between later) :
    Noted executor (early ++ late) (reports ++ others) state later where
  host := by rw [second.host, first.host, hostAfter_append]
  faults := by rw [second.faults, first.faults, first.host, faultsIn_append, List.append_assoc]
  classes := by rw [second.classes, first.classes, List.append_assoc]

/-- Without calls nothing is told. -/
theorem noted_of_same (sameHost : later.host = state.host)
    (sameFaults : later.summary.faults = state.summary.faults)
    (sameClasses : later.summary.classes = state.summary.classes) :
    Noted executor [] [] state later :=
  ⟨sameHost, sameFaults.trans (List.append_nil _).symm,
    sameClasses.trans (List.append_nil _).symm⟩

theorem noted_refl : Noted executor [] [] state state :=
  noted_of_same rfl rfl rfl

/-- A part without calls changes nothing of what is told. -/
theorem Noted.of_same {calls : List Call} {reports : List (ComponentKind × ClassOutcome)}
    (first : Noted executor calls reports state between) (sameHost : later.host = between.host)
    (sameFaults : later.summary.faults = between.summary.faults)
    (sameClasses : later.summary.classes = between.summary.classes) :
    Noted executor calls reports state later :=
  ⟨sameHost.trans first.host, sameFaults.trans first.faults, sameClasses.trans first.classes⟩

/-! ## Asking -/

theorem noted_ask {kind : ComponentKind} {collector : Collector α} {found : Option α}
    (run : ask executor kind collector state = (.data found, later)) :
    Noted executor [.of kind collector] [] state later ∧ later.device = state.device ∧
      allBreakDown executor [.of kind collector] state.host = found.isNone := by
  have answered := Call.perform_of executor kind collector state.host
  have faults := faultsIn_singleton executor (.of kind collector) state.host
  have breaks := allBreakDown_singleton executor (.of kind collector) state.host
  rw [ask_eq] at run
  cases performed : collector.probe.perform executor state.host with
  | mk answer host =>
    rw [performed] at run answered
    rw [answered] at faults breaks
    have sameHost : hostAfter executor [.of kind collector] state.host = host :=
      congrArg (·.2) answered
    cases answer with
    | data found =>
      cases run
      exact ⟨⟨sameHost.symm, by rw [faults]; exact (List.append_nil _).symm,
        (List.append_nil _).symm⟩, rfl, breaks⟩
    | failure error => cases run
    | fault reason =>
      cases run
      exact ⟨⟨sameHost.symm, by rw [faults]; rfl, (List.append_nil _).symm⟩, rfl, breaks⟩

theorem noted_gather {kind : ComponentKind} : ∀ {collectors : List (Collector (List α))}
    {state later : State} {found : Nat × List α},
    gather executor kind collectors state = (.data found, later) →
    Noted executor (collectors.map (.of kind)) [] state later ∧ later.device = state.device ∧
      (allBreakDown executor (collectors.map (.of kind)) state.host = true ↔ found.1 = 0)
  | [], state, later, found, run => by
    cases run
    exact ⟨noted_refl, rfl, iff_of_true rfl rfl⟩
  | collector :: collectors, state, later, found, run => by
    obtain ⟨answer, between, asked, run⟩ := exists_of_bind_data run
    obtain ⟨own, sameDevice, broken⟩ := noted_ask asked
    rw [List.map_cons, allBreakDown_cons, broken, ← own.host]
    cases answer with
    | none =>
      obtain ⟨others, sameLast, rest⟩ := noted_gather run
      exact ⟨own.trans others, sameLast.trans sameDevice, rest⟩
    | some value =>
      obtain ⟨others, last, gathered, run⟩ := exists_of_bind_data run
      cases run
      obtain ⟨noted, sameLast, _⟩ := noted_gather gathered
      exact ⟨own.trans noted, sameLast.trans sameDevice, iff_of_false nofun (Nat.succ_ne_zero _)⟩

/-- A class is faulted if somebody was asked about it and everybody broke down. -/
def FaultedBy (executor : Executor) (calls : List Call) (host : Run)
    (outcome : ClassOutcome) : Prop :=
  outcome = .faulted ↔ calls ≠ [] ∧ allBreakDown executor calls host = true

/-! ## Classes of components -/

theorem noted_collectWith {kind : ComponentKind} {collectors : List (Collector (List α))}
    {mergeFound : List α → Pass ClassOutcome} {place : Place β} (lawful : place.Lawful)
    (merges : ∀ fragments state, ∃ outcome ≠ .faulted, ∃ parts, mergeFound fragments state =
      (.data outcome, { state with device := place.set state.device parts }))
    {outcome : ClassOutcome}
    (run : collectWith executor kind collectors mergeFound state = (.data outcome, later)) :
    Noted executor (collectors.map (.of kind)) [] state later ∧
      FaultedBy executor (collectors.map (.of kind)) state.host outcome ∧
      ∃ parts, later.device = place.set state.device parts := by
  have unchanged := (lawful.set_get state.device).symm
  unfold collectWith at run
  split at run
  · rename_i nobody
    obtain rfl := List.isEmpty_iff.1 nobody
    cases run
    exact ⟨noted_refl, iff_of_false nofun fun asked => asked.1 rfl, _, unchanged⟩
  · rename_i somebody
    have asked : collectors.map (Call.of kind) ≠ [] :=
      fun nobody => somebody (List.isEmpty_iff.2 (List.map_eq_nil_iff.1 nobody))
    obtain ⟨⟨completed, found⟩, between, gathered, run⟩ := exists_of_bind_data run
    obtain ⟨noted, sameDevice, broken⟩ := noted_gather gathered
    dsimp only at run
    split at run
    · rename_i none
      cases run
      exact ⟨noted, iff_of_true rfl ⟨asked, broken.2 none⟩, _, sameDevice.trans unchanged⟩
    · rename_i some
      obtain ⟨result, unfaulted, parts, merge⟩ := merges found between
      rw [merge] at run
      cases run
      refine ⟨noted.of_same rfl rfl rfl, ?_, parts, congrArg (place.set · parts) sameDevice⟩
      exact iff_of_false unfaulted fun all => some (broken.1 all.2)

theorem noted_collectList [Identified α] [LawfulIdentified α] {kind : ComponentKind}
    {place : Place (List α)} (lawful : place.Lawful) {collectors : List (Collector (List α))}
    {outcome : ClassOutcome}
    (run : collectList executor kind collectors place state = (.data outcome, later)) :
    Noted executor (collectors.map (.of kind)) [] state later ∧
      FaultedBy executor (collectors.map (.of kind)) state.host outcome ∧
      ∃ parts, later.device = place.set state.device parts := by
  refine noted_collectWith lawful (fun fragments state => ?_) run
  obtain ⟨outcome, unfaulted, merge⟩ := exists_mergeList kind lawful fragments state
  exact ⟨outcome, unfaulted, _, merge⟩

theorem noted_collectSingle [Recordable α] [LawfulRecordable α] [DecidableEq α] [Inhabited α]
    {kind : ComponentKind} {place : Place α} (lawful : place.Lawful)
    {collector : Option (Collector α)} {outcome : ClassOutcome}
    (run : collectSingle executor kind collector place state = (.data outcome, later)) :
    Noted executor (collector.toList.map (.of kind)) [] state later ∧
      FaultedBy executor (collector.toList.map (.of kind)) state.host outcome ∧
      ∃ component, later.device = place.set state.device component := by
  rw [← Call.map_of_asList]
  refine noted_collectWith lawful (fun fragments state => ?_) run
  obtain ⟨outcome, unfaulted, merge⟩ := exists_mergeSingle kind lawful fragments state
  exact ⟨outcome, unfaulted, _, merge⟩

/-! ## Features of drives -/

theorem noted_withCapabilities {registry : Registry} {drive : Drive} {merged : Merged Drive}
    (run : withCapabilities executor registry drive state = (.data merged, later)) :
    Noted executor (registry.featureCalls [drive]) [] state later := by
  unfold withCapabilities at run
  split at run
  · rename_i nameless
    rw [featureCalls_of_nameless registry nameless]
    cases run
    exact noted_refl
  · rename_i named
    rw [featureCalls_of_named registry named]
    obtain ⟨_, begun, checked, run⟩ := exists_of_bind_data run
    obtain rfl : state = begun := congrArg (·.2) checked
    obtain ⟨answer, between, asked, run⟩ := exists_of_bind_data run
    have whole : ask executor .drive (registry.featureCollector drive) state =
        (.data answer, between) := asked
    obtain ⟨noted, _, _⟩ := noted_ask whole
    cases answer with
    | none =>
      cases run
      exact noted
    | some found =>
      obtain ⟨changes, _, merges, _⟩ := mergeChanges_eq (some "Capabilities") drive
        { capabilities := .ofList found }
      dsimp only at run
      rw [mergeField, merges] at run
      cases run
      exact noted

theorem noted_collectCapabilities {registry : Registry} : ∀ {rest done : List Drive}
    {state later : State} {applied : Nat},
    collectCapabilities executor registry done rest state = (.data applied, later) →
    Noted executor (registry.featureCalls rest) [] state later
  | [], done, state, later, applied, run => by
    cases run
    exact noted_refl
  | drive :: rest, done, state, later, applied, run => by
    obtain ⟨merged, between, featured, run⟩ := exists_of_bind_data run
    have own := noted_withCapabilities featured
    rw [write_bind] at run
    obtain ⟨others, last, collected, run⟩ := exists_of_bind_data run
    cases run
    have noted := noted_collectCapabilities collected
    have written : Noted executor (registry.featureCalls [drive]) [] state
        { between with device := drives.set between.device (done ++ merged.record :: rest) } :=
      own.of_same rfl rfl rfl
    rw [featureCalls_cons]
    exact written.trans noted

/-! ## The whole pass -/

theorem noted_collectDrives {config : Config} {registry : Registry} {outcome : ClassOutcome}
    (run : collectDrives config executor registry state = (.data outcome, later)) :
    Noted executor (registry.calls config later.device.drives .drive) [] state later ∧
      FaultedBy executor (registry.classCalls .drive) state.host outcome := by
  obtain ⟨told, between, list, run⟩ := exists_of_bind_data run
  obtain ⟨own, faulted, _⟩ := noted_collectList lawful_drives list
  by_cases asked : config.collectDriveCapabilities = true
  · rw [if_pos asked, read_bind] at run
    obtain ⟨changes, last, features, run⟩ := exists_of_bind_data run
    cases run
    have noted := noted_collectCapabilities features
    have names := names_collectCapabilities executor registry (drives.get between.device) []
      between rfl
    rw [features] at names
    have calls : registry.calls config last.device.drives .drive =
        registry.classCalls .drive ++ registry.featureCalls between.device.drives := by
      rw [Registry.calls, if_pos ⟨rfl, asked⟩, Registry.featureCalls_congr names]
      rfl
    dsimp only
    rw [calls]
    exact ⟨(own.trans noted).of_same rfl rfl rfl, faulted⟩
  · rw [if_neg asked] at run
    cases run
    rw [Registry.calls, if_neg fun both => asked both.2]
    exact ⟨own, faulted⟩

/-- The work on one class. On any class but the drives it leaves the drives alone. -/
theorem noted_collectKind {config : Config} {registry : Registry} {kind : ComponentKind}
    {outcome : ClassOutcome}
    (run : collectKind config executor registry kind state = (.data outcome, later)) :
    Noted executor (registry.calls config later.device.drives kind) [] state later ∧
      FaultedBy executor (registry.classCalls kind) state.host outcome ∧
      (kind ≠ .drive → later.device.drives = state.device.drives) := by
  cases kind with
  | drive =>
    obtain ⟨noted, faulted⟩ := noted_collectDrives run
    exact ⟨noted, faulted, fun other => absurd rfl other⟩
  | nic =>
    obtain ⟨noted, faulted, parts, changed⟩ := noted_collectList lawful_nics run
    exact ⟨noted, faulted, fun _ => congrArg (·.drives) changed⟩
  | storageController =>
    obtain ⟨noted, faulted, parts, changed⟩ := noted_collectList lawful_storageControllers run
    exact ⟨noted, faulted, fun _ => congrArg (·.drives) changed⟩
  | bmc =>
    obtain ⟨noted, faulted, component, changed⟩ := noted_collectSingle lawful_bmc run
    exact ⟨noted, faulted, fun _ => congrArg (·.drives) changed⟩
  | bios =>
    obtain ⟨noted, faulted, component, changed⟩ := noted_collectSingle lawful_bios run
    exact ⟨noted, faulted, fun _ => congrArg (·.drives) changed⟩
  | cpld =>
    obtain ⟨noted, faulted, component, changed⟩ := noted_collectSingle lawful_cpld run
    exact ⟨noted, faulted, fun _ => congrArg (·.drives) changed⟩

/-- The work on some classes. Whom it asks for features is told by the drives that it
leaves. -/
theorem noted_collectKinds {config : Config} {registry : Registry} :
    ∀ {kinds : List ComponentKind} {state later : State}, kinds.Nodup →
    collectKinds config executor registry kinds state = (.data (), later) →
    ∃ reports, Noted executor (kinds.flatMap (registry.calls config later.device.drives)) reports
        state later ∧
      reports.map (·.1) = kinds ∧
      (reports.filter (·.2 = .faulted)).map (·.1) =
        registry.brokenClasses executor config later.device.drives kinds state.host ∧
      (.drive ∉ kinds → later.device.drives = state.device.drives)
  | [], state, later, _, run => by
    cases run
    exact ⟨[], noted_refl, rfl, rfl, fun _ => rfl⟩
  | kind :: kinds, state, later, distinct, run => by
    obtain ⟨outside, othersDistinct⟩ := List.nodup_cons.1 distinct
    obtain ⟨_, begun, checked, run⟩ := exists_of_bind_data run
    obtain rfl : state = begun := congrArg (·.2) checked
    obtain ⟨outcome, between, collected, run⟩ := exists_of_bind_data run
    obtain ⟨own, faulted, drivesKept⟩ := noted_collectKind collected
    obtain ⟨_, noting, noted, run⟩ := exists_of_bind_data run
    cases noted
    obtain ⟨reports, others, names, broken, othersKept⟩ :=
      noted_collectKinds othersDistinct run
    -- The drives are worked on once, so those left in the end tell who was asked then.
    have calls : registry.calls config between.device.drives kind =
        registry.calls config later.device.drives kind := by
      by_cases drive : kind = .drive
      · rw [othersKept (drive ▸ outside)]
      · rw [calls_of_ne_drive _ _ _ drive, calls_of_ne_drive _ _ _ drive]
    rw [calls] at own
    refine ⟨(kind, outcome) :: reports, ?_, congrArg (kind :: ·) names, ?_, fun without => ?_⟩
    · have told : Noted executor (registry.calls config later.device.drives kind)
          [(kind, outcome)] state
          { between with
            summary :=
              { between.summary with
                classes := between.summary.classes ++ [(kind, outcome)] } } :=
        ⟨own.host, own.faults, by rw [own.classes, List.append_nil]⟩
      exact told.trans others
    · have host : between.host = hostAfter executor _ state.host := own.host
      dsimp only at broken
      rw [Registry.brokenClasses, ← host, ← broken]
      by_cases fault : outcome = .faulted
      · rw [if_pos (faulted.1 fault), fault]
        rfl
      · rw [if_neg fun broke => fault (faulted.2 broke)]
        simp only [List.filter_cons, decide_eq_true_eq, fault, if_false]
    · obtain ⟨different, further⟩ := List.ne_and_not_mem_of_not_mem_cons without
      exact (othersKept further).trans (drivesKept different.symm)

end

end Pass

/-- What a summary tells of the calls of a whole pass: which broke down, in their order, and
which classes everybody who was asked broke down for. -/
structure Summary.Accounts (summary : Summary) (config : Config) (executor : Executor)
    (registry : Registry) (drives : List Drive) (host : Run) : Prop where
  faults : summary.faults =
    faultsIn executor (ComponentKind.all.flatMap (registry.calls config drives)) host
  classes : summary.classes.map (·.1) = ComponentKind.all
  faulted : (summary.classes.filter (·.2 = .faulted)).map (·.1) =
    registry.brokenClasses executor config drives ComponentKind.all host

namespace Pass

theorem host_of_baseline {executor : Executor} {collector : Collector Device}
    {state later : State} (run : baseline executor collector state = (.data (), later)) :
    later.host = (collector.probe.perform executor state.host).2 ∧
      later.summary = state.summary := by
  rw [baseline_eq] at run
  cases performed : collector.probe.perform executor state.host with
  | mk answer host =>
    rw [performed] at run
    cases answer <;> cases run
    exact ⟨rfl, rfl⟩

theorem accounts_of_run {config : Config} {executor : Executor} {registry : Registry}
    {collector : Collector Device} {state later : State} {summary : Summary}
    (there : registry.inventory = some collector) (fresh : state.summary = {})
    (whole : run config executor registry state = (.data summary, later)) :
    summary.Accounts config executor registry later.device.drives
      (collector.probe.perform executor state.host).2 := by
  rw [run_of_inventory config executor there] at whole
  obtain ⟨_, begun, based, rest⟩ := exists_of_bind_data whole
  obtain ⟨host, sameSummary⟩ := host_of_baseline based
  obtain ⟨_, finished, collected, rest⟩ := exists_of_bind_data rest
  cases rest
  have distinct : ComponentKind.all.Nodup := by decide
  obtain ⟨reports, noted, names, broken, _⟩ := noted_collectKinds distinct collected
  have classes : finished.summary.classes = reports := by
    rw [noted.classes, sameSummary, fresh]
    rfl
  rw [← host]
  refine ⟨?_, classes ▸ names, classes ▸ broken⟩
  rw [noted.faults, sameSummary, fresh]
  rfl

/-- A breakdown amounts to a call that finds nothing. The pass with collectors that find
nothing where they would break down comes to the same, but for what the summary tells of
breakdowns; and that is just which calls broke down. The drives that the pass leaves tell whose
features were asked for. -/
theorem collect_silenced (config : Config) (executor : Executor) (registry : Registry)
    (device : Option Device) (host : Run) :
    let loud := collect config executor registry device host
    let filled := registry.withDefaults config
    collect config executor registry.silenced device host = loud.silenced ∧
      ∀ summary, loud.answer = .data summary →
        ∃ baseline last, filled.inventory = some baseline ∧ loud.device = some last ∧
          summary.Accounts config executor filled last.drives
            (baseline.probe.perform executor host).2 := by
  intro loud filled
  refine ⟨collect_eq_silenced config executor registry device host, fun summary answered => ?_⟩
  cases device with
  | none => cases answered
  | some device =>
    obtain ⟨baseline, there⟩ := exists_inventory registry config
    have whole : run config executor filled { device, host } =
        (.data summary, (run config executor filled { device, host }).2) :=
      Prod.ext answered rfl
    refine ⟨baseline, _, there, rfl, ?_⟩
    change summary.Accounts config executor filled
      (run config executor filled { device, host }).2.device.drives _
    exact accounts_of_run there rfl whole

/-- Collectors of whom some break down: one of two for the drives, one for features, those of
two classes, and the last of them only after it has cancelled the pass. -/
def troubled : Registry :=
  { inventory := some ⟨"lshw", .finish (.ok {
      drives := [{ serial := "S1", logicalName := "/dev/sda" }] })⟩
    drives := [⟨"smartctl", .fault "index out of bounds"⟩,
      ⟨"nvme", .finish (.ok [{ serial := "s1", model := "M500" }])⟩]
    nics := some ⟨"mlxup", .fault "no port"⟩
    bmc := some ⟨"ipmitool", .finish (.ok { id := "32" })⟩
    bios := some ⟨"dmidecode", .finish (.ok {})⟩
    storageControllers := [⟨"storcli", .cancel (.fault "no controller")⟩]
    driveCapabilities := [⟨"hdparm", .ata, fun _ => .fault "no features"⟩] }

theorem collect_silenced_troubled :
    let config : Config := { collectDriveCapabilities := true }
    let loud := collect config (Replies.executor {}) troubled (some {}) {}
    let told : Summary :=
      { classes :=
          [(.drive, .merged 1 1 []), (.nic, .faulted), (.bios, .empty), (.cpld, .skipped),
            (.bmc, .merged 1 1 []), (.storageController, .faulted)]
        faults :=
          [⟨.drive, "smartctl", "index out of bounds"⟩, ⟨.drive, "hdparm", "no features"⟩,
            ⟨.nic, "mlxup", "no port"⟩, ⟨.storageController, "storcli", "no controller"⟩] }
    loud.answer = .data told ∧
      collect config (Replies.executor {}) troubled.silenced (some {}) {} = loud.silenced ∧
      ∃ last, loud.device = some last ∧
        told.Accounts config (Replies.executor {}) (troubled.withDefaults config) last.drives
          {} := by
  intro config loud told
  have answered : loud.answer = .data told := Answer.eq_data_of_data? (by decide +kernel)
  obtain ⟨silent, accounts⟩ :=
    collect_silenced config (Replies.executor {}) troubled (some {}) {}
  obtain ⟨baseline, last, there, device, accounts⟩ := accounts told answered
  cases there
  exact ⟨answered, silent, last, device, accounts⟩

end Pass

end ServerInventory
