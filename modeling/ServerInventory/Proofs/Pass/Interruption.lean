import ServerInventory.Proofs.Pass.Course
import ServerInventory.Proofs.Pass.Probes

/-!
Errors that end a pass. An error that a collector reports ends the pass between two classes
of components: whatever the baseline and the classes before have brought is there, and
nothing of the class in which the error came up (`Pass.collect_interrupted`). Only among the
features of the drives an error leaves something of its class behind, since those are merged
drive by drive.
-/

namespace ServerInventory

namespace Registry

variable {registry : Registry} {config : Config} {executor : Executor}

/-! ## Classes without failures -/

theorem featuredUpToFailure_append {done : List Drive}
    (nowhere : firstFailure executor (registry.featureCalls done) = none) (rest : List Drive) :
    registry.featuredUpToFailure executor (done ++ rest) =
      done.map (registry.featured executor) ++ registry.featuredUpToFailure executor rest := by
  induction done with
  | nil => rfl
  | cons drive done ih =>
    rw [Pass.featureCalls_cons, firstFailure_append, Option.or_eq_none_iff] at nowhere
    rw [List.cons_append, featuredUpToFailure, nowhere.1, ih nowhere.2]
    rfl

theorem featuredUpToFailure_of_unfailed {drives : List Drive}
    (nowhere : firstFailure executor (registry.featureCalls drives) = none) :
    registry.featuredUpToFailure executor drives = drives.map (registry.featured executor) := by
  have all := featuredUpToFailure_append nowhere []
  rw [List.append_nil] at all
  exact all.trans (List.append_nil _)

/-- Without a failure the merges for a class of components are complete. -/
theorem collected_of_unfailed {device : Device} {kind : ComponentKind}
    (nowhere : firstFailure executor (registry.calls config
      (registry.joinedDrives executor device.drives) kind) = none) :
    registry.collected config executor device kind =
      registry.completed config executor device kind := by
  by_cases both : kind = .drive ∧ config.collectDriveCapabilities = true
  · rw [calls, if_pos both, firstFailure_append, Option.or_eq_none_iff] at nowhere
    rw [collected, if_neg (Option.not_isSome_iff_eq_none.2 nowhere.1), if_pos both,
      featuredUpToFailure_of_unfailed nowhere.2]
    obtain ⟨rfl, asked⟩ := both
    rw [completed, if_pos asked]
  · rw [calls, if_neg both] at nowhere
    rw [collected, if_neg (Option.not_isSome_iff_eq_none.2 nowhere), if_neg both]

/-- The classes without failures are behind those that follow. The induction is on the
classes, with whatever server the ones before have made. -/
theorem course_append {before : List ComponentKind} (rest : List ComponentKind) :
    ∀ {device : Device},
    firstFailure executor (registry.callsFrom config executor device before) = none →
    registry.course config executor device (before ++ rest) =
        registry.course config executor
          (before.foldl (registry.completed config executor) device) rest ∧
      registry.callsFrom config executor device (before ++ rest) =
        registry.callsFrom config executor device before ++
          registry.callsFrom config executor
            (before.foldl (registry.completed config executor) device) rest := by
  induction before with
  | nil => exact fun _ => ⟨rfl, rfl⟩
  | cons kind before ih =>
    intro device nowhere
    rw [callsFrom, firstFailure_append, Option.or_eq_none_iff] at nowhere
    obtain ⟨here, others⟩ := nowhere
    have complete := collected_of_unfailed here
    rw [complete] at others
    obtain ⟨course, calls⟩ := ih others
    refine ⟨?_, ?_⟩
    · rw [List.cons_append, Registry.course, here, complete]
      exact course
    · rw [List.cons_append, callsFrom, callsFrom, complete, calls, List.append_assoc]
      rfl

theorem exists_calls_eq (registry : Registry) (config : Config) (drives : List Drive)
    (kind : ComponentKind) :
    ∃ features, registry.calls config drives kind = registry.classCalls kind ++ features := by
  unfold calls
  split
  · exact ⟨registry.featureCalls drives, rfl⟩
  · exact ⟨[], (List.append_nil _).symm⟩

/-- A failure in a call for a class as a whole leaves the server as it was before. -/
theorem course_of_class_failure {kind : ComponentKind} {error : Error}
    (failing : firstFailure executor (registry.classCalls kind) = some error)
    (device : Device) (kinds : List ComponentKind) :
    registry.course config executor device (kind :: kinds) = device := by
  obtain ⟨features, all⟩ := exists_calls_eq registry config
    (registry.joinedDrives executor device.drives) kind
  rw [course, all, firstFailure_append, failing, collected, failing]
  rfl

/-- The calls for the drives, split at one of those whose features are asked for. -/
theorem calls_drive_split {done rest : List Drive} {drive : Drive}
    (asked : config.collectDriveCapabilities = true) :
    registry.calls config (done ++ drive :: rest) .drive =
      (registry.classCalls .drive ++ registry.featureCalls done) ++
        (registry.featureCalls [drive] ++ registry.featureCalls rest) := by
  rw [calls, if_pos ⟨rfl, asked⟩, Pass.featureCalls_append, Pass.featureCalls_cons,
    List.append_assoc]

/-- A failure in a call for the features of a drive leaves the features of the drives before
behind. -/
theorem course_of_feature_failure {done rest : List Drive} {drive : Drive} {device : Device}
    {error : Error} (asked : config.collectDriveCapabilities = true)
    (drives : registry.joinedDrives executor device.drives = done ++ drive :: rest)
    (nowhere : firstFailure executor
      (registry.classCalls .drive ++ registry.featureCalls done) = none)
    (failing : firstFailure executor (registry.featureCalls [drive]) = some error)
    (kinds : List ComponentKind) :
    registry.course config executor device (.drive :: kinds) =
      { device with drives := done.map (registry.featured executor) ++ drive :: rest } := by
  have here : (firstFailure executor (registry.featureCalls [drive])).isSome = true :=
    Option.isSome_iff_exists.2 ⟨error, failing⟩
  have ended : (firstFailure executor
      (registry.calls config (registry.joinedDrives executor device.drives) .drive)).isSome =
        true := by
    rw [drives, calls_drive_split asked, firstFailure_append, nowhere, Option.none_or,
      firstFailure_append, failing]
    rfl
  rw [firstFailure_append, Option.or_eq_none_iff] at nowhere
  rw [course, if_pos ended, Pass.collected_drive registry config nowhere.1, if_pos asked, drives,
    featuredUpToFailure_append nowhere.2, featuredUpToFailure, if_pos here]

end Registry

namespace Pass

/-- What a pass comes to that an error ends: the server as it is by then, and the commands
that were run. -/
def stopped (error : Error) (device : Device) (host : Run) (ran : List Command) : Result :=
  ⟨.failure error, some device, { host with commands := host.commands ++ ran }⟩

section

variable {config : Config} {executor : Executor} {registry : Registry} {device : Device}
  {host : Run} {baseline : Collector Device} {found : Device} {early late : List Call}
  {call : Call} {error : Error}
  (there : (registry.withDefaults config).inventory = some baseline)
  (uncancelled : (collect config executor registry (some device) host).host.cancelled = false)
  (answered : baseline.answer executor = .data found)

include there uncancelled answered

/-- The first call that fails is the last one that is made. -/
theorem collect_of_first_failure
    (calls : (registry.withDefaults config).callsFrom config executor (device.absorbed found)
      ComponentKind.all = early ++ call :: late)
    (nowhere : firstFailure executor early = none) (failing : call.failure? executor = some error) :
    collect config executor registry (some device) host =
      stopped error
        ((registry.withDefaults config).course config executor (device.absorbed found)
          ComponentKind.all)
        host (baseline.commands executor ++ commandsOf executor (early ++ [call])) := by
  obtain ⟨made, failure⟩ := upToFailure_append_cons nowhere failing late
  obtain ⟨sameDevice, sameHost, sameAnswer⟩ := collect_of_found there uncancelled answered
  rw [firstFailure_upToFailure, calls, failure] at sameAnswer
  rw [calls, made] at sameHost
  rw [Registry.finished, calls, failure, Option.isSome_some, if_pos rfl] at sameDevice
  dsimp only at sameAnswer
  have result : collect config executor registry (some device) host =
      ⟨(run config executor (registry.withDefaults config) { device, host }).1,
        some (run config executor (registry.withDefaults config) { device, host }).2.device,
        (run config executor (registry.withDefaults config) { device, host }).2.host⟩ := rfl
  rw [result, sameAnswer, sameDevice, sameHost, stopped, List.append_assoc]

/-- An error in a call for a class as a whole leaves nothing of the class behind. -/
theorem collect_of_class_failure {before after : List ComponentKind} {kind : ComponentKind}
    (split : ComponentKind.all = before ++ kind :: after)
    (calls : (registry.withDefaults config).classCalls kind = early ++ call :: late)
    (unfailed : ∀ earlier ∈ (registry.withDefaults config).callsFrom config executor
      (device.absorbed found) before ++ early, ∀ error, earlier.answer executor ≠ .failure error)
    (failed : call.answer executor = .failure error) :
    collect config executor registry (some device) host =
      stopped (.collector kind.name error)
        (before.foldl ((registry.withDefaults config).completed config executor)
          (device.absorbed found))
        host (baseline.commands executor ++ commandsOf executor
          ((registry.withDefaults config).callsFrom config executor (device.absorbed found)
            before ++ early ++ [call])) := by
  have nowhere := firstFailure_eq_none_iff.2 unfailed
  have earlyNowhere := nowhere
  rw [firstFailure_append, Option.or_eq_none_iff] at earlyNowhere
  have sameKind : call.kind = kind :=
    Registry.kind_of_mem_classCalls (calls ▸ List.mem_append_right early List.mem_cons_self)
  have failing : call.failure? executor = some (.collector kind.name error) := by
    rw [Call.failure?, failed, sameKind]
    rfl
  let filled := registry.withDefaults config
  let base := device.absorbed found
  let reached := before.foldl (filled.completed config executor) base
  obtain ⟨course, callsFrom⟩ : filled.course config executor base (before ++ kind :: after) =
        filled.course config executor reached (kind :: after) ∧
      filled.callsFrom config executor base (before ++ kind :: after) =
        filled.callsFrom config executor base before ++
          filled.callsFrom config executor reached (kind :: after) :=
    Registry.course_append (kind :: after) earlyNowhere.1
  have classFailing : firstFailure executor (filled.classCalls kind) =
      some (.collector kind.name error) := by
    rw [calls]
    exact (upToFailure_append_cons earlyNowhere.2 failing late).2
  have stays : filled.course config executor base ComponentKind.all = reached := by
    rw [split, course]
    exact Registry.course_of_class_failure classFailing reached after
  obtain ⟨features, kindCalls⟩ := Registry.exists_calls_eq filled config
    (filled.joinedDrives executor reached.drives) kind
  have order : filled.callsFrom config executor base ComponentKind.all =
      (filled.callsFrom config executor base before ++ early) ++ call :: (late ++ features ++
        filled.callsFrom config executor (filled.collected config executor reached kind)
          after) := by
    rw [split, callsFrom, Registry.callsFrom, kindCalls, calls]
    simp only [List.append_assoc, List.cons_append]
  have result := collect_of_first_failure there uncancelled answered order nowhere failing
  rw [stays] at result
  exact result

/-- An error in a call for the features of a drive leaves the features of the drives before
behind. -/
theorem collect_of_feature_failure {done rest : List Drive} {drive : Drive}
    (asked : config.collectDriveCapabilities = true)
    (drives : (registry.withDefaults config).joinedDrives executor
      (device.absorbed found).drives = done ++ drive :: rest)
    (named : ¬ drive.logicalName.isEmpty = true)
    (unfailed : ∀ earlier ∈ (registry.withDefaults config).classCalls .drive ++
      (registry.withDefaults config).featureCalls done,
        ∀ error, earlier.answer executor ≠ .failure error)
    (failed : ((registry.withDefaults config).featureCollector drive).answer executor =
      .failure error) :
    collect config executor registry (some device) host =
      stopped (.collector ComponentKind.drive.name error)
        { device.absorbed found with
          drives :=
            done.map ((registry.withDefaults config).featured executor) ++ drive :: rest }
        host (baseline.commands executor ++ commandsOf executor
          ((registry.withDefaults config).classCalls .drive ++
            (registry.withDefaults config).featureCalls done ++
              [.of .drive ((registry.withDefaults config).featureCollector drive)])) := by
  let filled := registry.withDefaults config
  let base := device.absorbed found
  have nowhere := firstFailure_eq_none_iff.2 unfailed
  have failing : (Call.of .drive (filled.featureCollector drive)).failure? executor =
      some (.collector ComponentKind.drive.name error) := by
    rw [Call.failure?_of, failed]
    rfl
  have own : filled.featureCalls [drive] = [.of .drive (filled.featureCollector drive)] :=
    featureCalls_of_named filled named
  have order : filled.callsFrom config executor base ComponentKind.all =
      (filled.classCalls .drive ++ filled.featureCalls done) ++
        Call.of .drive (filled.featureCollector drive) :: (filled.featureCalls rest ++
          filled.callsFrom config executor (filled.collected config executor base .drive)
            [.nic, .bios, .cpld, .bmc, .storageController]) := by
    rw [ComponentKind.all, Registry.callsFrom, drives, Registry.calls_drive_split asked, own]
    simp only [List.append_assoc, List.cons_append, List.nil_append]
  have stays : filled.course config executor base ComponentKind.all =
      { base with drives := done.map (filled.featured executor) ++ drive :: rest } := by
    have ownFailing : firstFailure executor (filled.featureCalls [drive]) =
        some (.collector ComponentKind.drive.name error) := by
      rw [own, firstFailure_singleton, failing]
    exact Registry.course_of_feature_failure asked drives nowhere ownFailing _
  have result := collect_of_first_failure there uncancelled answered order nowhere failing
  rw [stays] at result
  exact result

end

/-! ## Commands that fail -/

section

variable {config : Config} {executor : Executor} {registry : Registry}

theorem mem_dropLast_append {α : Type} {early late : List α} {value : α}
    (member : value ∈ (early ++ late).dropLast) : value ∈ early ∨ value ∈ late.dropLast := by
  rw [List.dropLast_append] at member
  split at member
  · exact .inl (List.mem_of_mem_dropLast member)
  · exact List.mem_append.1 member

/-- Of the commands in a series of prompt calls that ends with the first failure none but
the last fails. -/
theorem succeeds_upToFailure : ∀ {calls : List Call},
    (∀ call ∈ calls, call.probe.Prompt) →
    ∀ command ∈ (commandsOf executor (upToFailure executor calls)).dropLast,
      ∃ output, executor command = .ok output
  | [], _, _, member => nomatch member
  | call :: later, prompt, command, member => by
    obtain ⟨here, others⟩ := List.forall_mem_cons.1 prompt
    obtain ⟨ran, recorded, early, all⟩ :=
      Probe.succeeds_of_prompt executor call.probe here {}
    have commands : call.commands executor = ran := recorded
    rw [upToFailure] at member
    cases failing : call.failure? executor with
    | some error =>
      rw [failing, Option.isSome_some, if_pos rfl, commandsOf_cons, commands] at member
      have same : ran ++ commandsOf executor [] = ran := List.append_nil ran
      rw [same] at member
      exact early command member
    | none =>
      have succeed := all (Call.failure?_eq_none_iff executor |>.1 failing)
      rw [failing, Option.isSome_none, if_neg Bool.false_ne_true, commandsOf_cons,
        commands] at member
      rcases mem_dropLast_append member with first | further
      · exact succeed command first
      · exact succeeds_upToFailure others command further

theorem prompt_of {α : Type} (kind : ComponentKind) {collector : Collector α}
    (prompt : collector.probe.Prompt) : (Call.of kind collector).probe.Prompt := by
  have done : ∀ _ : α, (Probe.finish (.ok ())).Prompt := fun _ => trivial
  exact Probe.prompt_bind done collector.probe prompt

theorem prompt_featureCollector (prompt : registry.Prompt) (drive : Drive) :
    (registry.featureCollector drive).probe.Prompt := by
  change (registry.capabilityCollector drive.logicalName).probe drive.logicalName |>.Prompt
  unfold Registry.capabilityCollector
  dsimp only
  cases found : registry.driveCapabilities.find? fun collector =>
      collector.transport == Transport.ofLogicalName drive.logicalName with
  | some collector =>
    exact prompt.driveCapabilities collector (List.mem_of_find?_eq_some found) drive.logicalName
  | none =>
    cases Transport.ofLogicalName drive.logicalName with
    | nvme => exact (NvmeCli.straight_capabilitiesOf drive.logicalName).prompt
    | ata => exact (Hdparm.straight_capabilitiesOf drive.logicalName).prompt

theorem prompt_classCalls (prompt : registry.Prompt) :
    ∀ kind : ComponentKind, ∀ call ∈ registry.classCalls kind, call.probe.Prompt :=
  Registry.forall_classCalls
    (fun collector inside => prompt_of .drive (prompt.drives collector inside))
    (fun collector inside => prompt_of .nic (prompt.nics collector inside))
    (fun collector inside => prompt_of .bmc (prompt.bmc collector inside))
    (fun collector inside => prompt_of .bios (prompt.bios collector inside))
    (fun collector inside => prompt_of .cpld (prompt.cpld collector inside))
    fun collector inside =>
      prompt_of .storageController (prompt.storageControllers collector inside)

theorem prompt_calls (prompt : registry.Prompt) (drives : List Drive) (kind : ComponentKind) :
    ∀ call ∈ registry.calls config drives kind, call.probe.Prompt := by
  intro call member
  unfold Registry.calls at member
  split at member
  · rcases List.mem_append.1 member with ofClass | ofDrive
    · exact prompt_classCalls prompt kind call ofClass
    · obtain ⟨drive, _, rfl⟩ := List.mem_map.1 ofDrive
      exact prompt_of .drive (prompt_featureCollector prompt drive)
  · exact prompt_classCalls prompt kind call member

theorem prompt_callsFrom (prompt : registry.Prompt) : ∀ (kinds : List ComponentKind)
    (device : Device), ∀ call ∈ registry.callsFrom config executor device kinds,
      call.probe.Prompt
  | [], _, _, member => nomatch member
  | kind :: kinds, device, call, member => by
    rcases List.mem_append.1 member with here | later
    · exact prompt_calls prompt _ kind call here
    · exact prompt_callsFrom prompt kinds _ call later

/-- Of the commands that a pass with prompt collectors runs none but the last fails. -/
theorem succeeds_collect {device : Device} {host : Run} (prompt : registry.Prompt)
    (uncancelled : (collect config executor registry (some device) host).host.cancelled = false) :
    ∃ ran, (collect config executor registry (some device) host).host.commands =
        host.commands ++ ran ∧
      ∀ command ∈ ran.dropLast, ∃ output, executor command = .ok output := by
  have filledPrompt := prompt.withDefaults config
  obtain ⟨baseline, there⟩ := exists_inventory registry config
  obtain ⟨ran, recorded, early, all⟩ := Probe.succeeds_of_prompt executor baseline.probe
    (filledPrompt.inventory baseline there) {}
  have commands : baseline.commands executor = ran := recorded
  cases answered : baseline.answer executor with
  | failure error =>
    rw [collect_of_baseline_failure there uncancelled answered, commands]
    exact ⟨ran, rfl, early⟩
  | fault reason =>
    rw [collect_of_baseline_fault there uncancelled answered, commands]
    exact ⟨ran, rfl, early⟩
  | data found =>
    have succeed := all fun error failed => by
      rw [← Collector.answer, answered] at failed
      cases failed
    have sameHost := (collect_of_found there uncancelled answered).host
    let made := upToFailure executor ((registry.withDefaults config).callsFrom config executor
      (device.absorbed found) ComponentKind.all)
    refine ⟨ran ++ commandsOf executor made, ?_, fun command member => ?_⟩
    · rw [← List.append_assoc, ← commands]
      exact congrArg (·.commands) sameHost
    · rcases mem_dropLast_append member with first | further
      · exact succeed command first
      · exact succeeds_upToFailure (prompt_callsFrom filledPrompt ComponentKind.all _) command
          further

end

/-! ## Errors in a whole pass -/

/-- What lshw is asked for. -/
def lshwCommand : Command := Utility.lshw.call ["-json", "-quiet"]

/-- How lshw fails: its command does, or what it prints is no report. -/
def LshwFails (executor : Executor) (error : Error) : Prop :=
  executor lshwCommand = .error error ∨
    ∃ output, executor lshwCommand = .ok output ∧ Lshw.device output.text = .error error

theorem commands_of_lshwFails {executor : Executor} {error : Error}
    (fails : LshwFails executor error) :
    (Utility.lshw.collector Lshw.inventory).answer executor = .failure error ∧
      (Utility.lshw.collector Lshw.inventory).commands executor = [lshwCommand] := by
  have performed : Lshw.inventory.perform executor {} =
      (((Probe.finish (executor lshwCommand)).bind fun output => Pure.pure output.text).bind
        fun text => .ofExcept (Lshw.device text)).perform executor ⟨false, [lshwCommand]⟩ := rfl
  have ends : Lshw.inventory.perform executor {} =
      (.failure error, ⟨false, [lshwCommand]⟩) := by
    rw [performed]
    rcases fails with failed | ⟨output, printed, unread⟩
    · rw [failed]
      rfl
    · have read : (((Probe.finish (.ok output)).bind fun output => Pure.pure output.text).bind
          fun text => .ofExcept (Lshw.device text)) =
          .ofExcept (Lshw.device output.text) := rfl
      rw [printed, read, unread]
      rfl
  exact ⟨congrArg (·.1) ends, congrArg (·.2.commands) ends⟩

/-- Errors that collectors report stop a pass between two classes of components. -/
structure Interrupted (config : Config) (executor : Executor) (registry : Registry)
    (device : Device) (host : Run) : Prop where
  /-- If lshw fails, the server is as it was, and nothing else was run. -/
  lshw : (registry.withDefaults config).inventory =
      some (Utility.lshw.collector Lshw.inventory) →
    ∀ error, LshwFails executor error →
      collect config executor registry (some device) host =
        stopped (.collector "inventory" error) device host [lshwCommand]
  /-- So it is if any other baseline fails. -/
  baseline : ∀ baseline error, (registry.withDefaults config).inventory = some baseline →
    baseline.answer executor = .failure error →
      collect config executor registry (some device) host =
        stopped (.collector "inventory" error) device host (baseline.commands executor)
  /-- If a call for a class fails, the classes before are complete, and nothing else was
  merged or called. -/
  ofClass : ∀ baseline found base, (registry.withDefaults config).inventory = some baseline →
    baseline.answer executor = .data found → device.absorb found = .ok base →
    ∀ before kind after early call late error, ComponentKind.all = before ++ kind :: after →
      (registry.withDefaults config).classCalls kind = early ++ call :: late →
      (∀ earlier ∈ (registry.withDefaults config).callsFrom config executor base before ++ early,
        ∀ error, earlier.answer executor ≠ .failure error) →
      call.answer executor = .failure error →
        collect config executor registry (some device) host =
          stopped (.collector kind.name error)
            (before.foldl ((registry.withDefaults config).completed config executor) base)
            host (baseline.commands executor ++ commandsOf executor
              ((registry.withDefaults config).callsFrom config executor base before ++
                early ++ [call]))
  /-- If a call for the features of a drive fails, the drives are merged and those before
  this one have their features, but nothing else was merged or called. -/
  ofFeatures : ∀ baseline found base, (registry.withDefaults config).inventory = some baseline →
    baseline.answer executor = .data found → device.absorb found = .ok base →
    config.collectDriveCapabilities = true →
    ∀ done drive rest error,
      (registry.withDefaults config).joinedDrives executor base.drives = done ++ drive :: rest →
      ¬ drive.logicalName.isEmpty = true →
      (∀ earlier ∈ (registry.withDefaults config).classCalls .drive ++
          (registry.withDefaults config).featureCalls done,
        ∀ error, earlier.answer executor ≠ .failure error) →
      ((registry.withDefaults config).featureCollector drive).answer executor =
        .failure error →
        collect config executor registry (some device) host =
          stopped (.collector ComponentKind.drive.name error)
            { base with
              drives :=
                done.map ((registry.withDefaults config).featured executor) ++ drive :: rest }
            host (baseline.commands executor ++ commandsOf executor
              ((registry.withDefaults config).classCalls .drive ++
                (registry.withDefaults config).featureCalls done ++
                  [.of .drive ((registry.withDefaults config).featureCollector drive)]))
  /-- If all collectors are prompt, a command that fails is the last one that was run. -/
  commands : registry.Prompt →
    ∃ ran, (collect config executor registry (some device) host).host.commands =
        host.commands ++ ran ∧
      ∀ command ∈ ran.dropLast, ∃ output, executor command = .ok output

/-- An error that a collector reports stops a pass that nobody cancels where it stands. -/
theorem collect_interrupted {config : Config} {executor : Executor} {registry : Registry}
    {device : Device} {host : Run}
    (uncancelled : (collect config executor registry (some device) host).host.cancelled = false) :
    Interrupted config executor registry device host where
  lshw there error fails := by
    obtain ⟨answered, ran⟩ := commands_of_lshwFails fails
    rw [collect_of_baseline_failure there uncancelled answered, ran]
    rfl
  baseline baseline error there answered :=
    collect_of_baseline_failure there uncancelled answered
  ofClass baseline found base there answered absorbed before kind after early call late error
      split calls unfailed failed := by
    rw [Device.absorb_eq] at absorbed
    cases absorbed
    exact collect_of_class_failure there uncancelled answered split calls unfailed failed
  ofFeatures baseline found base there answered absorbed asked done drive rest error drives
      named unfailed failed := by
    rw [Device.absorb_eq] at absorbed
    cases absorbed
    exact collect_of_feature_failure there uncancelled answered asked drives named unfailed
      failed
  commands prompt := succeeds_collect prompt uncancelled

/-- A registry that leaves the network interfaces to the usual utility. -/
def drivesOnly : Registry :=
  { inventory := some ⟨"lshw", .finish (.ok { drives := [{ serial := "S1" }] })⟩
    drives := [⟨"smartctl", .finish (.ok [{ serial := "s1", model := "M500" }])⟩] }

theorem collect_interrupted_drivesOnly :
    let result := collect {} (Replies.executor {}) drivesOnly (some {}) {}
    result.host.cancelled = false ∧
      result = stopped (.collector "nic" (.executableNotFound "mlxup"))
        { drives := [{ serial := "S1", model := "M500" }] } {}
        [Utility.mlxup.call ["--query"]] := by
  have uncancelled :
      (collect {} (Replies.executor {}) drivesOnly (some {}) {}).host.cancelled = false := by
    decide +kernel
  have interrupted := collect_interrupted uncancelled
  have unfailed : ∀ earlier ∈ (drivesOnly.withDefaults {}).callsFrom {} (Replies.executor {})
      { drives := [{ serial := "S1" }] } [.drive] ++ [],
      ∀ error, earlier.answer (Replies.executor {}) ≠ .failure error := by
    intro earlier member error
    obtain rfl := List.mem_singleton.1 member
    nofun
  have stops := interrupted.ofClass _ { drives := [{ serial := "S1" }] }
    { drives := [{ serial := "S1" }] } rfl rfl (by decide +kernel) [.drive] .nic
    [.bios, .cpld, .bmc, .storageController] [] (.of .nic (Utility.mlxup.collector
      Mlxup.queriedNics)) [] (.executableNotFound "mlxup") rfl rfl unfailed rfl
  refine ⟨uncancelled, stops.trans ?_⟩
  have merged : [ComponentKind.drive].foldl ((drivesOnly.withDefaults {}).completed {}
      (Replies.executor {})) { drives := [{ serial := "S1" }] } =
        { drives := [{ serial := "S1", model := "M500" }] } := by decide +kernel
  rw [merged]
  rfl

end Pass

end ServerInventory
