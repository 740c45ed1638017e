import ServerInventory.Proofs.Pass.Moments

/-!
What the usual utilities run in a pass. A disabled utility is not used for any class of
components, but it is still asked for the features of drives on whose bus nobody else is named
(`Pass.collect_disabled`, `Pass.hdparm_asked`).
-/

namespace ServerInventory

/-! ## Commands of probes -/

namespace Probe

variable {α β : Type} {allowed other : Command → Prop}

/-- A probe that runs none but certain commands, whatever comes of them. -/
def RunsOnly (allowed : Command → Prop) : Probe α → Prop
  | finish _ => True
  | fault _ => True
  | cancel rest => rest.RunsOnly allowed
  | run command next => allowed command ∧ ∀ outcome, (next outcome).RunsOnly allowed

theorem runsOnly_of_imp (weaker : ∀ command, allowed command → other command) :
    ∀ probe : Probe α, probe.RunsOnly allowed → probe.RunsOnly other
  | finish _, _ => trivial
  | fault _, _ => trivial
  | cancel rest, only => runsOnly_of_imp weaker rest only
  | run command next, only => ⟨weaker command only.1, fun outcome =>
      runsOnly_of_imp weaker (next outcome) (only.2 outcome)⟩

theorem runsOnly_bind {next : α → Probe β} (further : ∀ value, (next value).RunsOnly allowed) :
    ∀ probe : Probe α, probe.RunsOnly allowed → (probe >>= next).RunsOnly allowed
  | finish (.ok value), _ => further value
  | finish (.error _), _ => trivial
  | fault _, _ => trivial
  | cancel rest, only => runsOnly_bind further rest only
  | run _ rest, only => ⟨only.1, fun outcome =>
      runsOnly_bind further (rest outcome) (only.2 outcome)⟩

/-- A text is read by one command. -/
theorem runsOnly_read {command : Command} {next : String → Probe α} (first : allowed command)
    (further : ∀ text, (next text).RunsOnly allowed) :
    (read command >>= next).RunsOnly allowed :=
  ⟨first, fun outcome => by
    cases outcome with
    | error error => trivial
    | ok output => exact further output.text⟩

theorem commands_of_runsOnly (executor : Executor) : ∀ probe : Probe α,
    probe.RunsOnly allowed → ∀ host : Run, ∃ ran,
      (probe.perform executor host).2.commands = host.commands ++ ran ∧
        ∀ command ∈ ran, allowed command
  | finish (.ok _), _, _ => ⟨[], (List.append_nil _).symm, nofun⟩
  | finish (.error _), _, _ => ⟨[], (List.append_nil _).symm, nofun⟩
  | fault _, _, _ => ⟨[], (List.append_nil _).symm, nofun⟩
  | cancel rest, only, host =>
    commands_of_runsOnly executor rest only { host with cancelled := true }
  | run _ rest, only, ⟨true, commands⟩ =>
    commands_of_runsOnly executor (rest (.error .cancelled)) (only.2 _) ⟨true, commands⟩
  | run command rest, only, ⟨false, commands⟩ => by
    obtain ⟨ran, recorded, all⟩ := commands_of_runsOnly executor (rest (executor command))
      (only.2 _) ⟨false, commands ++ [command]⟩
    refine ⟨command :: ran, ?_, List.forall_mem_cons.2 ⟨only.1, all⟩⟩
    show ((rest (executor command)).perform executor ⟨false, commands ++ [command]⟩).2.commands = _
    rw [recorded, List.append_assoc]
    rfl

end Probe

/-! ## Registries without a program -/

theorem Utility.program_inj {first second : Utility} (same : first.program = second.program) :
    first = second := by
  have apart : ∀ first ∈ all, ∀ second ∈ all, first.program = second.program → first = second := by
    decide
  exact apart first first.mem_all second second.mem_all same

/-- A usual utility runs its own program and no other. -/
theorem Utility.runsOnly_of_ne {α : Type} {usual utility : Utility} {probe : Probe α}
    (own : probe.RunsOnly (·.program = usual.program)) (different : usual ≠ utility) :
    probe.RunsOnly (·.program ≠ utility.program) := by
  refine Probe.runsOnly_of_imp (fun command same => ?_) probe own
  intro other
  exact different (program_inj (same.symm.trans other))

theorem Lshw.runsOnly_inventory : inventory.RunsOnly (·.program = Utility.lshw.program) :=
  Probe.runsOnly_read rfl fun _ => trivial

theorem Smartctl.runsOnly_drivesAt : ∀ paths : List String,
    (drivesAt paths).RunsOnly (·.program = Utility.smartctl.program)
  | [] => trivial
  | path :: paths => by
    have first : (driveAt path).RunsOnly (·.program = Utility.smartctl.program) :=
      Probe.runsOnly_read rfl fun _ => trivial
    refine Probe.runsOnly_bind (fun drive => ?_) (driveAt path) first
    refine Probe.runsOnly_bind (fun drives => ?_) (drivesAt paths) (runsOnly_drivesAt paths)
    trivial

theorem Smartctl.runsOnly_drives : drives.RunsOnly (·.program = Utility.smartctl.program) :=
  Probe.runsOnly_read rfl fun text => Probe.runsOnly_bind runsOnly_drivesAt (.ofExcept (scan text))
    trivial

theorem NvmeCli.runsOnly_listedDrives :
    listedDrives.RunsOnly (·.program = Utility.nvme.program) :=
  Probe.runsOnly_read rfl fun _ => trivial

theorem Mlxup.runsOnly_queriedNics : queriedNics.RunsOnly (·.program = Utility.mlxup.program) :=
  Probe.runsOnly_read rfl fun _ => trivial

theorem Ipmitool.runsOnly_controller :
    controller.RunsOnly (·.program = Utility.ipmitool.program) :=
  Probe.runsOnly_read rfl fun _ => trivial

theorem Dmidecode.runsOnly_systemFirmware :
    systemFirmware.RunsOnly (·.program = Utility.dmidecode.program) :=
  Probe.runsOnly_read rfl fun _ => trivial

namespace Registry

/-- None of the collectors of a registry runs a program. -/
structure Avoids (registry : Registry) (program : String) : Prop where
  inventory : ∀ collector ∈ registry.inventory, collector.probe.RunsOnly (·.program ≠ program)
  drives : ∀ collector ∈ registry.drives, collector.probe.RunsOnly (·.program ≠ program)
  nics : ∀ collector ∈ registry.nics, collector.probe.RunsOnly (·.program ≠ program)
  bmc : ∀ collector ∈ registry.bmc, collector.probe.RunsOnly (·.program ≠ program)
  bios : ∀ collector ∈ registry.bios, collector.probe.RunsOnly (·.program ≠ program)
  cpld : ∀ collector ∈ registry.cpld, collector.probe.RunsOnly (·.program ≠ program)
  storageControllers : ∀ collector ∈ registry.storageControllers,
    collector.probe.RunsOnly (·.program ≠ program)
  driveCapabilities : ∀ collector ∈ registry.driveCapabilities, ∀ logicalName,
    (collector.probe logicalName).RunsOnly (·.program ≠ program)

variable {registry : Registry} {config : Config} {utility : Utility}

/-- A utility that is disabled is not the default of a class. -/
theorem runsOnly_of_mem_unlessDisabled {α : Type} {usual : Utility} {probe : Probe α}
    {collector : Collector α} (disabled : config.isDisabled utility.name = true)
    (own : probe.RunsOnly (·.program = usual.program))
    (member : collector ∈ unlessDisabled config usual probe) :
    collector.probe.RunsOnly (·.program ≠ utility.program) := by
  have different : usual ≠ utility := by
    rintro rfl
    rw [unlessDisabled, if_pos disabled] at member
    cases member
  rw [probe_of_mem_unlessDisabled member]
  exact Utility.runsOnly_of_ne own different

/-- The defaults of the classes do not bring in a utility that is disabled. -/
theorem Avoids.withDefaults (avoids : registry.Avoids utility.program)
    (disabled : config.isDisabled utility.name = true) (dispensable : utility ≠ .lshw) :
    (registry.withDefaults config).Avoids utility.program where
  inventory := mem_or_of avoids.inventory fun _ member => by
    cases member
    exact Utility.runsOnly_of_ne Lshw.runsOnly_inventory dispensable.symm
  drives collector member := by
    change collector ∈ (if registry.drives.isEmpty then _ else _) at member
    split at member
    · obtain ⟨choice, inside, chosen⟩ := List.mem_filterMap.1 member
      obtain rfl : choice = some collector := chosen
      rcases List.mem_cons.1 inside with first | others
      · exact runsOnly_of_mem_unlessDisabled disabled Smartctl.runsOnly_drives first.symm
      · exact runsOnly_of_mem_unlessDisabled disabled NvmeCli.runsOnly_listedDrives
          (List.mem_singleton.1 others).symm
    · exact avoids.drives collector member
  nics := mem_or_of avoids.nics fun _ =>
    runsOnly_of_mem_unlessDisabled disabled Mlxup.runsOnly_queriedNics
  bmc := mem_or_of avoids.bmc fun _ =>
    runsOnly_of_mem_unlessDisabled disabled Ipmitool.runsOnly_controller
  bios := mem_or_of avoids.bios fun _ =>
    runsOnly_of_mem_unlessDisabled disabled Dmidecode.runsOnly_systemFirmware
  cpld := avoids.cpld
  storageControllers := avoids.storageControllers
  driveCapabilities := avoids.driveCapabilities

end Registry

/-! ## Questions -/

/-- The commands of a program among others. -/
def Command.ofProgram (program : String) (commands : List Command) : List Command :=
  commands.filter (·.program = program)

theorem Command.ofProgram_eq_nil {program : String} {commands : List Command} :
    ofProgram program commands = [] ↔ ∀ command ∈ commands, command.program ≠ program := by
  unfold ofProgram
  simp only [List.filter_eq_nil_iff, decide_eq_true_eq]

theorem Command.ofProgram_append {program : String} (early late : List Command) :
    ofProgram program (early ++ late) = ofProgram program early ++ ofProgram program late :=
  List.filter_append early late

/-- What the usual utility for a bus is asked about the drive at a path. -/
def Transport.question : Transport → String → Command
  | .nvme, logicalName => Utility.nvme.call ["id-ctrl", "-o", "json", logicalName]
  | .ata, logicalName => Utility.hdparm.call ["-I", logicalName]

theorem NvmeCli.capabilitiesOf_eq (logicalName : String) :
    capabilitiesOf logicalName =
      Probe.read (Transport.nvme.question logicalName) >>=
        fun text => .ofExcept (capabilities text) :=
  rfl

theorem Hdparm.capabilitiesOf_eq (logicalName : String) :
    capabilitiesOf logicalName =
      Probe.read (Transport.ata.question logicalName) >>=
        fun text => .ofExcept (capabilities text) :=
  rfl

namespace Registry

/-- Whether somebody is named for the features of the drives on the bus of this one. -/
def namesFor (registry : Registry) (drive : Drive) : Bool :=
  registry.driveCapabilities.any (·.transport == Transport.ofLogicalName drive.logicalName)

/-- What the usual utilities are asked about the features of some drives. -/
def questionsOn (registry : Registry) (drives : List Drive) : List Command :=
  (drives.filter fun drive => !drive.logicalName.isEmpty && !registry.namesFor drive).map
    fun drive => (Transport.ofLogicalName drive.logicalName).question drive.logicalName

/-- What they are asked in a pass: nothing unless features are collected. -/
def usualQuestions (registry : Registry) (config : Config) (drives : List Drive) :
    List Command :=
  if config.collectDriveCapabilities then registry.questionsOn drives else []

end Registry

/-! ## Steady calls -/

/-- A call that runs the same commands of a program whatever happened before, unless it reports
an error. -/
def Call.Steady (executor : Executor) (program : String) (call : Call) : Prop :=
  ∀ host, ∃ ran, (call.probe.perform executor host).2.commands = host.commands ++ ran ∧
    Command.ofProgram program ran <+: Command.ofProgram program (call.commands executor) ∧
    ((∀ error, (call.probe.perform executor host).1 ≠ .failure error) →
      Command.ofProgram program ran = Command.ofProgram program (call.commands executor))

section

variable {executor : Executor} {program : String} {call : Call}

theorem Call.ofProgram_commands (avoids : call.probe.RunsOnly (·.program ≠ program)) :
    Command.ofProgram program (call.commands executor) = [] := by
  obtain ⟨ran, recorded, others⟩ := Probe.commands_of_runsOnly executor call.probe avoids {}
  have commands : call.commands executor = ran := recorded
  rw [commands]
  exact Command.ofProgram_eq_nil.2 others

theorem Call.steady_of_avoids (avoids : call.probe.RunsOnly (·.program ≠ program)) :
    call.Steady executor program := by
  intro host
  obtain ⟨ran, recorded, others⟩ := Probe.commands_of_runsOnly executor call.probe avoids host
  rw [ofProgram_commands avoids]
  have none := Command.ofProgram_eq_nil.2 others
  exact ⟨ran, recorded, none ▸ List.nil_prefix, fun _ => none⟩

theorem Call.runsOnly_of {α : Type} {allowed : Command → Prop} {collector : Collector α}
    (kind : ComponentKind) (only : collector.probe.RunsOnly allowed) :
    (of kind collector).probe.RunsOnly allowed := by
  refine Probe.runsOnly_bind (fun value => ?_) collector.probe only
  trivial

/-- A collector that asks one question asks it unless the pass is cancelled, and then it reports
that as an error. -/
theorem Call.steady_of_question {α : Type} {probe : Probe α} {command : Command}
    {understand : String → Except Error α} (name : String) (kind : ComponentKind)
    (asks : probe = Probe.read command >>= fun text => .ofExcept (understand text)) :
    (of kind ⟨name, probe⟩).Steady executor program ∧
      (of kind ⟨name, probe⟩).commands executor = [command] := by
  have fresh : ∀ commands : List Command, (probe.perform executor ⟨false, commands⟩).2 =
      ⟨false, commands ++ [command]⟩ := by
    intro commands
    rw [asks]
    show (Probe.perform executor (((Probe.finish (executor command)).bind fun output =>
      pure output.text).bind fun text => .ofExcept (understand text)) _).2 = _
    cases executor command with
    | error error => rfl
    | ok output =>
      show ((Probe.finish (understand output.text)).perform executor _).2 = _
      cases understand output.text <;> rfl
  have whole : (of kind ⟨name, probe⟩).commands executor = [command] := by
    rw [commands_of]
    exact congrArg Run.commands (fresh [])
  refine ⟨fun host => ?_, whole⟩
  rw [whole, perform_of]
  obtain ⟨cancelled, commands⟩ := host
  cases cancelled with
  | false =>
    dsimp only
    rw [fresh]
    exact ⟨[command], rfl, List.prefix_rfl, fun _ => rfl⟩
  | true =>
    have refused : probe.perform executor ⟨true, commands⟩ =
        (.failure .cancelled, ⟨true, commands⟩) := by
      rw [asks]
      rfl
    dsimp only
    rw [refused]
    exact ⟨[], (List.append_nil _).symm, List.nil_prefix,
      fun unfailed => absurd rfl (unfailed .cancelled)⟩

/-- Steady calls that are made one after the other run the same commands of a program, until one
of them reports an error. -/
theorem ran_of_steady : ∀ {made : List Call} (host : Run),
    (∀ call ∈ made, call.Steady executor program) → Unfailed executor made.dropLast host →
    ∃ ran, (hostAfter executor made host).commands = host.commands ++ ran ∧
      Command.ofProgram program ran <+: Command.ofProgram program (commandsOf executor made) ∧
      (Unfailed executor made host →
        Command.ofProgram program ran = Command.ofProgram program (commandsOf executor made))
  | [], host, _, _ => ⟨[], (List.append_nil _).symm, List.nil_prefix, fun _ => rfl⟩
  | [call], host, steady, _ => by
    obtain ⟨ran, recorded, some, all⟩ := steady call (List.mem_singleton_self call) host
    have commands : commandsOf executor [call] = call.commands executor := List.append_nil _
    rw [commands]
    exact ⟨ran, recorded, some, fun unfailed => all (unfailed _ (List.mem_singleton_self _))⟩
  | call :: next :: later, host, steady, unfailed => by
    obtain ⟨here, others⟩ := List.forall_mem_cons.1 steady
    have head : Unfailed executor [call] host :=
      unfailed.of_prefix (List.prefix_append [call] (next :: later).dropLast)
    have whole : Unfailed executor ([call] ++ (next :: later).dropLast) host := unfailed
    have rest : Unfailed executor (next :: later).dropLast
        (call.probe.perform executor host).2 := (unfailed_append.1 whole).2
    obtain ⟨ran, recorded, _, all⟩ := here host
    obtain ⟨further, furtherRecorded, some, furtherAll⟩ := ran_of_steady _ others rest
    have own := all (head _ (List.mem_singleton_self _))
    refine ⟨ran ++ further, ?_, ?_, fun unfailed => ?_⟩
    · show (hostAfter executor (next :: later) (call.probe.perform executor host).2).commands = _
      rw [furtherRecorded, recorded, List.append_assoc]
    · rw [commandsOf_cons, Command.ofProgram_append, Command.ofProgram_append, own]
      exact (List.prefix_append_right_inj _).2 some
    · have all : Unfailed executor ([call] ++ next :: later) host := unfailed
      have tail : Unfailed executor (next :: later) (call.probe.perform executor host).2 :=
        (unfailed_append.1 all).2
      rw [commandsOf_cons, Command.ofProgram_append, Command.ofProgram_append, own,
        furtherAll tail]

end

/-! ## The calls of a registry -/

namespace Registry

variable {registry : Registry} {program : String}

theorem runsOnly_classCalls (avoids : registry.Avoids program) :
    ∀ kind : ComponentKind, ∀ call ∈ registry.classCalls kind,
      call.probe.RunsOnly (·.program ≠ program) :=
  forall_classCalls
    (fun collector inside => Call.runsOnly_of .drive (avoids.drives collector inside))
    (fun collector inside => Call.runsOnly_of .nic (avoids.nics collector inside))
    (fun collector inside => Call.runsOnly_of .bmc (avoids.bmc collector inside))
    (fun collector inside => Call.runsOnly_of .bios (avoids.bios collector inside))
    (fun collector inside => Call.runsOnly_of .cpld (avoids.cpld collector inside))
    fun collector inside =>
      Call.runsOnly_of .storageController (avoids.storageControllers collector inside)

/-- Whoever is named for the bus of a drive is asked for its features. -/
theorem featureCollector_of_named {drive : Drive} (named : registry.namesFor drive = true) :
    ∃ collector ∈ registry.driveCapabilities,
      registry.featureCollector drive = ⟨collector.name, collector.probe drive.logicalName⟩ := by
  unfold featureCollector capabilityCollector
  dsimp only
  cases found : registry.driveCapabilities.find? fun collector =>
      collector.transport == Transport.ofLogicalName drive.logicalName with
  | some collector => exact ⟨collector, List.mem_of_find?_eq_some found, rfl⟩
  | none =>
    obtain ⟨collector, inside, same⟩ := List.any_eq_true.1 named
    exact absurd same (List.find?_eq_none.1 found collector inside)

/-- If nobody is, the usual utility is asked. -/
theorem featureCollector_of_nobody {drive : Drive} (nobody : registry.namesFor drive = false) :
    registry.featureCollector drive =
      match Transport.ofLogicalName drive.logicalName with
      | .nvme => ⟨Utility.nvme.name, NvmeCli.capabilitiesOf drive.logicalName⟩
      | .ata => ⟨Utility.hdparm.name, Hdparm.capabilitiesOf drive.logicalName⟩ := by
  have missing : (registry.driveCapabilities.find? fun collector =>
      collector.transport == Transport.ofLogicalName drive.logicalName) = none :=
    List.find?_eq_none.2 (List.any_eq_false.1 nobody)
  unfold featureCollector capabilityCollector
  dsimp only
  rw [missing]
  cases Transport.ofLogicalName drive.logicalName <;> rfl

variable (executor : Executor)

theorem featureCall_asks (avoids : registry.Avoids program) (drive : Drive) :
    (Call.of .drive (registry.featureCollector drive)).Steady executor program ∧
      Command.ofProgram program
          ((Call.of .drive (registry.featureCollector drive)).commands executor) =
        Command.ofProgram program (if registry.namesFor drive then []
          else [(Transport.ofLogicalName drive.logicalName).question drive.logicalName]) := by
  cases named : registry.namesFor drive with
  | true =>
    obtain ⟨collector, inside, asked⟩ := featureCollector_of_named named
    have only : (registry.featureCollector drive).probe.RunsOnly (·.program ≠ program) := by
      rw [asked]
      exact avoids.driveCapabilities collector inside drive.logicalName
    have avoided := Call.runsOnly_of .drive only
    exact ⟨Call.steady_of_avoids avoided, Call.ofProgram_commands avoided⟩
  | false =>
    rw [featureCollector_of_nobody named]
    cases Transport.ofLogicalName drive.logicalName with
    | nvme =>
      obtain ⟨steady, commands⟩ := Call.steady_of_question Utility.nvme.name .drive
        (NvmeCli.capabilitiesOf_eq drive.logicalName)
      exact ⟨steady, congrArg _ commands⟩
    | ata =>
      obtain ⟨steady, commands⟩ := Call.steady_of_question Utility.hdparm.name .drive
        (Hdparm.capabilitiesOf_eq drive.logicalName)
      exact ⟨steady, congrArg _ commands⟩

theorem questionsOn_cons (drive : Drive) (drives : List Drive) :
    registry.questionsOn (drive :: drives) =
      (if drive.logicalName.isEmpty || registry.namesFor drive then []
        else [(Transport.ofLogicalName drive.logicalName).question drive.logicalName]) ++
      registry.questionsOn drives := by
  unfold questionsOn
  rw [List.filter_cons]
  cases drive.logicalName.isEmpty <;> cases registry.namesFor drive <;> rfl

theorem featureCalls_ask (avoids : registry.Avoids program) : ∀ drives : List Drive,
    (∀ call ∈ registry.featureCalls drives, call.Steady executor program) ∧
      Command.ofProgram program (commandsOf executor (registry.featureCalls drives)) =
        Command.ofProgram program (registry.questionsOn drives)
  | [] => ⟨nofun, rfl⟩
  | drive :: drives => by
    obtain ⟨others, asked⟩ := featureCalls_ask avoids drives
    obtain ⟨own, question⟩ := featureCall_asks executor avoids drive
    rw [Pass.featureCalls_cons, questionsOn_cons, commandsOf_append, Command.ofProgram_append,
      Command.ofProgram_append, asked]
    by_cases nameless : drive.logicalName.isEmpty = true
    · rw [Pass.featureCalls_of_nameless registry nameless, nameless]
      exact ⟨others, rfl⟩
    · rw [Pass.featureCalls_of_named registry nameless, Bool.eq_false_iff.2 nameless,
        Bool.false_or, ← question]
      refine ⟨List.forall_mem_cons.2 ⟨own, others⟩, ?_⟩
      rw [commandsOf_cons]
      exact congrArg (Command.ofProgram program · ++ _) (List.append_nil _)

/-- Calls that run nothing of a program. -/
theorem ask_nothing {calls : List Call}
    (avoided : ∀ call ∈ calls, call.probe.RunsOnly (·.program ≠ program)) :
    (∀ call ∈ calls, call.Steady executor program) ∧
      Command.ofProgram program (commandsOf executor calls) = [] := by
  refine ⟨fun call member => Call.steady_of_avoids (avoided call member), ?_⟩
  refine Command.ofProgram_eq_nil.2 fun command inside => ?_
  obtain ⟨call, member, ran⟩ := List.mem_flatMap.1 inside
  exact Command.ofProgram_eq_nil.1 (Call.ofProgram_commands (avoided call member)) command ran

theorem calls_drive_ask (avoids : registry.Avoids program) (config : Config)
    (drives : List Drive) :
    (∀ call ∈ registry.calls config drives .drive, call.Steady executor program) ∧
      Command.ofProgram program (commandsOf executor (registry.calls config drives .drive)) =
        Command.ofProgram program (registry.usualQuestions config drives) := by
  obtain ⟨steady, none⟩ := ask_nothing executor (runsOnly_classCalls avoids .drive)
  unfold calls usualQuestions
  by_cases asked : config.collectDriveCapabilities = true
  · obtain ⟨others, questions⟩ := featureCalls_ask executor avoids drives
    rw [if_pos ⟨rfl, asked⟩, if_pos asked, commandsOf_append, Command.ofProgram_append, none,
      questions]
    exact ⟨List.forall_mem_append.2 ⟨steady, others⟩, rfl⟩
  · rw [if_neg fun both => asked both.2, if_neg asked]
    exact ⟨steady, none⟩

/-- Apart from the questions about the features of drives nothing of a program is run that is
avoided. -/
theorem calls_ask (avoids : registry.Avoids program) (config : Config) (drives : List Drive) :
    (∀ call ∈ ComponentKind.all.flatMap (registry.calls config drives),
        call.Steady executor program) ∧
      Command.ofProgram program
          (commandsOf executor (ComponentKind.all.flatMap (registry.calls config drives))) =
        Command.ofProgram program (registry.usualQuestions config drives) := by
  obtain ⟨steady, questions⟩ := calls_drive_ask executor avoids config drives
  have avoided : ∀ call ∈ ComponentKind.all.tail.flatMap (registry.calls config drives),
      call.probe.RunsOnly (·.program ≠ program) := by
    intro call member
    obtain ⟨kind, later, inside⟩ := List.mem_flatMap.1 member
    have other : kind ≠ .drive := by
      rintro rfl
      exact absurd later (by decide)
    rw [Pass.calls_of_ne_drive registry config drives other] at inside
    exact runsOnly_classCalls avoids kind call inside
  obtain ⟨othersSteady, none⟩ := ask_nothing executor avoided
  have order : ComponentKind.all = .drive :: ComponentKind.all.tail := rfl
  rw [order, List.flatMap_cons, commandsOf_append, Command.ofProgram_append, questions, none,
    List.append_nil]
  exact ⟨List.forall_mem_append.2 ⟨steady, othersSteady⟩, rfl⟩

end Registry

namespace Config

theorem ne_lshw_of_disabled {config : Config} {utility : Utility}
    (valid : config.validate = .ok ()) (disabled : config.isDisabled utility.name = true) :
    utility ≠ .lshw := by
  rintro rfl
  unfold validate at valid
  rw [if_pos disabled] at valid
  split at valid
  · cases valid
  · split at valid <;> cases valid

end Config

theorem Registry.usualQuestions_withDefaults (registry : Registry) (config : Config)
    (drives : List Drive) :
    (registry.withDefaults config).usualQuestions config drives =
      registry.usualQuestions config drives :=
  rfl

/-- Nothing but the usual utilities for features is asked about them. -/
theorem Registry.ofProgram_usualQuestions {registry : Registry} {config : Config}
    {utility : Utility} (drives : List Drive)
    (other : config.collectDriveCapabilities = false ∨ utility ≠ .nvme ∧ utility ≠ .hdparm) :
    Command.ofProgram utility.program (registry.usualQuestions config drives) = [] := by
  refine Command.ofProgram_eq_nil.2 fun command inside => ?_
  unfold usualQuestions at inside
  split at inside
  · rename_i asked
    obtain ⟨drive, _, rfl⟩ := List.mem_map.1 inside
    rcases other with unasked | ⟨notNvme, notHdparm⟩
    · rw [unasked] at asked
      cases asked
    · intro same
      cases transport : Transport.ofLogicalName drive.logicalName with
      | nvme =>
        rw [transport] at same
        have own : Utility.nvme.program = utility.program := same
        exact notNvme (Utility.program_inj own).symm
      | ata =>
        rw [transport] at same
        have own : Utility.hdparm.program = utility.program := same
        exact notHdparm (Utility.program_inj own).symm
  · cases inside

/-! ## The whole pass -/

namespace Pass

variable {config : Config} {executor : Executor} {registry : Registry}

/-- Of a program that all collectors avoid a pass runs nothing but the questions about the
features of drives. -/
theorem collect_asks {program : String} {device : Device} {host : Run}
    (avoids : (registry.withDefaults config).Avoids program) :
    ∃ last ran, (collect config executor registry (some device) host).device = some last ∧
      (collect config executor registry (some device) host).host.commands =
        host.commands ++ ran ∧
      Command.ofProgram program ran <+:
        Command.ofProgram program (registry.usualQuestions config last.drives) ∧
      ∀ summary, (collect config executor registry (some device) host).answer = .data summary →
        Command.ofProgram program ran =
          Command.ofProgram program (registry.usualQuestions config last.drives) := by
  obtain ⟨baseline, there⟩ := exists_inventory registry config
  obtain ⟨first, recorded, others⟩ := Probe.commands_of_runsOnly executor baseline.probe
    (avoids.inventory baseline there) host
  have none := Command.ofProgram_eq_nil.2 others
  rw [collect_eq there]
  cases performed : baseline.probe.perform executor host with
  | mk answer after =>
    rw [performed] at recorded
    cases answer with
    | failure error => exact ⟨device, first, rfl, recorded, none ▸ List.nil_prefix, nofun⟩
    | fault reason => exact ⟨device, first, rfl, recorded, none ▸ List.nil_prefix, nofun⟩
    | data found =>
      have distinct : ComponentKind.all.Nodup := by decide
      obtain ⟨made, order, leaves, ongoing, all⟩ := makes_collectKinds executor
        (registry.withDefaults config) config { device := device.absorbed found, host := after }
        distinct
      dsimp only
      generalize collectKinds config executor (registry.withDefaults config) ComponentKind.all
        { device := device.absorbed found, host := after } = collected at order leaves all
      obtain ⟨last, left, sameDrives⟩ := drives_concluded collected
      rw [← sameDrives] at order all
      obtain ⟨steady, questions⟩ := Registry.calls_ask executor avoids config last.drives
      rw [Registry.usualQuestions_withDefaults] at questions
      obtain ⟨ran, furtherRecorded, some, whole⟩ := ran_of_steady after
        (fun call member => steady call (order.subset member)) ongoing
      refine ⟨last, first ++ ran, left, ?_, ?_, fun summary done => ?_⟩
      · rw [host_concluded, leaves, furtherRecorded, recorded, List.append_assoc]
      · obtain ⟨rest, split⟩ := order
        rw [← split, commandsOf_append, Command.ofProgram_append] at questions
        rw [Command.ofProgram_append, none, List.nil_append, ← questions]
        exact some.trans (List.prefix_append _ _)
      · rw [Command.ofProgram_append, none, List.nil_append]
        obtain ⟨rfl, unfailed⟩ := all () (data_of_concluded done)
        exact (whole unfailed).trans questions

/-- What a pass runs of the program of a disabled utility, unless a collector of the caller
does. It asks it about the features of drives, if features are collected, but nothing else:
about those with a path on whose bus nobody else is named. -/
theorem collect_disabled {utility : Utility} {device : Device} {host : Run}
    (valid : config.validate = .ok ()) (disabled : config.isDisabled utility.name = true)
    (avoids : registry.Avoids utility.program) :
    ∃ last ran, (collect config executor registry (some device) host).device = some last ∧
      (collect config executor registry (some device) host).host.commands =
        host.commands ++ ran ∧
      Command.ofProgram utility.program ran <+:
        Command.ofProgram utility.program (registry.usualQuestions config last.drives) ∧
      (∀ summary, (collect config executor registry (some device) host).answer = .data summary →
        Command.ofProgram utility.program ran =
          Command.ofProgram utility.program (registry.usualQuestions config last.drives)) ∧
      (config.collectDriveCapabilities = false ∨ utility ≠ .nvme ∧ utility ≠ .hdparm →
        ∀ command ∈ ran, command.program ≠ utility.program) := by
  have dispensable := Config.ne_lshw_of_disabled valid disabled
  obtain ⟨last, ran, left, recorded, some, all⟩ :=
    collect_asks (avoids.withDefaults disabled dispensable)
  refine ⟨last, ran, left, recorded, some, all, fun other => ?_⟩
  rw [Registry.ofProgram_usualQuestions last.drives other] at some
  exact Command.ofProgram_eq_nil.1 (List.prefix_nil.1 some)

/-- A configuration in which no utility is a default but lshw, and features are collected. -/
def lshwOnly : Config :=
  { disabledUtilities := ["smartctl", "nvme", "hdparm", "mlxup", "ipmitool", "dmidecode"]
    collectDriveCapabilities := true }

/-- A registry that names nobody but somebody who finds one drive. -/
def oneDrive : Registry :=
  { inventory := some ⟨"lshw", .finish (.ok {
      drives := [{ serial := "S1", logicalName := "/dev/sda" }] })⟩ }

/-- A host on which hdparm tells of no features. -/
def featureless : Replies :=
  ({} : Replies).onProgram "hdparm" { stdout := Bytes.ofText "Commands/features:\n" }

theorem valid_lshwOnly : lshwOnly.validate = .ok () := by
  rfl

theorem avoids_oneDrive (program : String) : oneDrive.Avoids program where
  inventory _ member := by
    cases member
    trivial
  drives := nofun
  nics := nofun
  bmc := nofun
  bios := nofun
  cpld := nofun
  storageControllers := nofun
  driveCapabilities := nofun

theorem collect_disabled_oneDrive :
    ∃ last ran,
      (collect lshwOnly featureless.executor oneDrive (some {}) {}).device = some last ∧
      (collect lshwOnly featureless.executor oneDrive (some {}) {}).host.commands = ran ∧
      Command.ofProgram "hdparm" ran =
        Command.ofProgram "hdparm" (oneDrive.usualQuestions lshwOnly last.drives) := by
  have disabled : lshwOnly.isDisabled Utility.hdparm.name = true := by decide
  obtain ⟨last, ran, left, recorded, _, all, _⟩ :=
    collect_disabled valid_lshwOnly disabled (avoids_oneDrive _)
  have done : (collect lshwOnly featureless.executor oneDrive (some {}) {}).answer = .data
      { classes := [(.drive, .skipped), (.nic, .skipped), (.bios, .skipped), (.cpld, .skipped),
          (.bmc, .skipped), (.storageController, .skipped)] } :=
    Answer.eq_data_of_data? (by decide +kernel)
  exact ⟨last, ran, left, recorded, all _ done⟩

/-- A utility is not kept from being a default by being disabled: hdparm is, and is asked for
the features of a drive. -/
theorem hdparm_asked :
    lshwOnly.validate = .ok () ∧ lshwOnly.isDisabled Utility.hdparm.name = true ∧
      oneDrive.Avoids Utility.hdparm.program ∧
      (collect lshwOnly featureless.executor oneDrive (some {}) {}).host.commands =
        [Utility.hdparm.call ["-I", "/dev/sda"]] :=
  ⟨valid_lshwOnly, by decide, avoids_oneDrive _, by decide +kernel⟩

end Pass

end ServerInventory
