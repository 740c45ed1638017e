import ServerInventory.Proofs.Pass.Hosts
import ServerInventory.Registry

/-!
How probes take the failure of a command. A prompt probe ends at once with an error when a
command fails (`Probe.Prompt`). The usual utilities are prompt, and they neither break down
nor cancel anything (`Probe.Straight`).
-/

namespace ServerInventory

namespace Probe

variable {α β : Type}

/-- A probe that a failing command ends at once. -/
def Prompt : Probe α → Prop
  | finish _ => True
  | fault _ => True
  | cancel rest => rest.Prompt
  | run _ next =>
    (∀ error, next (.error error) = finish (.error error)) ∧ ∀ output, (next (.ok output)).Prompt

/-- A prompt probe that neither breaks down nor cancels the pass. -/
def Straight : Probe α → Prop
  | finish _ => True
  | fault _ => False
  | cancel _ => False
  | run _ next =>
    (∀ error, next (.error error) = finish (.error error)) ∧
      ∀ output, (next (.ok output)).Straight

theorem Straight.prompt : ∀ {probe : Probe α}, probe.Straight → probe.Prompt
  | finish _, _ => trivial
  | run _ _, ⟨fails, goesOn⟩ => ⟨fails, fun output => (goesOn output).prompt⟩

theorem prompt_bind {next : α → Probe β} (further : ∀ value, (next value).Prompt) :
    ∀ probe : Probe α, probe.Prompt → (probe >>= next).Prompt
  | finish (.ok value), _ => further value
  | finish (.error _), _ => trivial
  | fault _, _ => trivial
  | cancel rest, prompt => prompt_bind further rest prompt
  | run _ rest, ⟨fails, goesOn⟩ => by
    refine ⟨fun error => ?_, fun output => prompt_bind further _ (goesOn output)⟩
    change (rest (.error error)).bind next = _
    rw [fails error]
    rfl

theorem Straight.bind {next : α → Probe β} (further : ∀ value, (next value).Straight) :
    ∀ {probe : Probe α}, probe.Straight → (probe >>= next).Straight
  | finish (.ok value), _ => further value
  | finish (.error _), _ => trivial
  | run _ rest, ⟨fails, goesOn⟩ => by
    refine ⟨fun error => ?_, fun output => Straight.bind further (goesOn output)⟩
    change (rest (.error error)).bind next = _
    rw [fails error]
    rfl

theorem straight_pure (value : α) : (pure value : Probe α).Straight := trivial

theorem straight_ofExcept (result : Except Error α) : (ofExcept result).Straight := trivial

theorem straight_read (command : Command) : (read command).Straight :=
  ⟨fun _ => rfl, fun _ => trivial⟩

/-- Of the commands that a prompt probe runs none but the last fails, and that one only if
the probe ends with an error. -/
theorem succeeds_of_prompt (executor : Executor) : ∀ probe : Probe α, probe.Prompt →
    ∀ host : Run, ∃ ran, (probe.perform executor host).2.commands = host.commands ++ ran ∧
      (∀ command ∈ ran.dropLast, ∃ output, executor command = .ok output) ∧
      ((∀ error, (probe.perform executor host).1 ≠ .failure error) →
        ∀ command ∈ ran, ∃ output, executor command = .ok output)
  | finish (.ok _), _, host => ⟨[], (List.append_nil _).symm, nofun, nofun⟩
  | finish (.error _), _, host => ⟨[], (List.append_nil _).symm, nofun, nofun⟩
  | fault _, _, host => ⟨[], (List.append_nil _).symm, nofun, nofun⟩
  | cancel rest, prompt, host => succeeds_of_prompt executor rest prompt
      { host with cancelled := true }
  | run command next, ⟨fails, goesOn⟩, ⟨true, commands⟩ => by
    refine ⟨[], ?_, nofun, nofun⟩
    change ((next (.error .cancelled)).perform executor ⟨true, commands⟩).2.commands = _
    rw [fails .cancelled]
    exact (List.append_nil commands).symm
  | run command next, ⟨fails, goesOn⟩, ⟨false, commands⟩ => by
    cases outcome : executor command with
    | error error =>
      have ends : (run command next).perform executor ⟨false, commands⟩ =
          (.failure error, ⟨false, commands ++ [command]⟩) := by
        change (next (executor command)).perform executor _ = _
        rw [outcome, fails error]
        rfl
      rw [ends]
      exact ⟨[command], rfl, nofun, fun unfailed => absurd rfl (unfailed error)⟩
    | ok output =>
      have further : (run command next).perform executor ⟨false, commands⟩ =
          (next (.ok output)).perform executor ⟨false, commands ++ [command]⟩ := by
        change (next (executor command)).perform executor _ = _
        rw [outcome]
        rfl
      obtain ⟨ran, recorded, early, all⟩ :=
        succeeds_of_prompt executor _ (goesOn output) ⟨false, commands ++ [command]⟩
      have first : ∃ output, executor command = .ok output := ⟨output, outcome⟩
      rw [further]
      refine ⟨command :: ran, ?_, ?_, ?_⟩
      · rw [recorded, List.append_assoc]
        rfl
      · intro other member
        cases ran with
        | nil => cases member
        | cons second rest =>
          rcases List.mem_cons.1 member with rfl | later
          · exact first
          · exact early other later
      · intro unfailed other member
        rcases List.mem_cons.1 member with rfl | later
        · exact first
        · exact all unfailed other later

end Probe

/-! ## The usual utilities -/

theorem Lshw.straight_inventory : inventory.Straight :=
  (Probe.straight_read _).bind fun _ => Probe.straight_ofExcept _

theorem Smartctl.straight_driveAt (path : String) : (driveAt path).Straight :=
  (Probe.straight_read _).bind fun _ => Probe.straight_ofExcept _

theorem Smartctl.straight_drivesAt : ∀ paths : List String, (drivesAt paths).Straight
  | [] => Probe.straight_pure []
  | path :: paths => (straight_driveAt path).bind fun drive =>
      (straight_drivesAt paths).bind fun drives => Probe.straight_pure (drive :: drives)

theorem Smartctl.straight_drives : drives.Straight :=
  (Probe.straight_read _).bind fun _ => (Probe.straight_ofExcept _).bind straight_drivesAt

theorem NvmeCli.straight_listedDrives : listedDrives.Straight :=
  (Probe.straight_read _).bind fun _ => Probe.straight_ofExcept _

theorem NvmeCli.straight_capabilitiesOf (logicalName : String) :
    (capabilitiesOf logicalName).Straight :=
  (Probe.straight_read _).bind fun _ => Probe.straight_ofExcept _

theorem Hdparm.straight_capabilitiesOf (logicalName : String) :
    (capabilitiesOf logicalName).Straight :=
  (Probe.straight_read _).bind fun _ => Probe.straight_ofExcept _

theorem Mlxup.straight_queriedNics : queriedNics.Straight :=
  (Probe.straight_read _).bind fun _ => Probe.straight_pure _

theorem Ipmitool.straight_controller : controller.Straight :=
  (Probe.straight_read _).bind fun _ => Probe.straight_pure _

theorem Dmidecode.straight_systemFirmware : systemFirmware.Straight :=
  (Probe.straight_read _).bind fun _ => Probe.straight_pure _

namespace Registry

/-- All collectors of a registry are prompt. -/
structure Prompt (registry : Registry) : Prop where
  inventory : ∀ collector ∈ registry.inventory, collector.probe.Prompt
  drives : ∀ collector ∈ registry.drives, collector.probe.Prompt
  nics : ∀ collector ∈ registry.nics, collector.probe.Prompt
  bmc : ∀ collector ∈ registry.bmc, collector.probe.Prompt
  bios : ∀ collector ∈ registry.bios, collector.probe.Prompt
  cpld : ∀ collector ∈ registry.cpld, collector.probe.Prompt
  storageControllers : ∀ collector ∈ registry.storageControllers, collector.probe.Prompt
  driveCapabilities : ∀ collector ∈ registry.driveCapabilities, ∀ logicalName,
    (collector.probe logicalName).Prompt

/-- The default of one class, if there is one, is a utility that is not disabled. -/
theorem probe_of_mem_unlessDisabled {α : Type} {config : Config} {utility : Utility}
    {probe : Probe α} {collector : Collector α}
    (member : collector ∈ unlessDisabled config utility probe) : collector.probe = probe := by
  unfold unlessDisabled at member
  split at member
  · cases member
  · cases member
    rfl

theorem straight_of_mem_defaultDrives {config : Config} {collector : Collector (List Drive)}
    (member : collector ∈ defaultDrives config) : collector.probe.Straight := by
  obtain ⟨choice, inside, chosen⟩ := List.mem_filterMap.1 member
  obtain rfl : choice = some collector := chosen
  rcases List.mem_cons.1 inside with first | others
  · rw [probe_of_mem_unlessDisabled first.symm]
    exact Smartctl.straight_drives
  · rw [probe_of_mem_unlessDisabled (List.mem_singleton.1 others).symm]
    exact NvmeCli.straight_listedDrives

/-- Where nobody is named a default steps in. -/
theorem mem_or_of {α : Type} {property : α → Prop} {named default : Option α}
    (given : ∀ value ∈ named, property value) (usual : ∀ value ∈ default, property value) :
    ∀ value ∈ named.or default, property value := by
  cases named with
  | none => exact usual
  | some value => exact given

/-- The usual utilities are prompt, so it is enough that those are who are named. -/
theorem Prompt.withDefaults {registry : Registry} (prompt : registry.Prompt)
    (config : Config) : (registry.withDefaults config).Prompt where
  inventory := mem_or_of prompt.inventory fun _ member => by
    cases member
    exact Lshw.straight_inventory.prompt
  drives collector member := by
    change collector ∈ (if registry.drives.isEmpty then _ else _) at member
    split at member
    · exact (straight_of_mem_defaultDrives member).prompt
    · exact prompt.drives collector member
  nics := mem_or_of prompt.nics fun _ member => by
    rw [probe_of_mem_unlessDisabled member]
    exact Mlxup.straight_queriedNics.prompt
  bmc := mem_or_of prompt.bmc fun _ member => by
    rw [probe_of_mem_unlessDisabled member]
    exact Ipmitool.straight_controller.prompt
  bios := mem_or_of prompt.bios fun _ member => by
    rw [probe_of_mem_unlessDisabled member]
    exact Dmidecode.straight_systemFirmware.prompt
  cpld := prompt.cpld
  storageControllers := prompt.storageControllers
  driveCapabilities := prompt.driveCapabilities

end Registry

end ServerInventory
