import ServerInventory.Proofs.Pass.Hosts

/-!
The calls that a pass makes, and what comes of them while nobody cancels it. The calls for a
class of components follow the registry; those for the features of drives follow the drives
(`Registry.calls`). The first call that reports an error is the last one (`upToFailure`).
-/

namespace ServerInventory

/-! ## Answers -/

namespace Answer

variable {α β : Type}

def data? : Answer α → Option α
  | data value => some value
  | _ => none

def failure? : Answer α → Option Error
  | failure error => some error
  | _ => none

def fault? : Answer α → Option String
  | fault reason => some reason
  | _ => none

theorem eq_data_of_data? {answer : Answer α} {value : α} (found : answer.data? = some value) :
    answer = data value := by
  cases answer <;> cases found
  rfl

end Answer

namespace Probe

variable {α β γ : Type}

theorem bind_assoc (next : α → Probe β) (further : β → Probe γ) : ∀ probe : Probe α,
    probe >>= next >>= further = probe >>= fun value => next value >>= further
  | finish (.ok _) => rfl
  | finish (.error _) => rfl
  | fault _ => rfl
  | cancel rest => congrArg cancel (bind_assoc next further rest)
  | run command rest =>
    congrArg (run command) (funext fun output => bind_assoc next further (rest output))

end Probe

namespace Collector

variable {α : Type} (executor : Executor)

/-- What a collector answers as long as nobody cancels the pass. -/
def answer (collector : Collector α) : Answer α :=
  (collector.probe.perform executor {}).1

/-- The commands that it runs for that. -/
def commands (collector : Collector α) : List Command :=
  (collector.probe.perform executor {}).2.commands

end Collector

/-- What some collectors found, together. -/
def foundBy {α : Type} (executor : Executor) (collectors : List (Collector (List α))) :
    List α :=
  (collectors.filterMap fun collector => (collector.answer executor).data?).flatten

/-! ## Calls -/

/-- A collector that is called for a class of components. -/
structure Call where
  kind : ComponentKind
  name : String
  probe : Probe Unit

namespace Call

variable {α : Type} (executor : Executor)

/-- The call of a collector, whatever it finds. -/
def of (kind : ComponentKind) (collector : Collector α) : Call :=
  ⟨kind, collector.name, do let _ ← collector.probe; return ()⟩

def answer (call : Call) : Answer Unit :=
  (call.probe.perform executor {}).1

/-- The error that a call ends the pass with. -/
def failure? (call : Call) : Option Error :=
  (call.answer executor).failure?.map (.collector call.kind.name)

def commands (call : Call) : List Command :=
  (call.probe.perform executor {}).2.commands

theorem failure?_of (kind : ComponentKind) (collector : Collector α) :
    (of kind collector).failure? executor =
      (collector.answer executor).failure?.map (.collector kind.name) := by
  rw [failure?, answer, of, Probe.perform_bind, Collector.answer]
  cases collector.probe.perform executor {} with
  | mk answer host => cases answer <;> rfl

theorem commands_of (kind : ComponentKind) (collector : Collector α) :
    (of kind collector).commands executor = collector.commands executor := by
  rw [commands, of, Probe.perform_bind, Collector.commands]
  cases collector.probe.perform executor {} with
  | mk answer host => cases answer <;> rfl

theorem failure?_eq_none_iff {call : Call} :
    call.failure? executor = none ↔ ∀ error, call.answer executor ≠ .failure error := by
  unfold failure?
  cases call.answer executor with
  | failure error => exact iff_of_false nofun fun unfailed => unfailed error rfl
  | data value => exact iff_of_true rfl nofun
  | fault reason => exact iff_of_true rfl nofun

theorem of_asList (kind : ComponentKind) (collector : Collector α) :
    of kind (Pass.asList collector) = of kind collector :=
  congrArg (Call.mk kind collector.name) (Probe.bind_assoc _ _ collector.probe)

theorem map_of_asList (kind : ComponentKind) (collectors : List (Collector α)) :
    (collectors.map Pass.asList).map (of kind) = collectors.map (of kind) := by
  rw [List.map_map]
  exact List.map_congr_left fun collector _ => of_asList kind collector

end Call

section

variable (executor : Executor)

/-- The error that ends a series of calls. -/
def firstFailure (calls : List Call) : Option Error :=
  calls.findSome? (·.failure? executor)

/-- The calls of a series that are made until one of them reports an error. -/
def upToFailure : List Call → List Call
  | [] => []
  | call :: later =>
    if (call.failure? executor).isSome then [call] else call :: upToFailure later

/-- The commands that are run in a series of calls. -/
def commandsOf (calls : List Call) : List Command :=
  calls.flatMap (·.commands executor)

variable {executor} {call : Call} {early : List Call} {error : Error}

theorem firstFailure_append (early late : List Call) :
    firstFailure executor (early ++ late) =
      (firstFailure executor early).or (firstFailure executor late) :=
  List.findSome?_append

theorem firstFailure_cons (call : Call) (later : List Call) :
    firstFailure executor (call :: later) =
      (call.failure? executor).or (firstFailure executor later) := by
  rw [firstFailure, List.findSome?_cons]
  cases call.failure? executor <;> rfl

theorem firstFailure_singleton (call : Call) :
    firstFailure executor [call] = call.failure? executor := by
  rw [firstFailure_cons]
  exact Option.or_none

theorem firstFailure_eq_none_iff {calls : List Call} :
    firstFailure executor calls = none ↔
      ∀ call ∈ calls, ∀ error, call.answer executor ≠ .failure error := by
  rw [firstFailure, List.findSome?_eq_none_iff]
  exact forall₂_congr fun call _ => Call.failure?_eq_none_iff executor

theorem upToFailure_singleton (call : Call) : upToFailure executor [call] = [call] :=
  ite_self _

theorem upToFailure_append_of_none (nowhere : firstFailure executor early = none)
    (late : List Call) :
    upToFailure executor (early ++ late) = early ++ upToFailure executor late := by
  induction early with
  | nil => rfl
  | cons call early ih =>
    rw [firstFailure_cons, Option.or_eq_none_iff] at nowhere
    rw [List.cons_append, upToFailure, nowhere.1, ih nowhere.2]
    rfl

theorem upToFailure_append_of_some (somewhere : firstFailure executor early = some error)
    (late : List Call) :
    upToFailure executor (early ++ late) = upToFailure executor early := by
  induction early with
  | nil => cases somewhere
  | cons call early ih =>
    rw [firstFailure_cons] at somewhere
    rw [List.cons_append, upToFailure, upToFailure]
    cases failing : call.failure? executor with
    | some _ => rfl
    | none =>
      rw [failing, Option.none_or] at somewhere
      rw [ih somewhere]

/-- No call after the first failing one is made. -/
theorem upToFailure_append_cons (nowhere : firstFailure executor early = none)
    (failing : call.failure? executor = some error) (late : List Call) :
    upToFailure executor (early ++ call :: late) = early ++ [call] ∧
      firstFailure executor (early ++ call :: late) = some error := by
  refine ⟨?_, ?_⟩
  · rw [upToFailure_append_of_none nowhere, upToFailure, failing]
    rfl
  · rw [firstFailure_append, nowhere, Option.none_or, firstFailure_cons, failing]
    rfl

theorem upToFailure_of_none (nowhere : firstFailure executor early = none) :
    upToFailure executor early = early := by
  have all := upToFailure_append_of_none nowhere []
  rw [List.append_nil] at all
  exact all.trans (List.append_nil early)

theorem firstFailure_upToFailure : ∀ calls : List Call,
    firstFailure executor (upToFailure executor calls) = firstFailure executor calls
  | [] => rfl
  | call :: later => by
    rw [upToFailure, firstFailure_cons]
    cases failing : call.failure? executor with
    | some error => rw [Option.isSome_some, if_pos rfl, firstFailure_cons, failing]; rfl
    | none =>
      rw [Option.isSome_none, if_neg Bool.false_ne_true, firstFailure_cons, failing,
        firstFailure_upToFailure later]

theorem commandsOf_append (early late : List Call) :
    commandsOf executor (early ++ late) =
      commandsOf executor early ++ commandsOf executor late :=
  List.flatMap_append

theorem commandsOf_cons (call : Call) (later : List Call) :
    commandsOf executor (call :: later) =
      call.commands executor ++ commandsOf executor later :=
  List.flatMap_cons

end

/-! ## The calls of a registry -/

namespace Registry

/-- Who is asked for the features of a drive. -/
def featureCollector (registry : Registry) (drive : Drive) :
    Collector (List (String × Bool)) :=
  let collector := registry.capabilityCollector drive.logicalName
  ⟨collector.name, collector.probe drive.logicalName⟩

/-- The calls for a class of components as a whole. -/
def classCalls (registry : Registry) : ComponentKind → List Call
  | .drive => registry.drives.map (.of .drive)
  | .nic => registry.nics.toList.map (.of .nic)
  | .bmc => registry.bmc.toList.map (.of .bmc)
  | .bios => registry.bios.toList.map (.of .bios)
  | .cpld => registry.cpld.toList.map (.of .cpld)
  | .storageController => registry.storageControllers.map (.of .storageController)

/-- The calls for the features of some drives; those without a path cannot be asked for. -/
def featureCalls (registry : Registry) (drives : List Drive) : List Call :=
  (drives.filter fun drive => !drive.logicalName.isEmpty).map fun drive =>
    .of .drive (registry.featureCollector drive)

/-- All the calls for a class of components. -/
def calls (registry : Registry) (config : Config) (drives : List Drive)
    (kind : ComponentKind) : List Call :=
  if kind = .drive ∧ config.collectDriveCapabilities = true then
    registry.classCalls kind ++ registry.featureCalls drives
  else registry.classCalls kind

theorem kind_of_mem_classCalls {registry : Registry} {kind : ComponentKind} {call : Call}
    (member : call ∈ registry.classCalls kind) : call.kind = kind := by
  cases kind <;>
  · obtain ⟨collector, _, rfl⟩ := List.mem_map.1 member
    rfl

/-- What holds of the call of every collector that is named for a class. -/
theorem forall_classCalls {registry : Registry} {property : Call → Prop}
    (drives : ∀ collector ∈ registry.drives, property (.of .drive collector))
    (nics : ∀ collector ∈ registry.nics, property (.of .nic collector))
    (bmc : ∀ collector ∈ registry.bmc, property (.of .bmc collector))
    (bios : ∀ collector ∈ registry.bios, property (.of .bios collector))
    (cpld : ∀ collector ∈ registry.cpld, property (.of .cpld collector))
    (storageControllers : ∀ collector ∈ registry.storageControllers,
      property (.of .storageController collector)) (kind : ComponentKind) :
    ∀ call ∈ registry.classCalls kind, property call := by
  have ofList : ∀ {α : Type} (kind : ComponentKind) (collectors : List (Collector α)),
      (∀ collector ∈ collectors, property (.of kind collector)) →
      ∀ call ∈ collectors.map (.of kind), property call := by
    intro α kind collectors holds call member
    obtain ⟨collector, inside, rfl⟩ := List.mem_map.1 member
    exact holds collector inside
  have ofOption : ∀ {α : Type} (kind : ComponentKind) (collector : Option (Collector α)),
      (∀ named ∈ collector, property (.of kind named)) →
      ∀ call ∈ collector.toList.map (.of kind), property call :=
    fun kind collector holds => ofList kind collector.toList fun named inside =>
      holds named (Option.mem_toList.1 inside)
  cases kind with
  | drive => exact ofList .drive registry.drives drives
  | nic => exact ofOption .nic registry.nics nics
  | bmc => exact ofOption .bmc registry.bmc bmc
  | bios => exact ofOption .bios registry.bios bios
  | cpld => exact ofOption .cpld registry.cpld cpld
  | storageController =>
    exact ofList .storageController registry.storageControllers storageControllers

/-- Whom the features of drives are asked for is told by their paths. -/
theorem featureCalls_congr {registry : Registry} {drives others : List Drive}
    (same : drives.map (·.logicalName) = others.map (·.logicalName)) :
    registry.featureCalls drives = registry.featureCalls others := by
  have byName : ∀ drives : List Drive, registry.featureCalls drives =
      ((drives.map (·.logicalName)).filter fun name => !name.isEmpty).map fun name =>
        .of .drive (registry.featureCollector { logicalName := name }) := by
    intro drives
    rw [featureCalls, List.filter_map, List.map_map]
    rfl
  rw [byName, byName, same]

end Registry

end ServerInventory
