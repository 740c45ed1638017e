import ServerInventory.Absorb
import ServerInventory.Registry
import ServerInventory.Summary

/-!
A collection pass over a server. After the baseline the classes of components are taken one
by one: everybody named for a class is asked, and what they found is merged. An error that
a collector reports ends the pass where it stands; a collector that breaks down contributes
nothing and is noted. In the end the management controller, the system firmware and the
board logic take the model of the server where they have none of their own.
-/

namespace ServerInventory

namespace Pass

/-- How far a pass has come. -/
structure State where
  device : Device
  summary : Summary := {}
  host : Run := {}

end Pass

/-- A part of a pass. It leaves a state behind however it ends. -/
def Pass (α : Type) := Pass.State → Answer α × Pass.State

namespace Pass

variable {α β : Type}

def pure (value : α) : Pass α := fun state => (.data value, state)

/-- One part of a pass after the other, unless the first one ends the pass. -/
def bind (first : Pass α) (next : α → Pass β) : Pass β := fun state =>
  match first state with
  | (.data value, state) => next value state
  | (.failure error, state) => (.failure error, state)
  | (.fault reason, state) => (.fault reason, state)

instance : Monad Pass where
  pure := pure
  bind := bind

/-- Ends the pass with an error. -/
def fail (error : Error) : Pass α := fun state => (.failure error, state)

def state : Pass State := fun state => (.data state, state)

def update (change : State → State) : Pass Unit := fun state => (.data (), change state)

/-- Ends the pass if it was cancelled. -/
def checkCancelled : Pass Unit := fun state =>
  (if state.host.cancelled then .failure .cancelled else .data (), state)

/-- Carries a probe out. -/
def perform (executor : Executor) (probe : Probe α) : Pass α := fun state =>
  let outcome := probe.perform executor state.host
  (outcome.1, { state with host := outcome.2 })

/-- The value of a result; an error ends the pass as a report of the named collector. -/
def ofExcept (name : String) : Except Error α → Pass α
  | .ok value => pure value
  | .error error => fail (.collector name error)

/-- A part of a pass whose error counts as a report of the named collector, and whose
fault is handed over in place of data. -/
def isolate (name : String) (part : Pass α) : Pass (Except String α) := fun state =>
  match part state with
  | (.data value, state) => (.data (.ok value), state)
  | (.failure error, state) => (.failure (.collector name error), state)
  | (.fault reason, state) => (.data (.error reason), state)

def noteFault (fault : Fault) : Pass Unit :=
  update fun state =>
    { state with summary := { state.summary with faults := state.summary.faults ++ [fault] } }

/-- Asks a collector of a class; nothing comes of one that breaks down but a note. -/
def ask (executor : Executor) (kind : ComponentKind) (collector : Collector α) :
    Pass (Option α) := do
  match ← isolate kind.name (perform executor collector.probe) with
  | .ok found => return some found
  | .error reason =>
    noteFault ⟨kind, collector.name, reason⟩
    return none

/-- Asks all collectors of a class: how many did not break down, and all that they found. -/
def gather (executor : Executor) (kind : ComponentKind) :
    List (Collector (List α)) → Pass (Nat × List α)
  | [] => return (0, [])
  | collector :: collectors => do
    match ← ask executor kind collector with
    | none => gather executor kind collectors
    | some found =>
      let (completed, others) ← gather executor kind collectors
      return (completed + 1, found ++ others)

/-! ## Merging what was found -/

/-- Where a server keeps the components of a class. -/
structure Place (α : Type) where
  get : Device → α
  set : Device → α → Device

def drives : Place (List Drive) :=
  ⟨Device.drives, fun device drives => { device with drives }⟩

def nics : Place (List Nic) :=
  ⟨Device.nics, fun device nics => { device with nics }⟩

def storageControllers : Place (List StorageController) :=
  ⟨Device.storageControllers, fun device storageControllers =>
    { device with storageControllers }⟩

def bmc : Place Bmc :=
  ⟨Device.bmc, fun device bmc => { device with bmc }⟩

def bios : Place Bios :=
  ⟨Device.bios, fun device bios => { device with bios }⟩

def cpld : Place Cpld :=
  ⟨Device.cpld, fun device cpld => { device with cpld }⟩

/-- The components of a class as the server has them now. -/
def read (place : Place α) : Pass α := do
  return place.get (← state).device

def write (place : Place α) (value : α) : Pass Unit :=
  update fun state => { state with device := place.set state.device value }

/-- Merges collected parts into the known ones of a class. -/
def mergeList [Identified α] (kind : ComponentKind) (place : Place (List α))
    (fragments : List α) : Pass ClassOutcome := do
  if fragments.isEmpty then return .empty
  let joined := mergeBySerial (← read place) fragments
  write place joined.1
  let summary ← ofExcept kind.name joined.2
  return .merged fragments.length summary.applied summary.unmatched

/-- Merges collected records into the only component of a class, and counts the changes. -/
def mergeAll [Recordable α] (kind : ComponentKind) (place : Place α) : List α → Pass Nat
  | [] => return 0
  | fragment :: fragments => do
    let merged ← ofExcept kind.name (merge (← read place) fragment)
    write place merged.record
    let applied ← mergeAll kind place fragments
    return merged.applied + applied

/-- Merges collected records into the only component of a class, those apart that say
nothing. -/
def mergeSingle [Recordable α] [DecidableEq α] [Inhabited α] (kind : ComponentKind)
    (place : Place α) (fragments : List α) : Pass ClassOutcome := do
  let telling := fragments.filter (· ≠ default)
  if telling.isEmpty then return .empty
  let applied ← mergeAll kind place telling
  return .merged telling.length applied []

/-- Asks the collectors of a class and merges what they found. -/
def collectWith (executor : Executor) (kind : ComponentKind)
    (collectors : List (Collector (List α))) (mergeFound : List α → Pass ClassOutcome) :
    Pass ClassOutcome := do
  if collectors.isEmpty then return .skipped
  let (completed, fragments) ← gather executor kind collectors
  if completed = 0 then return .faulted
  mergeFound fragments

/-- A collector of one record as a collector of a list. -/
def asList (collector : Collector α) : Collector (List α) :=
  ⟨collector.name, do return [← collector.probe]⟩

/-- Asks the collectors of a class of parts with serial numbers. -/
def collectList [Identified α] (executor : Executor) (kind : ComponentKind)
    (collectors : List (Collector (List α))) (place : Place (List α)) : Pass ClassOutcome :=
  collectWith executor kind collectors (mergeList kind place)

/-- Asks the collector, if there is one, of a class with one component. -/
def collectSingle [Recordable α] [DecidableEq α] [Inhabited α] (executor : Executor)
    (kind : ComponentKind) (collector : Option (Collector α)) (place : Place α) :
    Pass ClassOutcome :=
  collectWith executor kind (collector.toList.map asList) (mergeSingle kind place)

/-! ## Features of drives -/

/-- A drive with the features that its collector reports, and how many of them are news. -/
def withCapabilities (executor : Executor) (registry : Registry) (drive : Drive) :
    Pass (Merged Drive) := do
  if drive.logicalName.isEmpty then return ⟨drive, 0⟩
  checkCancelled
  let collector := registry.capabilityCollector drive.logicalName
  match ← ask executor .drive ⟨collector.name, collector.probe drive.logicalName⟩ with
  | none => return ⟨drive, 0⟩
  | some found =>
    -- Nothing but the features is merged: a whole empty record would reset flags.
    ofExcept ComponentKind.drive.name
      (mergeField drive { capabilities := .ofList found } "Capabilities")

/-- Collects the features of drives, of which those in `done` have theirs already. -/
def collectCapabilities (executor : Executor) (registry : Registry) (done : List Drive) :
    List Drive → Pass Nat
  | [] => return 0
  | drive :: rest => do
    let merged ← withCapabilities executor registry drive
    write drives (done ++ merged.record :: rest)
    let applied ← collectCapabilities executor registry (done ++ [merged.record]) rest
    return merged.applied + applied

/-! ## The classes -/

/-- Collects the drives and, if that is asked for, their features. -/
def collectDrives (config : Config) (executor : Executor) (registry : Registry) :
    Pass ClassOutcome := do
  let outcome ← collectList executor .drive registry.drives drives
  if config.collectDriveCapabilities then
    let changes ← collectCapabilities executor registry [] (← read drives)
    update fun state =>
      { state with
        summary :=
          { state.summary with
            capabilityChanges := state.summary.capabilityChanges + changes } }
  return outcome

/-- Collects one class of components. -/
def collectKind (config : Config) (executor : Executor) (registry : Registry) :
    ComponentKind → Pass ClassOutcome
  | .drive => collectDrives config executor registry
  | .nic => collectList executor .nic registry.nics.toList nics
  | .storageController =>
    collectList executor .storageController registry.storageControllers storageControllers
  | .bmc => collectSingle executor .bmc registry.bmc bmc
  | .bios => collectSingle executor .bios registry.bios bios
  | .cpld => collectSingle executor .cpld registry.cpld cpld

/-- Collects some classes of components one after the other. -/
def collectKinds (config : Config) (executor : Executor) (registry : Registry) :
    List ComponentKind → Pass Unit
  | [] => return ()
  | kind :: kinds => do
    checkCancelled
    let outcome ← collectKind config executor registry kind
    update fun state =>
      { state with
        summary :=
          { state.summary with classes := state.summary.classes ++ [(kind, outcome)] } }
    collectKinds config executor registry kinds

/-! ## The whole pass -/

/-- Finds out which components there are. Its faults are not contained. -/
def baseline (executor : Executor) (collector : Collector Device) : Pass Unit := do
  let device := (← state).device
  let found ← fun state =>
    match perform executor collector.probe state with
    | (.failure error, state) => (.failure (.collector "inventory" error), state)
    | outcome => outcome
  let absorbed ← ofExcept "inventory" (device.absorb found)
  update fun state => { state with device := absorbed }

end Pass

/-- An identity with a model in place of none. -/
def Identity.withModel (identity : Identity) (model : String) : Identity :=
  if identity.model.isEmpty then { identity with model } else identity

/-- A server whose components without a model of their own, of those that it has one of,
take its model. -/
def Device.withModels (device : Device) : Device :=
  { device with
    bmc := { device.bmc with toIdentity := device.bmc.toIdentity.withModel device.model }
    bios := { device.bios with toIdentity := device.bios.toIdentity.withModel device.model }
    cpld := { device.cpld with toIdentity := device.cpld.toIdentity.withModel device.model } }

namespace Pass

/-- A whole pass with the collectors of a registry. -/
def run (config : Config) (executor : Executor) (registry : Registry) : Pass Summary := do
  match registry.inventory with
  | none => pure ()
  | some collector => baseline executor collector
  collectKinds config executor registry ComponentKind.all
  update fun state => { state with device := state.device.withModels }
  return (← state).summary

/-- What a pass leaves behind. -/
structure Result where
  answer : Answer Summary
  device : Option Device
  host : Run

/-- A pass over a server, with the usual collectors where the registry names none. -/
def collect (config : Config) (executor : Executor) (registry : Registry)
    (device : Option Device) (host : Run) : Result :=
  match device with
  | none => ⟨.failure .deviceMissing, none, host⟩
  | some device =>
    let (answer, state) :=
      run config executor (registry.withDefaults config) { device, host }
    ⟨answer, some state.device, state.host⟩

end Pass

end ServerInventory
