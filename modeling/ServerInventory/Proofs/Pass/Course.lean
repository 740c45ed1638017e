import ServerInventory.Proofs.Merge.Absorption
import ServerInventory.Proofs.Pass.Calls

/-!
The course of a pass that nobody cancels. It is settled by what the collectors answer: which
calls are made, which error ends the pass, and what the server becomes on the way. Each part
of a pass is shown to end as it should (`Pass.EndsAs`), and so does a whole pass.
-/

namespace ServerInventory

/-! ## What the answers make of a server -/

namespace Registry

variable (registry : Registry) (config : Config) (executor : Executor)

/-- The known drives with all those merged in that the collectors found. -/
def joinedDrives (known : List Drive) : List Drive :=
  (mergeBySerial known (foundBy executor registry.drives)).1

/-- A drive with the features that its collector found. -/
def featured (drive : Drive) : Drive :=
  if drive.logicalName.isEmpty then drive
  else match ((registry.featureCollector drive).answer executor).data? with
    | none => drive
    | some found =>
      combineFor (some "Capabilities") drive { capabilities := .ofList found }

/-- The drives with their features, those alone that were asked for before an error. -/
def featuredUpToFailure : List Drive → List Drive
  | [] => []
  | drive :: rest =>
    if (firstFailure executor (registry.featureCalls [drive])).isSome then drive :: rest
    else registry.featured executor drive :: featuredUpToFailure rest

end Registry

/-- A known component with the one merged in that its collector found, if that says
anything. -/
def combineFound {α : Type} [Recordable α] [DecidableEq α] [Inhabited α] (executor : Executor)
    (collector : Option (Collector α)) (known : α) : α :=
  match collector.bind fun collector => (collector.answer executor).data? with
  | none => known
  | some found => if found = default then known else combine known found

namespace Registry

variable (registry : Registry) (config : Config) (executor : Executor)

/-- A server after the merges for one class of components, when no call for it fails. -/
def completed (device : Device) : ComponentKind → Device
  | .drive =>
    let joined := registry.joinedDrives executor device.drives
    { device with
      drives :=
        if config.collectDriveCapabilities then joined.map (registry.featured executor)
        else joined }
  | .nic =>
    { device with nics := (mergeBySerial device.nics (foundBy executor registry.nics.toList)).1 }
  | .bmc => { device with bmc := combineFound executor registry.bmc device.bmc }
  | .bios => { device with bios := combineFound executor registry.bios device.bios }
  | .cpld => { device with cpld := combineFound executor registry.cpld device.cpld }
  | .storageController =>
    { device with
      storageControllers :=
        (mergeBySerial device.storageControllers
          (foundBy executor registry.storageControllers)).1 }

/-- A server after the work on one class of components, which may end with an error. Only
after all calls for the class are answered something is merged. -/
def collected (device : Device) (kind : ComponentKind) : Device :=
  if (firstFailure executor (registry.classCalls kind)).isSome then device
  else if kind = .drive ∧ config.collectDriveCapabilities = true then
    { device with
      drives :=
        registry.featuredUpToFailure executor (registry.joinedDrives executor device.drives) }
  else registry.completed config executor device kind

/-- The calls for some classes of components. -/
def callsFrom (device : Device) : List ComponentKind → List Call
  | [] => []
  | kind :: kinds =>
    registry.calls config (registry.joinedDrives executor device.drives) kind ++
      callsFrom (registry.collected config executor device kind) kinds

/-- A server after the work on some classes of components. -/
def course (device : Device) : List ComponentKind → Device
  | [] => device
  | kind :: kinds =>
    if (firstFailure executor
        (registry.calls config (registry.joinedDrives executor device.drives) kind)).isSome then
      registry.collected config executor device kind
    else course (registry.collected config executor device kind) kinds

/-- A server after the work on all classes of components. Models are filled in if no call
failed. -/
def finished (device : Device) : Device :=
  if (firstFailure executor
      (registry.callsFrom config executor device ComponentKind.all)).isSome then
    registry.course config executor device ComponentKind.all
  else (registry.course config executor device ComponentKind.all).withModels

end Registry

namespace Pass

/-! ## Parts of a pass that nobody cancels -/

section

variable {α β : Type}

/-- How a part of a pass ended: which server it left, which calls it made, and that it ended
with the error of one of them, or else with a value that has a property. -/
structure Ended (executor : Executor) (host : Run) (device : Device) (calls : List Call)
    (property : α → Prop) (outcome : Answer α × State) : Prop where
  device : outcome.2.device = device
  host : outcome.2.host =
    { host with commands := host.commands ++ commandsOf executor calls }
  answer : match firstFailure executor calls with
    | none => ∃ value, outcome.1 = .data value ∧ property value
    | some error => outcome.1 = .failure error

/-- How a part of a pass ends if the pass is not cancelled. -/
def EndsAs (executor : Executor) (part : Pass α) (state : State) (device : Device)
    (calls : List Call) (property : α → Prop) : Prop :=
  (part state).2.host.cancelled = false →
    Ended executor state.host device calls property (part state)

variable {executor : Executor} {part : Pass α} {next : α → Pass β} {state : State}
  {device last : Device} {property : α → Prop} {goal : β → Prop}

/-- A part without calls that ends with a value. -/
theorem EndsAs.of_data {value : α} {later : State} (run : part state = (.data value, later))
    (sameDevice : later.device = device) (sameHost : later.host = state.host)
    (holds : property value) : EndsAs executor part state device [] property := by
  intro _
  rw [run]
  refine ⟨sameDevice, ?_, value, rfl, holds⟩
  rw [commandsOf, List.flatMap_nil, List.append_nil]
  exact sameHost

/-- The second part follows if no call of the first one fails. -/
theorem EndsAs.bind (early late : List Call)
    (first : EndsAs executor part state device (upToFailure executor early) property)
    (rests : ∀ value, (next value).Rests)
    (stopped : (firstFailure executor early).isSome → last = device)
    (further : firstFailure executor early = none → ∀ value later, property value →
      later.device = device →
      EndsAs executor (next value) later last (upToFailure executor late) goal) :
    EndsAs executor (part >>= next) state last (upToFailure executor (early ++ late)) goal := by
  intro uncancelled
  cases run : part state with
  | mk answer later =>
    have before : later.host.cancelled = false := by
      cases answer with
      | data value =>
        rw [bind_of_data run] at uncancelled
        exact (rests value).uncancelled uncancelled
      | failure error =>
        rw [bind_of_failure run] at uncancelled
        exact uncancelled
      | fault reason =>
        rw [bind_of_fault run] at uncancelled
        exact uncancelled
    unfold EndsAs at first
    rw [run] at first
    obtain ⟨sameDevice, sameHost, answered⟩ := first before
    dsimp only at sameDevice sameHost answered
    rw [firstFailure_upToFailure] at answered
    cases failing : firstFailure executor early with
    | some error =>
      rw [failing] at answered
      obtain rfl : answer = .failure error := answered
      rw [bind_of_failure run, upToFailure_append_of_some failing]
      have kept : last = device := stopped (by rw [failing]; rfl)
      refine ⟨sameDevice.trans kept.symm, sameHost, ?_⟩
      rw [firstFailure_upToFailure, failing]
    | none =>
      rw [failing] at answered
      obtain ⟨value, rfl, holds⟩ := answered
      rw [bind_of_data run] at uncancelled
      obtain ⟨lastDevice, lastHost, lastAnswer⟩ :=
        further failing value later holds sameDevice uncancelled
      rw [bind_of_data run, upToFailure_append_of_none failing]
      refine ⟨lastDevice, ?_, ?_⟩
      · rw [lastHost, sameHost, commandsOf_append, upToFailure_of_none failing,
          List.append_assoc]
      · rw [firstFailure_append, failing, Option.none_or]
        exact lastAnswer

/-- A part that makes no calls follows. -/
theorem EndsAs.bind_quiet (early : List Call)
    (first : EndsAs executor part state device (upToFailure executor early) property)
    (rests : ∀ value, (next value).Rests)
    (stopped : (firstFailure executor early).isSome → last = device)
    (further : firstFailure executor early = none → ∀ value later, property value →
      later.device = device → EndsAs executor (next value) later last [] goal) :
    EndsAs executor (part >>= next) state last (upToFailure executor early) goal := by
  have whole := EndsAs.bind early [] first rests stopped further
  rw [List.append_nil] at whole
  exact whole

/-- A part that makes no calls goes first. -/
theorem EndsAs.quiet_bind (late : List Call)
    (first : EndsAs executor part state device [] property) (rests : ∀ value, (next value).Rests)
    (further : ∀ value later, property value → later.device = device →
      EndsAs executor (next value) later last (upToFailure executor late) goal) :
    EndsAs executor (part >>= next) state last (upToFailure executor late) goal :=
  EndsAs.bind [] late first rests nofun fun _ => further

/-- A part follows that only adds to the summary. -/
theorem EndsAs.bind_note (early : List Call)
    (first : EndsAs executor part state device (upToFailure executor early) property)
    (notes : ∀ value later, ∃ result summary,
      next value later = (.data result, { later with summary })) :
    EndsAs executor (part >>= next) state device (upToFailure executor early)
      fun _ => True := by
  refine EndsAs.bind_quiet early first (fun value later _ => ?_) (fun _ => rfl)
    fun _ value later _ same => ?_
  · obtain ⟨result, summary, run⟩ := notes value later
    rw [run]
  · obtain ⟨result, summary, run⟩ := notes value later
    exact EndsAs.of_data run same rfl trivial

/-! ## Asking -/

theorem endsAs_checkCancelled (state : State) :
    EndsAs executor checkCancelled state state.device [] fun _ => True := by
  intro uncancelled
  have before : state.host.cancelled = false := uncancelled
  refine ⟨rfl, ?_, (), ?_, trivial⟩
  · rw [commandsOf, List.flatMap_nil, List.append_nil]
    rfl
  · rw [checkCancelled, before]
    rfl

theorem ask_eq (executor : Executor) (kind : ComponentKind) (collector : Collector α)
    (state : State) : ask executor kind collector state =
      match collector.probe.perform executor state.host with
      | (.data found, host) => (.data (some found), { state with host })
      | (.failure error, host) => (.failure (.collector kind.name error), { state with host })
      | (.fault reason, host) =>
        (.data none,
          { state with
            host
            summary :=
              { state.summary with
                faults := state.summary.faults ++ [⟨kind, collector.name, reason⟩] } }) := by
  change Pass.bind (isolate kind.name (perform executor collector.probe)) _ state = _
  unfold Pass.bind isolate perform
  dsimp only
  cases collector.probe.perform executor state.host with
  | mk answer host => cases answer <;> rfl

theorem endsAs_ask (kind : ComponentKind) (collector : Collector α) (state : State) :
    EndsAs executor (ask executor kind collector) state state.device
      (upToFailure executor [.of kind collector])
      fun found => found = (collector.answer executor).data? := by
  intro uncancelled
  have sameHost : (ask executor kind collector state).2.host =
      (collector.probe.perform executor state.host).2 := by
    rw [ask_eq]
    cases collector.probe.perform executor state.host with
    | mk answer host => cases answer <;> rfl
  rw [sameHost] at uncancelled
  have equal := collector.probe.perform_of_uncancelled executor uncancelled
  have failing := Call.failure?_of executor kind collector
  rw [upToFailure_singleton]
  refine ⟨?_, ?_, ?_⟩
  · rw [ask_eq]
    cases collector.probe.perform executor state.host with
    | mk answer host => cases answer <;> rfl
  · rw [sameHost, equal, commandsOf_cons, Call.commands_of]
    exact congrArg (fun commands : List Command =>
      ({ state.host with commands := state.host.commands ++ commands } : Run))
      (List.append_nil _).symm
  · rw [firstFailure_singleton, failing, ask_eq, equal, Collector.answer]
    cases (collector.probe.perform executor {}).1 with
    | data found => exact ⟨some found, rfl, rfl⟩
    | failure error => rfl
    | fault reason => exact ⟨none, rfl, rfl⟩

theorem foundBy_cons (collector : Collector (List α)) (collectors : List (Collector (List α))) :
    foundBy executor (collector :: collectors) =
      ((collector.answer executor).data?.getD []) ++ foundBy executor collectors := by
  unfold foundBy
  rw [List.filterMap_cons]
  cases (collector.answer executor).data? <;> rfl

theorem endsAs_gather (kind : ComponentKind) : ∀ (collectors : List (Collector (List α)))
    (state : State), EndsAs executor (gather executor kind collectors) state state.device
      (upToFailure executor (collectors.map (.of kind)))
      fun found => found.2 = foundBy executor collectors ∧ (found.1 = 0 → found.2 = [])
  | [], state => EndsAs.of_data rfl rfl rfl ⟨rfl, fun _ => rfl⟩
  | collector :: collectors, state => by
    -- The place does not matter here.
    have rests := (composes_rests executor kind drives).gather collectors
    refine EndsAs.bind [.of kind collector] (collectors.map (.of kind))
      (endsAs_ask kind collector state) ?_ (fun _ => rfl) fun _ answer later answered same => ?_
    · rintro (_ | found)
      · exact rests
      · exact rests.bind fun others => rests_pure _
    · have others := endsAs_gather kind collectors later
      rw [same] at others
      rw [foundBy_cons, ← answered]
      cases answer with
      | none => exact others
      | some found =>
        refine EndsAs.bind_quiet _ others (fun _ => rests_pure _) (fun _ => rfl) ?_
        intro _ value last holds sameLast
        have all : found ++ value.2 = found ++ foundBy executor collectors :=
          congrArg (found ++ ·) holds.1
        rw [← sameLast]
        exact EndsAs.of_data rfl rfl rfl ⟨all, fun none => absurd none (Nat.succ_ne_zero value.1)⟩

/-! ## Merging -/

/-- A place that gives back what is put there, and only that. -/
structure Place.Lawful (place : Place α) : Prop where
  get_set : ∀ device value, place.get (place.set device value) = value
  set_get : ∀ device, place.set device (place.get device) = device
  set_set : ∀ device first second,
    place.set (place.set device first) second = place.set device second

theorem lawful_drives : drives.Lawful := ⟨fun _ _ => rfl, fun _ => rfl, fun _ _ _ => rfl⟩

theorem lawful_nics : nics.Lawful := ⟨fun _ _ => rfl, fun _ => rfl, fun _ _ _ => rfl⟩

theorem lawful_storageControllers : storageControllers.Lawful :=
  ⟨fun _ _ => rfl, fun _ => rfl, fun _ _ _ => rfl⟩

theorem lawful_bmc : bmc.Lawful := ⟨fun _ _ => rfl, fun _ => rfl, fun _ _ _ => rfl⟩

theorem lawful_bios : bios.Lawful := ⟨fun _ _ => rfl, fun _ => rfl, fun _ _ _ => rfl⟩

theorem lawful_cpld : cpld.Lawful := ⟨fun _ _ => rfl, fun _ => rfl, fun _ _ _ => rfl⟩

/-- The merge of what was found of a class of parts. It always succeeds, and what it reports
is settled by the parts that were there. -/
theorem mergeList_eq [Identified α] [LawfulIdentified α] (kind : ComponentKind)
    {place : Place (List α)} (lawful : place.Lawful) (fragments : List α) (state : State) :
    mergeList kind place fragments state =
      (.data (if fragments.isEmpty then .empty else
          .merged fragments.length ((place.get state.device).map (joinedCount fragments)).sum
            ((strangers (place.get state.device) fragments).map Identified.serial)),
        { state with
          device :=
            place.set state.device (mergeBySerial (place.get state.device) fragments).1 }) := by
  cases fragments with
  | nil =>
    have same : place.set state.device (mergeBySerial (place.get state.device) []).1 =
        state.device := lawful.set_get state.device
    rw [same]
    rfl
  | cons fragment others =>
    have joins := mergeBySerial_eq (fragment :: others) (place.get state.device)
    change (ofExcept kind.name
        (mergeBySerial (place.get state.device) (fragment :: others)).2 >>= fun summary =>
      pure (ClassOutcome.merged (fragment :: others).length summary.applied summary.unmatched))
      { state with
        device :=
          place.set state.device
            (mergeBySerial (place.get state.device) (fragment :: others)).1 } = _
    rw [joins]
    rfl

theorem exists_mergeList [Identified α] [LawfulIdentified α] (kind : ComponentKind)
    {place : Place (List α)} (lawful : place.Lawful) (fragments : List α) (state : State) :
    ∃ outcome ≠ .faulted, mergeList kind place fragments state =
      (.data outcome,
        { state with
          device :=
            place.set state.device (mergeBySerial (place.get state.device) fragments).1 }) :=
  ⟨_, by split <;> nofun, mergeList_eq kind lawful fragments state⟩

theorem mergeAll_eq [Recordable α] [LawfulRecordable α] (kind : ComponentKind)
    {place : Place α} (lawful : place.Lawful) : ∀ (fragments : List α) (state : State),
    mergeAll kind place fragments state =
      (.data (seriesCount (place.get state.device) fragments),
        { state with
          device := place.set state.device (fragments.foldl combine (place.get state.device)) })
  | [], state => by
    rw [List.foldl_nil, lawful.set_get]
    rfl
  | fragment :: fragments, state => by
    have rest := mergeAll_eq kind lawful fragments
      { state with
        device := place.set state.device (combine (place.get state.device) fragment) }
    dsimp only at rest
    rw [lawful.get_set, lawful.set_set] at rest
    rw [mergeAll, read_bind, merge_eq]
    exact bind_of_data rest

/-- The merge of what was found of a class with one component, of the records that say
anything. -/
theorem mergeSingle_eq [Recordable α] [LawfulRecordable α] [DecidableEq α] [Inhabited α]
    (kind : ComponentKind) {place : Place α} (lawful : place.Lawful) (fragments : List α)
    (state : State) :
    let telling := fragments.filter (· ≠ default)
    mergeSingle kind place fragments state =
      (.data (if telling.isEmpty then .empty else
          .merged telling.length (seriesCount (place.get state.device) telling) []),
        { state with
          device :=
            place.set state.device (telling.foldl combine (place.get state.device)) }) := by
  intro telling
  have step : mergeSingle kind place fragments =
      (if telling.isEmpty then return .empty
      else do
        let applied ← mergeAll kind place telling
        return .merged telling.length applied []) := rfl
  rw [step]
  cases telling with
  | nil =>
    rw [List.foldl_nil, lawful.set_get]
    rfl
  | cons fragment others =>
    exact bind_of_data (mergeAll_eq kind lawful (fragment :: others) state)

theorem exists_mergeSingle [Recordable α] [LawfulRecordable α] [DecidableEq α] [Inhabited α]
    (kind : ComponentKind) {place : Place α} (lawful : place.Lawful) (fragments : List α)
    (state : State) :
    ∃ outcome ≠ .faulted, mergeSingle kind place fragments state =
      (.data outcome,
        { state with
          device :=
            place.set state.device
              ((fragments.filter (· ≠ default)).foldl combine (place.get state.device)) }) :=
  ⟨_, by split <;> nofun, mergeSingle_eq kind lawful fragments state⟩

/-- What was found is merged after all collectors have answered. -/
theorem endsAs_collectWith (kind : ComponentKind) (collectors : List (Collector (List α)))
    {mergeFound : List α → Pass ClassOutcome} (merged : Device → List α → Device)
    (rests : ∀ fragments, (mergeFound fragments).Rests)
    (nothing : ∀ device, merged device [] = device)
    (merges : ∀ fragments state, ∃ outcome ≠ .faulted, mergeFound fragments state =
      (.data outcome, { state with device := merged state.device fragments })) (state : State) :
    EndsAs executor (collectWith executor kind collectors mergeFound) state
      (if (firstFailure executor (collectors.map (.of kind))).isSome then state.device
        else merged state.device (foundBy executor collectors))
      (upToFailure executor (collectors.map (.of kind))) fun _ => True := by
  unfold collectWith
  split
  · rename_i nobody
    obtain rfl := List.isEmpty_iff.1 nobody
    have same : merged state.device (foundBy executor []) = state.device := nothing state.device
    rw [List.map_nil, same, ite_self]
    exact EndsAs.of_data rfl rfl rfl trivial
  · refine EndsAs.bind_quiet _ (endsAs_gather kind collectors state) ?_ (if_pos ·) ?_
    · rintro ⟨completed, fragments⟩
      dsimp only
      split
      · exact rests_pure _
      · exact rests fragments
    · intro nowhere found later holds same
      obtain ⟨completed, fragments⟩ := found
      obtain ⟨rfl, noneCompleted⟩ := holds
      rw [nowhere, Option.isSome_none, if_neg Bool.false_ne_true, ← same]
      dsimp only
      split
      · rename_i broken
        have nothingFound : foundBy executor collectors = [] := noneCompleted broken
        rw [nothingFound, nothing]
        exact EndsAs.of_data rfl rfl rfl trivial
      · obtain ⟨outcome, _, run⟩ := merges (foundBy executor collectors) later
        exact EndsAs.of_data run rfl rfl trivial

theorem answer_asList (collector : Collector α) :
    (asList collector).answer executor = match collector.answer executor with
      | .data found => .data [found]
      | .failure error => .failure error
      | .fault reason => .fault reason := by
  unfold Collector.answer asList
  rw [Probe.perform_bind]
  cases collector.probe.perform executor {} with
  | mk answer host => cases answer <;> rfl

/-- What the collector of a class with one component found, if that says anything. -/
def toldBy [DecidableEq α] [Inhabited α] (executor : Executor)
    (collector : Option (Collector α)) : List α :=
  (foundBy executor (collector.toList.map asList)).filter (· ≠ default)

theorem combineFound_eq [Recordable α] [DecidableEq α] [Inhabited α]
    (collector : Option (Collector α)) (known : α) :
    combineFound executor collector known =
      (toldBy executor collector).foldl combine known := by
  unfold toldBy
  cases collector with
  | none => rfl
  | some collector =>
    rw [combineFound, Option.toList_some, List.map_cons, foundBy_cons, answer_asList,
      Option.bind_some]
    cases collector.answer executor with
    | failure error => rfl
    | fault reason => rfl
    | data found =>
      by_cases telling : found = default
      · have silent : [found].filter (· ≠ default) = [] :=
          List.filter_cons_of_neg (fun tells => of_decide_eq_true tells telling)
        exact (if_pos telling).trans (congrArg (List.foldl combine known) silent).symm
      · have told : [found].filter (· ≠ default) = [found] :=
          List.filter_cons_of_pos (decide_eq_true telling)
        exact (if_neg telling).trans (congrArg (List.foldl combine known) told).symm

theorem endsAs_collectList [Identified α] [LawfulIdentified α] (kind : ComponentKind)
    {place : Place (List α)} (lawful : place.Lawful) (collectors : List (Collector (List α)))
    (state : State) :
    EndsAs executor (collectList executor kind collectors place) state
      (if (firstFailure executor (collectors.map (.of kind))).isSome then state.device
        else place.set state.device
          (mergeBySerial (place.get state.device) (foundBy executor collectors)).1)
      (upToFailure executor (collectors.map (.of kind))) fun _ => True :=
  endsAs_collectWith kind collectors
    (fun device found => place.set device (mergeBySerial (place.get device) found).1)
    (composes_rests executor kind place).mergeList (fun device => lawful.set_get device)
    (exists_mergeList kind lawful) state

theorem endsAs_collectSingle [Recordable α] [LawfulRecordable α] [DecidableEq α]
    [Inhabited α] (kind : ComponentKind) {place : Place α} (lawful : place.Lawful)
    (collector : Option (Collector α)) (state : State) :
    EndsAs executor (collectSingle executor kind collector place) state
      (if (firstFailure executor (collector.toList.map (.of kind))).isSome then state.device
        else place.set state.device (combineFound executor collector (place.get state.device)))
      (upToFailure executor (collector.toList.map (.of kind))) fun _ => True := by
  rw [← Call.map_of_asList, combineFound_eq, toldBy]
  exact endsAs_collectWith kind (collector.toList.map asList)
    (fun device found => place.set device
      ((found.filter (· ≠ default)).foldl combine (place.get device)))
    (composes_rests executor kind place).mergeSingle (fun device => lawful.set_get device)
    (exists_mergeSingle kind lawful) state

/-! ## Features of drives -/

theorem featureCalls_append (registry : Registry) (early late : List Drive) :
    registry.featureCalls (early ++ late) =
      registry.featureCalls early ++ registry.featureCalls late := by
  unfold Registry.featureCalls
  rw [List.filter_append, List.map_append]

theorem featureCalls_cons (registry : Registry) (drive : Drive) (rest : List Drive) :
    registry.featureCalls (drive :: rest) =
      registry.featureCalls [drive] ++ registry.featureCalls rest :=
  featureCalls_append registry [drive] rest

theorem featureCalls_of_nameless (registry : Registry) {drive : Drive}
    (nameless : drive.logicalName.isEmpty = true) : registry.featureCalls [drive] = [] := by
  rw [Registry.featureCalls, List.filter_cons_of_neg (by rw [nameless]; exact Bool.false_ne_true)]
  rfl

theorem featureCalls_of_named (registry : Registry) {drive : Drive}
    (named : ¬ drive.logicalName.isEmpty = true) :
    registry.featureCalls [drive] = [.of .drive (registry.featureCollector drive)] := by
  rw [Registry.featureCalls, List.filter_cons_of_pos (by simpa using named)]
  rfl

theorem endsAs_withCapabilities (registry : Registry) (drive : Drive) (state : State) :
    EndsAs executor (withCapabilities executor registry drive) state state.device
      (upToFailure executor (registry.featureCalls [drive]))
      fun merged => merged.record = registry.featured executor drive := by
  unfold withCapabilities Registry.featured
  split
  · rename_i nameless
    rw [featureCalls_of_nameless registry nameless]
    exact EndsAs.of_data rfl rfl rfl rfl
  · rename_i named
    rw [featureCalls_of_named registry named]
    refine EndsAs.quiet_bind _ (endsAs_checkCancelled state) ?_ fun _ later _ same => ?_
    · intro _
      refine (rests_ask executor .drive _).bind fun answer => ?_
      cases answer with
      | none => exact rests_pure _
      | some found => exact rests_ofExcept _ _
    · rw [← same]
      refine EndsAs.bind_quiet _
        (endsAs_ask .drive (registry.featureCollector drive) later) ?_ (fun _ => rfl) ?_
      · rintro (_ | found)
        · exact rests_pure _
        · exact rests_ofExcept _ _
      · intro _ answer last answered sameLast
        rw [← answered, ← sameLast]
        cases answer with
        | none => exact EndsAs.of_data rfl rfl rfl rfl
        | some found =>
          obtain ⟨changes, _, merges, _⟩ := mergeChanges_eq (some "Capabilities") drive
            { capabilities := .ofList found }
          dsimp only
          rw [mergeField, merges]
          exact EndsAs.of_data rfl rfl rfl rfl

theorem endsAs_collectCapabilities (registry : Registry) : ∀ (rest done : List Drive)
    (state : State), state.device.drives = done ++ rest →
    EndsAs executor (collectCapabilities executor registry done rest) state
      { state.device with drives := done ++ registry.featuredUpToFailure executor rest }
      (upToFailure executor (registry.featureCalls rest)) fun _ => True
  | [], done, state, parts => by
    have same : { state.device with drives := done ++ [] } = state.device := by
      rw [← parts]
    rw [Registry.featuredUpToFailure, same]
    exact EndsAs.of_data rfl rfl rfl trivial
  | drive :: rest, done, state, parts => by
    rw [featureCalls_cons, Registry.featuredUpToFailure]
    have first : EndsAs executor (withCapabilities executor registry drive) state _ _ _ :=
      endsAs_withCapabilities registry drive state
    refine EndsAs.bind _ _ first ?_ (fun failed => ?_) fun nowhere merged later holds same => ?_
    · intro merged
      refine (rests_write drives _).bind fun _ => ?_
      have others := (composes_rests executor .drive drives).collectCapabilities registry rest
      exact (others _).bind fun _ => rests_pure _
    · rw [if_pos failed, ← parts]
    · rw [nowhere, Option.isSome_none, if_neg Bool.false_ne_true, ← holds, ← same]
      have others := endsAs_collectCapabilities registry rest (done ++ [merged.record])
        { later with device := drives.set later.device (done ++ merged.record :: rest) }
        (List.append_cons done merged.record rest)
      rw [List.append_assoc] at others
      have whole : EndsAs executor
          (collectCapabilities executor registry (done ++ [merged.record]) rest >>= fun applied =>
            Pure.pure (merged.applied + applied))
          { later with device := drives.set later.device (done ++ merged.record :: rest) } _ _
          fun _ => True :=
        EndsAs.bind_note _ others fun applied last => ⟨merged.applied + applied, _, rfl⟩
      exact whole

theorem endsAs_features (registry : Registry) (outcome : ClassOutcome) (state : State) :
    EndsAs executor
      (read drives >>= fun known => collectCapabilities executor registry [] known >>=
        fun changes => do
          update fun state =>
            { state with
              summary :=
                { state.summary with
                  capabilityChanges := state.summary.capabilityChanges + changes } }
          return outcome)
      state
      { state.device with
        drives := registry.featuredUpToFailure executor state.device.drives }
      (upToFailure executor (registry.featureCalls state.device.drives)) fun _ => True := by
  have features : EndsAs executor
      (collectCapabilities executor registry [] state.device.drives) state _ _ fun _ => True :=
    endsAs_collectCapabilities registry state.device.drives [] state rfl
  have whole : EndsAs executor
      (collectCapabilities executor registry [] state.device.drives >>= fun changes => do
        update fun state =>
          { state with
            summary :=
              { state.summary with
                capabilityChanges := state.summary.capabilityChanges + changes } }
        return outcome) state _ _ fun _ => True :=
    EndsAs.bind_note _ features fun changes later => ⟨outcome, _, rfl⟩
  exact whole

/-! ## Classes of components -/

/-- The work on the drives when everybody has answered. -/
theorem collected_drive (registry : Registry) (config : Config)
    (nowhere : firstFailure executor (registry.classCalls .drive) = none) (device : Device) :
    registry.collected config executor device .drive =
      { device with
        drives :=
          if config.collectDriveCapabilities = true then
            registry.featuredUpToFailure executor
              (registry.joinedDrives executor device.drives)
          else registry.joinedDrives executor device.drives } := by
  rw [Registry.collected, if_neg (Option.not_isSome_iff_eq_none.2 nowhere)]
  by_cases asked : config.collectDriveCapabilities = true
  · have both : ComponentKind.drive = .drive ∧ config.collectDriveCapabilities = true :=
      ⟨rfl, asked⟩
    rw [if_pos both, if_pos asked]
  · have unasked : ¬ (ComponentKind.drive = .drive ∧ config.collectDriveCapabilities = true) :=
      fun both => asked both.2
    rw [if_neg unasked, Registry.completed, if_neg asked, if_neg asked]

theorem endsAs_collectDrives (config : Config) (registry : Registry) (state : State) :
    EndsAs executor (collectDrives config executor registry) state
      (registry.collected config executor state.device .drive)
      (upToFailure executor (registry.calls config
        (registry.joinedDrives executor state.device.drives) .drive)) fun _ => True := by
  have list : EndsAs executor (collectList executor .drive registry.drives drives) state
      (if (firstFailure executor (registry.classCalls .drive)).isSome then state.device
        else { state.device with
          drives := registry.joinedDrives executor state.device.drives })
      (upToFailure executor (registry.classCalls .drive)) fun _ => True :=
    endsAs_collectList .drive lawful_drives registry.drives state
  have stopped : (firstFailure executor (registry.classCalls .drive)).isSome →
      registry.collected config executor state.device .drive =
        if (firstFailure executor (registry.classCalls .drive)).isSome then state.device
        else { state.device with
          drives := registry.joinedDrives executor state.device.drives } := by
    intro failed
    rw [Registry.collected, if_pos failed, if_pos failed]
  unfold collectDrives
  by_cases asked : config.collectDriveCapabilities = true
  · rw [Registry.calls, if_pos ⟨rfl, asked⟩, asked]
    refine EndsAs.bind _ _ list (fun outcome => ?_) stopped fun nowhere outcome later _ same => ?_
    · refine (rests_read drives).bind fun known => ?_
      have features := (composes_rests executor .drive drives).collectCapabilities registry
      refine (features known []).bind fun changes => ?_
      exact Rests.bind (fun _ _ => rfl) fun _ => rests_pure outcome
    · rw [if_neg (Option.not_isSome_iff_eq_none.2 nowhere)] at same
      rw [collected_drive registry config nowhere, if_pos asked]
      have features : EndsAs executor _ later _ _ fun _ => True :=
        endsAs_features registry outcome later
      rw [same] at features
      exact features
  · rw [Registry.calls, if_neg fun both => asked both.2, Bool.eq_false_iff.2 asked]
    refine EndsAs.bind_quiet _ list (fun outcome => rests_pure outcome) stopped
      fun nowhere outcome later _ same => ?_
    rw [if_neg (Option.not_isSome_iff_eq_none.2 nowhere)] at same
    rw [collected_drive registry config nowhere, if_neg asked]
    exact EndsAs.of_data rfl same rfl trivial

/-- The work on any other class is over when everybody has answered and all is merged. -/
theorem collected_of_ne_drive (registry : Registry) (config : Config) (device : Device)
    {kind : ComponentKind} (other : kind ≠ .drive) :
    registry.collected config executor device kind =
      if (firstFailure executor (registry.classCalls kind)).isSome then device
      else registry.completed config executor device kind := by
  have unasked : ¬ (kind = .drive ∧ config.collectDriveCapabilities = true) :=
    fun both => other both.1
  rw [Registry.collected, if_neg unasked]

theorem calls_of_ne_drive (registry : Registry) (config : Config) (drives : List Drive)
    {kind : ComponentKind} (other : kind ≠ .drive) :
    registry.calls config drives kind = registry.classCalls kind :=
  if_neg fun both => other both.1

theorem endsAs_collectKind (config : Config) (registry : Registry) (kind : ComponentKind)
    (state : State) :
    EndsAs executor (collectKind config executor registry kind) state
      (registry.collected config executor state.device kind)
      (upToFailure executor (registry.calls config
        (registry.joinedDrives executor state.device.drives) kind)) fun _ => True := by
  cases kind with
  | drive => exact endsAs_collectDrives config registry state
  | nic =>
    rw [collected_of_ne_drive registry config state.device (by decide),
      calls_of_ne_drive registry config _ (by decide)]
    exact endsAs_collectList .nic lawful_nics registry.nics.toList state
  | storageController =>
    rw [collected_of_ne_drive registry config state.device (by decide),
      calls_of_ne_drive registry config _ (by decide)]
    exact endsAs_collectList .storageController lawful_storageControllers
      registry.storageControllers state
  | bmc =>
    rw [collected_of_ne_drive registry config state.device (by decide),
      calls_of_ne_drive registry config _ (by decide)]
    exact endsAs_collectSingle .bmc lawful_bmc registry.bmc state
  | bios =>
    rw [collected_of_ne_drive registry config state.device (by decide),
      calls_of_ne_drive registry config _ (by decide)]
    exact endsAs_collectSingle .bios lawful_bios registry.bios state
  | cpld =>
    rw [collected_of_ne_drive registry config state.device (by decide),
      calls_of_ne_drive registry config _ (by decide)]
    exact endsAs_collectSingle .cpld lawful_cpld registry.cpld state

theorem endsAs_collectKinds (config : Config) (registry : Registry) :
    ∀ (kinds : List ComponentKind) (state : State),
      EndsAs executor (collectKinds config executor registry kinds) state
        (registry.course config executor state.device kinds)
        (upToFailure executor (registry.callsFrom config executor state.device kinds))
        fun _ => True
  | [], state => EndsAs.of_data rfl rfl rfl trivial
  | kind :: kinds, state => by
    have rests := rests_collectKinds config executor registry kinds
    refine EndsAs.quiet_bind _ (endsAs_checkCancelled state) ?_ fun _ begun _ same => ?_
    · intro _
      refine (rests_collectKind config executor registry kind).bind fun outcome => ?_
      exact Rests.bind (fun _ _ => rfl) fun _ => rests
    · have first : EndsAs executor (collectKind config executor registry kind) begun _ _
          fun _ => True := endsAs_collectKind config registry kind begun
      rw [same] at first
      refine EndsAs.bind _ _ first (fun _ => Rests.bind (fun _ _ => rfl) fun _ => rests)
        (fun failed => if_pos failed) fun nowhere outcome later _ sameLater => ?_
      have unfailed : registry.course config executor state.device (kind :: kinds) =
          registry.course config executor (registry.collected config executor state.device kind)
            kinds := by
        rw [Registry.course, nowhere]
        rfl
      rw [unfailed, ← sameLater]
      exact endsAs_collectKinds config registry kinds
        { later with
          summary :=
            { later.summary with classes := later.summary.classes ++ [(kind, outcome)] } }

/-! ## The whole pass -/

theorem exists_inventory (registry : Registry) (config : Config) :
    ∃ baseline, (registry.withDefaults config).inventory = some baseline := by
  unfold Registry.withDefaults
  cases registry.inventory with
  | none => exact ⟨_, rfl⟩
  | some baseline => exact ⟨baseline, rfl⟩

/-- The baseline calls one collector. What it found is absorbed by the server. -/
theorem baseline_eq (collector : Collector Device) (state : State) :
    baseline executor collector state =
      match collector.probe.perform executor state.host with
      | (.data found, host) =>
        (.data (), { state with device := state.device.absorbed found, host })
      | (.failure error, host) => (.failure (.collector "inventory" error), { state with host })
      | (.fault reason, host) => (.fault reason, { state with host }) := by
  simp only [baseline, Bind.bind, Pass.bind, Pass.state, perform]
  cases collector.probe.perform executor state.host with
  | mk answer host =>
    cases answer with
    | data found =>
      dsimp only
      rw [Device.absorb_eq]
      rfl
    | failure error => rfl
    | fault reason => rfl

theorem run_eq {registry : Registry} {collector : Collector Device} (config : Config)
    (there : registry.inventory = some collector) (state : State) :
    run config executor registry state =
      match collector.probe.perform executor state.host with
      | (.data found, host) =>
        afterBaseline config executor registry
          { state with device := state.device.absorbed found, host }
      | (.failure error, host) => (.failure (.collector "inventory" error), { state with host })
      | (.fault reason, host) => (.fault reason, { state with host }) := by
  rw [run_of_inventory config executor there]
  cases performed : collector.probe.perform executor state.host with
  | mk answer host =>
    have based : baseline executor collector state = _ := baseline_eq collector state
    rw [performed] at based
    cases answer with
    | data found => exact bind_of_data based
    | failure error => exact bind_of_failure based
    | fault reason => exact bind_of_fault based

theorem endsAs_afterBaseline (config : Config) (registry : Registry) (state : State) :
    EndsAs executor (afterBaseline config executor registry) state
      (registry.finished config executor state.device)
      (upToFailure executor
        (registry.callsFrom config executor state.device ComponentKind.all)) fun _ => True := by
  refine EndsAs.bind_quiet _
    (endsAs_collectKinds config registry ComponentKind.all state) (fun _ _ _ => rfl)
    (fun failed => if_pos failed) fun nowhere _ later _ same => ?_
  have named : registry.finished config executor state.device = later.device.withModels := by
    rw [Registry.finished, nowhere, same]
    rfl
  exact EndsAs.of_data rfl named.symm rfl trivial

/-- The baseline of a pass that nobody cancels. -/
theorem performed_of_uncancelled {config : Config} {registry : Registry}
    {collector : Collector Device} {state : State}
    (there : registry.inventory = some collector)
    (uncancelled : (run config executor registry state).2.host.cancelled = false) :
    collector.probe.perform executor state.host =
      (collector.answer executor,
        { state.host with
          commands := state.host.commands ++ collector.commands executor }) := by
  refine collector.probe.perform_of_uncancelled executor ?_
  rw [run_eq config there] at uncancelled
  cases performed : collector.probe.perform executor state.host with
  | mk answer later =>
    rw [performed] at uncancelled
    cases answer with
    | data found => exact (rests_afterBaseline config executor registry).uncancelled uncancelled
    | failure error => exact uncancelled
    | fault reason => exact uncancelled

section

variable {config : Config} {registry : Registry} {collector : Collector Device}
  {device : Device} {host : Run}
  (there : (registry.withDefaults config).inventory = some collector)
  (uncancelled : (collect config executor registry (some device) host).host.cancelled = false)

include there uncancelled

/-- Nobody but the baseline is called if it fails, and the server stays as it is. -/
theorem collect_of_baseline_failure {error : Error}
    (answered : collector.answer executor = .failure error) :
    collect config executor registry (some device) host =
      ⟨.failure (.collector "inventory" error), some device,
        { host with commands := host.commands ++ collector.commands executor }⟩ := by
  have performed := performed_of_uncancelled there uncancelled
  rw [collect, run_eq config there, performed, answered]

/-- A baseline that breaks down ends the pass as well. -/
theorem collect_of_baseline_fault {reason : String}
    (answered : collector.answer executor = .fault reason) :
    collect config executor registry (some device) host =
      ⟨.fault reason, some device,
        { host with commands := host.commands ++ collector.commands executor }⟩ := by
  have performed := performed_of_uncancelled there uncancelled
  rw [collect, run_eq config there, performed, answered]

/-- What was found is absorbed, and then the classes of components are taken in turn. -/
theorem collect_of_found {found : Device} (answered : collector.answer executor = .data found) :
    Ended executor
      { host with commands := host.commands ++ collector.commands executor }
      ((registry.withDefaults config).finished config executor (device.absorbed found))
      (upToFailure executor ((registry.withDefaults config).callsFrom config executor
        (device.absorbed found) ComponentKind.all)) (fun _ => True)
      (run config executor (registry.withDefaults config) { device, host }) := by
  have performed := performed_of_uncancelled there uncancelled
  change (run config executor (registry.withDefaults config) _).2.host.cancelled = false
    at uncancelled
  rw [run_eq config there, performed, answered] at uncancelled ⊢
  exact endsAs_afterBaseline config (registry.withDefaults config) _ uncancelled

end

end

end Pass

end ServerInventory
