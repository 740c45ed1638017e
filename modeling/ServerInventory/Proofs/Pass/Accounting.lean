import ServerInventory.Proofs.Pass.Independence

/-!
What a pass tells of a class of components. Its outcome is settled by what the collectors of
the class answer, one after the other (`answersOf`), and by the serial numbers of the parts
that the server has, which no pass changes: whether anybody was asked, whether anybody
answered, how much was found and what of it met no part (`ClassOutcome.TellsOf`). A class
has its outcome in the summary once (`Pass.tells_of_collect`).
-/

namespace ServerInventory

/-! ## Answers of a class -/

section

variable {α : Type} (executor : Executor)

/-- The answers of collectors who are asked one after the other. If one of them cancels the
pass, it is cancelled for those after it. -/
def answersOf : List (Collector (List α)) → Run → List (Answer (List α))
  | [], _ => []
  | collector :: collectors, host =>
    (collector.probe.perform executor host).1 ::
      answersOf collectors (collector.probe.perform executor host).2

/-- All that was found, in the order of the answers. -/
def foundIn (answers : List (Answer (List α))) : List α :=
  (answers.filterMap Answer.data?).flatten

theorem foundIn_cons (answer : Answer (List α)) (answers : List (Answer (List α))) :
    foundIn (answer :: answers) = answer.data?.getD [] ++ foundIn answers := by
  unfold foundIn
  rw [List.filterMap_cons]
  cases answer.data? <;> rfl

/-- What is answered depends on the host only in whether the pass was cancelled. -/
theorem answersOf_alike : ∀ (collectors : List (Collector (List α))) {first second : Run},
    first.cancelled = second.cancelled →
    answersOf executor collectors first = answersOf executor collectors second
  | [], _, _, _ => rfl
  | collector :: collectors, first, second, same => by
    obtain ⟨sameAnswer, cancelled⟩ := collector.probe.perform_alike executor same
    rw [answersOf, answersOf, sameAnswer, answersOf_alike collectors cancelled]

/-- Somebody who is asked for one record finds no more than that. -/
theorem length_foundIn_asList (collector : Option (Collector α)) (host : Run) :
    (foundIn (answersOf executor (collector.toList.map Pass.asList) host)).length ≤ 1 := by
  cases collector with
  | none => exact Nat.zero_le 1
  | some collector =>
    change (foundIn [((Pass.asList collector).probe.perform executor host).1]).length ≤ 1
    rw [Pass.asList, Probe.perform_bind]
    cases collector.probe.perform executor host with
    | mk answer after =>
      rw [foundIn_cons]
      cases answer <;> simp [foundIn, Answer.data?, Probe.perform, pure]

end

/-- An answer that is no error is a breakdown if it brings no data. -/
theorem Answer.isSome_fault?_iff {α : Type} {answer : Answer α}
    (unfailed : answer.failure? = none) :
    answer.fault?.isSome ↔ answer.data? = none := by
  cases answer with
  | data value => exact iff_of_false nofun nofun
  | failure error => cases unfailed
  | fault reason => exact iff_of_true rfl rfl

theorem Answer.not_fault_of_data {α : Type} {answer : Answer α} (data : answer.data?.isSome) :
    ¬ answer.fault?.isSome := by
  cases answer with
  | data value => exact nofun
  | _ => cases data

/-! ## Outcomes -/

/-- What the outcome of a class tells of the answers of its collectors: whether anybody was
asked, whether everybody broke down, whether any fragment was found that counts, and else how
many were found and which serial numbers are reported as unmatched. A class is not begun once
the pass is cancelled, so its answers are those on a fresh host. -/
structure ClassOutcome.TellsOf {α : Type} (outcome : ClassOutcome) (executor : Executor)
    (collectors : List (Collector (List α))) (counts : α → Prop) (unmatched : List String) :
    Prop where
  skipped : outcome = .skipped ↔ collectors = []
  faulted : outcome = .faulted ↔
    collectors ≠ [] ∧ ∀ answer ∈ answersOf executor collectors {}, answer.fault?.isSome
  empty : outcome = .empty ↔
    (∃ answer ∈ answersOf executor collectors {}, answer.data?.isSome) ∧
      ∀ fragment ∈ foundIn (answersOf executor collectors {}), ¬ counts fragment
  merged : ∀ fragments applied others, outcome = .merged fragments applied others →
    fragments = (foundIn (answersOf executor collectors {})).length ∧ others = unmatched

/-- What is told of a class of parts. All fragments count, and those are unmatched that report
on none of the parts. -/
def ClassOutcome.TellsOfParts {α : Type} [Identified α] (outcome : ClassOutcome)
    (executor : Executor) (collectors : List (Collector (List α))) (parts : List α) : Prop :=
  outcome.TellsOf executor collectors (fun _ => True)
    ((strangers parts (foundIn (answersOf executor collectors {}))).map Identified.serial)

/-- What is told of a class with one component. A record counts if it says anything, and
none is unmatched. -/
def ClassOutcome.TellsOfOne {α : Type} [Inhabited α] (outcome : ClassOutcome)
    (executor : Executor) (collector : Option (Collector α)) : Prop :=
  outcome.TellsOf executor (collector.toList.map Pass.asList) (· ≠ default) []

namespace Pass

variable {α β : Type} {executor : Executor} {kind : ComponentKind} {state later : State}

/-! ## Asking -/

theorem ask_data {collector : Collector α} {found : Option α}
    (run : ask executor kind collector state = (.data found, later)) :
    (collector.probe.perform executor state.host).1.data? = found ∧
      (collector.probe.perform executor state.host).1.failure? = none ∧
      later.host = (collector.probe.perform executor state.host).2 := by
  rw [ask_eq] at run
  cases performed : collector.probe.perform executor state.host with
  | mk answer host =>
    rw [performed] at run
    cases answer <;> cases run <;> exact ⟨rfl, rfl, rfl⟩

/-- All collectors of a class have answered without an error. What they found is put together,
and those who found something are counted. -/
theorem gather_data : ∀ {collectors : List (Collector (List α))} {state later : State}
    {completed : Nat} {found : List α},
    gather executor kind collectors state = (.data (completed, found), later) →
    found = foundIn (answersOf executor collectors state.host) ∧
      (completed = 0 ↔
        ∀ answer ∈ answersOf executor collectors state.host, answer.data? = none) ∧
      ∀ answer ∈ answersOf executor collectors state.host, answer.failure? = none
  | [], state, later, completed, found, run => by
    cases run
    exact ⟨rfl, iff_of_true rfl (List.forall_mem_nil _), List.forall_mem_nil _⟩
  | collector :: collectors, state, later, completed, found, run => by
    obtain ⟨answer, between, asked, run⟩ := exists_of_bind_data run
    obtain ⟨data, unfailed, sameHost⟩ := ask_data asked
    rw [answersOf, foundIn_cons, List.forall_mem_cons, List.forall_mem_cons, data, ← sameHost]
    cases answer with
    | none =>
      obtain ⟨same, none, others⟩ := gather_data run
      exact ⟨same, none.trans (and_iff_right rfl).symm, unfailed, others⟩
    | some fragments =>
      obtain ⟨⟨count, rest⟩, last, gathered, run⟩ := exists_of_bind_data run
      cases run
      obtain ⟨same, _, others⟩ := gather_data gathered
      exact ⟨congrArg (fragments ++ ·) same, iff_of_false (Nat.succ_ne_zero count) nofun,
        unfailed, others⟩

/-- The work on a class is over at once if nobody can be asked. If everybody breaks down
nothing is merged, and else what was found. -/
theorem collectWith_data {collectors : List (Collector (List α))}
    {mergeFound : List α → Pass ClassOutcome} {outcome : ClassOutcome}
    (run : collectWith executor kind collectors mergeFound state = (.data outcome, later)) :
    (collectors = [] ∧ outcome = .skipped) ∨
      (collectors ≠ [] ∧ outcome = .faulted ∧
        ∀ answer ∈ answersOf executor collectors state.host, answer.fault?.isSome) ∨
      ((∃ answer ∈ answersOf executor collectors state.host, answer.data?.isSome) ∧
        ∃ between, between.device = state.device ∧
          mergeFound (foundIn (answersOf executor collectors state.host)) between =
            (.data outcome, later)) := by
  unfold collectWith at run
  split at run
  · rename_i nobody
    cases run
    exact .inl ⟨List.isEmpty_iff.1 nobody, rfl⟩
  · rename_i somebody
    have asked : collectors ≠ [] := fun nobody => somebody (List.isEmpty_iff.2 nobody)
    obtain ⟨⟨completed, found⟩, between, gathered, run⟩ := exists_of_bind_data run
    obtain ⟨rfl, none, unfailed⟩ := gather_data gathered
    have sameDevice := (still_gather executor kind collectors).device_eq gathered
    dsimp only at run
    split at run
    · rename_i broken
      cases run
      refine .inr (.inl ⟨asked, rfl, fun answer member => ?_⟩)
      exact (Answer.isSome_fault?_iff (unfailed answer member)).2 (none.1 broken answer member)
    · rename_i unbroken
      refine .inr (.inr ⟨?_, between, sameDevice, run⟩)
      by_contra silent
      refine unbroken (none.2 fun answer member => ?_)
      by_contra data
      exact silent ⟨answer, member, Option.isSome_iff_ne_none.2 data⟩

/-- The outcome of a class tells of the answers of its collectors if it does so of what was
found, when anybody found something. -/
theorem tellsOf_collectWith {collectors : List (Collector (List α))}
    {mergeFound : List α → Pass ClassOutcome} {outcome : ClassOutcome} {counts : α → Prop}
    {unmatched : List String} (uncancelled : state.host.cancelled = false)
    (run : collectWith executor kind collectors mergeFound state = (.data outcome, later))
    (merges : ∀ between, between.device = state.device →
      mergeFound (foundIn (answersOf executor collectors {})) between = (.data outcome, later) →
      (outcome = .empty ∧ ∀ fragment ∈ foundIn (answersOf executor collectors {}),
          ¬ counts fragment) ∨
        (∃ applied, outcome =
          .merged (foundIn (answersOf executor collectors {})).length applied unmatched) ∧
        ∃ fragment ∈ foundIn (answersOf executor collectors {}), counts fragment) :
    outcome.TellsOf executor collectors counts unmatched := by
  have fresh : answersOf executor collectors state.host = answersOf executor collectors {} :=
    answersOf_alike executor collectors uncancelled
  have cases := collectWith_data run
  rw [fresh] at cases
  rcases cases with ⟨rfl, rfl⟩ | ⟨asked, rfl, broken⟩ | ⟨⟨answer, member, data⟩, between, same, run⟩
  · refine ⟨iff_of_true rfl rfl, iff_of_false nofun fun all => all.1 rfl,
      iff_of_false nofun ?_, fun _ _ _ => nofun⟩
    rintro ⟨⟨answer, member, data⟩, -⟩
    cases member
  · refine ⟨iff_of_false nofun asked, iff_of_true rfl ⟨asked, broken⟩,
      iff_of_false nofun ?_, fun _ _ _ => nofun⟩
    rintro ⟨⟨answer, member, data⟩, -⟩
    exact Answer.not_fault_of_data data (broken answer member)
  · have asked : collectors ≠ [] := by
      rintro rfl
      cases member
    have unbroken : ¬ ∀ answer ∈ answersOf executor collectors {}, answer.fault?.isSome :=
      fun broken => Answer.not_fault_of_data data (broken answer member)
    rcases merges between same run with ⟨rfl, silent⟩ | ⟨⟨applied, rfl⟩, fragment, inside, telling⟩
    · exact ⟨iff_of_false nofun asked, iff_of_false nofun fun all => unbroken all.2,
        iff_of_true rfl ⟨⟨answer, member, data⟩, silent⟩, fun _ _ _ => nofun⟩
    · refine ⟨iff_of_false nofun asked, iff_of_false nofun fun all => unbroken all.2,
        iff_of_false nofun fun none => none.2 fragment inside telling, ?_⟩
      rintro _ _ _ same
      cases same
      exact ⟨rfl, rfl⟩

theorem tellsOf_collectList [Identified α] [LawfulIdentified α] {place : Place (List α)}
    (lawful : place.Lawful) {collectors : List (Collector (List α))} {outcome : ClassOutcome}
    (uncancelled : state.host.cancelled = false)
    (run : collectList executor kind collectors place state = (.data outcome, later)) :
    outcome.TellsOfParts executor collectors (place.get state.device) := by
  refine tellsOf_collectWith uncancelled run fun between same merged => ?_
  rw [mergeList_eq kind lawful, same] at merged
  obtain rfl := Answer.data.inj (Prod.mk.inj merged).1
  cases foundIn (answersOf executor collectors {}) with
  | nil => exact .inl ⟨rfl, List.forall_mem_nil _⟩
  | cons fragment others =>
    exact .inr ⟨⟨_, rfl⟩, fragment, List.mem_cons_self, trivial⟩

theorem tellsOf_collectSingle [Recordable α] [LawfulRecordable α] [DecidableEq α]
    [Inhabited α] {place : Place α} (lawful : place.Lawful) {collector : Option (Collector α)}
    {outcome : ClassOutcome} (uncancelled : state.host.cancelled = false)
    (run : collectSingle executor kind collector place state = (.data outcome, later)) :
    outcome.TellsOfOne executor collector := by
  refine tellsOf_collectWith uncancelled run fun between same merged => ?_
  rw [mergeSingle_eq kind lawful] at merged
  obtain rfl := Answer.data.inj (Prod.mk.inj merged).1
  have few := length_foundIn_asList executor collector {}
  cases found : foundIn (answersOf executor (collector.toList.map asList) {}) with
  | nil => exact .inl ⟨rfl, List.forall_mem_nil _⟩
  | cons fragment others =>
    rw [found, List.length_cons] at few
    obtain rfl : others = [] := List.length_eq_zero_iff.1 (by omega)
    by_cases silent : fragment = default
    · have nothing : [fragment].filter (· ≠ default) = [] :=
        List.filter_cons_of_neg fun telling => of_decide_eq_true telling silent
      rw [nothing]
      exact .inl ⟨rfl, fun other member => not_not_intro (List.mem_singleton.1 member ▸ silent)⟩
    · have telling : [fragment].filter (· ≠ default) = [fragment] :=
        List.filter_cons_of_pos (decide_eq_true silent)
      rw [telling]
      exact .inr ⟨⟨_, rfl⟩, fragment, List.mem_cons_self, silent⟩

end Pass

/-! ## Serial numbers stay -/

section

variable {α : Type} [Identified α]

/-- Whether a fragment reports on any of some parts is told by their serial numbers alone. -/
theorem any_reportsOn_congr {known parts : List α}
    (same : parts.map Identified.serial = known.map Identified.serial) (fragment : α) :
    parts.any (reportsOn fragment) = known.any (reportsOn fragment) := by
  have told : ∀ list : List α, list.any (reportsOn fragment) =
      (list.map Identified.serial).any fun serial => Identified.serial fragment ≠ "" ∧
        Text.lowercase (Identified.serial fragment) = Text.lowercase serial := by
    intro list
    rw [List.any_map]
    rfl
  rw [told, told, same]

theorem strangers_congr {known parts : List α}
    (same : parts.map Identified.serial = known.map Identified.serial) (collected : List α) :
    strangers parts collected = strangers known collected := by
  unfold strangers
  simp only [any_reportsOn_congr same]

theorem PartsKeep.serials_eq {before after : List α} (kept : PartsKeep before after)
    (length : after.length = before.length) :
    after.map Identified.serial = before.map Identified.serial := by
  refine List.ext_getElem (by rw [List.length_map, List.length_map, length]) ?_
  intro index _ inside
  rw [List.length_map] at inside
  obtain ⟨later, found, serial, _⟩ := kept index before[index] (List.getElem?_eq_getElem inside)
  obtain ⟨_, rfl⟩ := List.getElem?_eq_some_iff.1 found
  rw [List.getElem_map, List.getElem_map, serial]

end

/-- The lists of parts are as long as before, with the same serial numbers in the same
places. -/
structure Device.SameParts (before after : Device) : Prop where
  drives : after.drives.map Identified.serial = before.drives.map Identified.serial
  nics : after.nics.map Identified.serial = before.nics.map Identified.serial
  storageControllers : after.storageControllers.map Identified.serial =
    before.storageControllers.map Identified.serial

namespace Device.SameParts

variable {first second third : Device}

theorem refl (device : Device) : device.SameParts device :=
  ⟨rfl, rfl, rfl⟩

theorem symm (same : first.SameParts second) : second.SameParts first :=
  ⟨same.drives.symm, same.nics.symm, same.storageControllers.symm⟩

theorem trans (early : first.SameParts second) (late : second.SameParts third) :
    first.SameParts third :=
  ⟨late.drives.trans early.drives, late.nics.trans early.nics,
    late.storageControllers.trans early.storageControllers⟩

end Device.SameParts

namespace Pass

variable {α : Type} {executor : Executor} {kind : ComponentKind} {state : State}

/-- Before anything is merged the work on a class leaves the server alone. -/
theorem device_collectWith (property : Device → Prop) (collectors : List (Collector (List α)))
    {mergeFound : List α → Pass ClassOutcome} (before : property state.device)
    (merges : ∀ found between, between.device = state.device →
      property (mergeFound found between).2.device) :
    property (collectWith executor kind collectors mergeFound state).2.device := by
  unfold collectWith
  split
  · exact before
  · have still := still_gather executor kind collectors
    refine state_bind (property ·.device) ?_ fun found later run unchanged => ?_
    · rw [still state]
      exact before
    · obtain ⟨completed, found⟩ := found
      dsimp only
      split
      · exact unchanged
      · exact merges found later (still.device_eq run)

theorem serials_collectList [Identified α] [LawfulIdentified α] {place : Place (List α)}
    (lawful : place.Lawful) (collectors : List (Collector (List α))) (state : State) :
    (place.get (collectList executor kind collectors place state).2.device).map
        Identified.serial = (place.get state.device).map Identified.serial := by
  refine device_collectWith
    (fun device => (place.get device).map Identified.serial =
      (place.get state.device).map Identified.serial) collectors rfl fun found between same => ?_
  have serials : Identified.serial ∘ joined found = Identified.serial :=
    funext fun part => serial_joined found part
  rw [mergeList_eq kind lawful, same]
  dsimp only
  rw [lawful.get_set, mergeBySerial_eq, List.map_map, serials]

theorem serials_collectDrives (config : Config) (executor : Executor) (registry : Registry)
    (state : State) :
    (collectDrives config executor registry state).2.device.drives.map Identified.serial =
      state.device.drives.map Identified.serial := by
  have list : (collectList executor .drive registry.drives drives state).2.device.drives.map
      Identified.serial = state.device.drives.map Identified.serial :=
    serials_collectList lawful_drives registry.drives state
  refine state_bind (·.device.drives.map Identified.serial =
    state.device.drives.map Identified.serial) list fun outcome later _ same => ?_
  split
  · have kept := keeps_collectCapabilities executor registry later.device.drives [] later rfl
    have names := names_collectCapabilities executor registry later.device.drives [] later rfl
    have length := congrArg List.length names
    rw [List.length_map, List.length_map, List.nil_append] at length
    rw [read_bind]
    exact state_bind (·.device.drives.map Identified.serial =
      state.device.drives.map Identified.serial)
      ((kept.drives.serials_eq length).trans same) fun _ _ _ unchanged => unchanged
  · exact same

/-- However the work on a class ends, the lists of parts stay as long as they are. -/
theorem sameParts_collectKind (config : Config) (executor : Executor) (registry : Registry)
    (kind : ComponentKind) (state : State) :
    state.device.SameParts (collectKind config executor registry kind state).2.device := by
  have others : ∀ other, other ≠ kind →
      state.device.SameFor (collectKind config executor registry kind state).2.device other :=
    fun other different => sameFor_collectKind config executor registry different state
  have drives : (collectKind config executor registry kind state).2.device.drives.map
      Identified.serial = state.device.drives.map Identified.serial := by
    by_cases own : kind = .drive
    · rw [own]
      exact serials_collectDrives config executor registry state
    · exact congrArg _ (others .drive (Ne.symm own)).symm
  have nics : (collectKind config executor registry kind state).2.device.nics.map
      Identified.serial = state.device.nics.map Identified.serial := by
    by_cases own : kind = .nic
    · rw [own]
      exact serials_collectList lawful_nics registry.nics.toList state
    · exact congrArg _ (others .nic (Ne.symm own)).symm
  have controllers :
      (collectKind config executor registry kind state).2.device.storageControllers.map
        Identified.serial = state.device.storageControllers.map Identified.serial := by
    by_cases own : kind = .storageController
    · rw [own]
      exact serials_collectList lawful_storageControllers registry.storageControllers state
    · exact congrArg _ (others .storageController (Ne.symm own)).symm
  exact ⟨drives, nics, controllers⟩

theorem sameParts_collectKinds (config : Config) (executor : Executor) (registry : Registry)
    (kinds : List ComponentKind) (state : State) :
    state.device.SameParts (collectKinds config executor registry kinds state).2.device :=
  kept_collectKinds config executor registry
    (fun early late => early.device.SameParts late.device) (fun state => .refl state.device)
    (fun _ _ _ => Device.SameParts.trans) (fun state _ _ => .refl state.device) kinds state
    fun kind _ state => sameParts_collectKind config executor registry kind state

/-! ## The whole pass -/

theorem tellsOf_collectDrives {config : Config} {registry : Registry} {outcome : ClassOutcome}
    {later : State} (uncancelled : state.host.cancelled = false)
    (run : collectDrives config executor registry state = (.data outcome, later)) :
    outcome.TellsOfParts executor registry.drives state.device.drives := by
  obtain ⟨told, between, list, run⟩ := exists_of_bind_data run
  have tells := tellsOf_collectList lawful_drives uncancelled list
  split at run
  · obtain ⟨_, _, _, run⟩ := exists_of_bind_data run
    obtain ⟨_, _, _, run⟩ := exists_of_bind_data run
    cases run
    exact tells
  · cases run
    exact tells

end Pass

theorem ClassOutcome.TellsOfParts.congr {α : Type} [Identified α] {outcome : ClassOutcome}
    {executor : Executor} {collectors : List (Collector (List α))} {known parts : List α}
    (tells : outcome.TellsOfParts executor collectors known)
    (same : parts.map Identified.serial = known.map Identified.serial) :
    outcome.TellsOfParts executor collectors parts := by
  unfold TellsOfParts
  rw [strangers_congr same]
  exact tells

/-- What a summary tells of the collectors of a registry and the server that was left: the
classes in their order, and of each what its outcome tells. -/
structure Summary.Tells (summary : Summary) (executor : Executor) (registry : Registry)
    (device : Device) : Prop where
  classes : summary.classes.map Prod.fst = ComponentKind.all
  drives : ∃ outcome, summary.outcome? .drive = some outcome ∧
    outcome.TellsOfParts executor registry.drives device.drives
  nics : ∃ outcome, summary.outcome? .nic = some outcome ∧
    outcome.TellsOfParts executor registry.nics.toList device.nics
  storageControllers : ∃ outcome, summary.outcome? .storageController = some outcome ∧
    outcome.TellsOfParts executor registry.storageControllers device.storageControllers
  bmc : ∃ outcome, summary.outcome? .bmc = some outcome ∧
    outcome.TellsOfOne executor registry.bmc
  bios : ∃ outcome, summary.outcome? .bios = some outcome ∧
    outcome.TellsOfOne executor registry.bios
  cpld : ∃ outcome, summary.outcome? .cpld = some outcome ∧
    outcome.TellsOfOne executor registry.cpld

namespace Pass

variable {config : Config} {executor : Executor} {registry : Registry}

/-- In a pass that comes to its end the work on a class leaves the serial numbers of its parts
as they are in the end. -/
theorem WorkedOn.sameParts {kind : ComponentKind} {based last : Device} {outcome : ClassOutcome}
    {start finish : State}
    (workedOn : WorkedOn config executor registry kind based outcome last start finish) :
    start.device.SameParts finish.device := by
  have kept := sameParts_collectKind config executor registry kind start
  rw [workedOn.worked] at kept
  exact kept

theorem tells_of_collect {device last : Device} {host : Run} {summary : Summary}
    (done : (collect config executor registry (some device) host).answer = .data summary)
    (left : (collect config executor registry (some device) host).device = some last) :
    summary.Tells executor (registry.withDefaults config) last := by
  have worked : ∀ kind, ∃ outcome start finish ended based,
      last = Device.withModels ended ∧ WorkedOn config executor (registry.withDefaults config) kind
        based outcome ended start finish ∧ summary.outcome? kind = some outcome := by
    intro kind
    obtain ⟨_, _, _, based, ended, outcome, start, finish, _, _, _, leaves, _, workedOn, told⟩ :=
      exists_collected done kind
    exact ⟨outcome, start, finish, ended, based, Option.some.inj (left.symm.trans leaves),
      workedOn, told⟩
  have classes : summary.classes.map Prod.fst = ComponentKind.all := by
    obtain ⟨baseline, there⟩ := exists_inventory registry config
    have whole : run config executor (registry.withDefaults config) { device, host } =
        (.data summary, (run config executor (registry.withDefaults config)
          { device, host }).2) := Prod.ext done rfl
    exact (accounts_of_run there rfl whole).classes
  refine ⟨classes, ?_, ?_, ?_, ?_, ?_, ?_⟩
  · obtain ⟨outcome, start, finish, ended, _, rfl, workedOn, told⟩ := worked .drive
    have same : ended.drives = finish.device.drives := workedOn.behind.symm
    refine ⟨outcome, told, (tellsOf_collectDrives workedOn.uncancelled workedOn.worked).congr ?_⟩
    exact (congrArg _ same).trans workedOn.sameParts.drives
  · obtain ⟨outcome, start, finish, ended, _, rfl, workedOn, told⟩ := worked .nic
    have same : ended.nics = finish.device.nics := workedOn.behind.symm
    have tells := tellsOf_collectList lawful_nics workedOn.uncancelled workedOn.worked
    exact ⟨outcome, told, tells.congr ((congrArg _ same).trans workedOn.sameParts.nics)⟩
  · obtain ⟨outcome, start, finish, ended, _, rfl, workedOn, told⟩ := worked .storageController
    have same : ended.storageControllers = finish.device.storageControllers :=
      workedOn.behind.symm
    have tells := tellsOf_collectList lawful_storageControllers workedOn.uncancelled
      workedOn.worked
    exact ⟨outcome, told,
      tells.congr ((congrArg _ same).trans workedOn.sameParts.storageControllers)⟩
  · obtain ⟨outcome, _, _, _, _, _, workedOn, told⟩ := worked .bmc
    exact ⟨outcome, told,
      tellsOf_collectSingle lawful_bmc workedOn.uncancelled workedOn.worked⟩
  · obtain ⟨outcome, _, _, _, _, _, workedOn, told⟩ := worked .bios
    exact ⟨outcome, told,
      tellsOf_collectSingle lawful_bios workedOn.uncancelled workedOn.worked⟩
  · obtain ⟨outcome, _, _, _, _, _, workedOn, told⟩ := worked .cpld
    exact ⟨outcome, told,
      tellsOf_collectSingle lawful_cpld workedOn.uncancelled workedOn.worked⟩

end Pass

end ServerInventory
