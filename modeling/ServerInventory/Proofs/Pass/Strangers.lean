import ServerInventory.Proofs.Pass.Accounting

/-!
Fragments that report on no part of a server. A pass reports them and merges nothing of them:
the pass with collectors who keep such fragments to themselves (`Registry.heeding`) goes the
same way and leaves the same server, and only what it tells of the classes is another
(`Pass.collect_heeding`).

For the work on one class this is shown from one and the same state. The work does not look
at what was told of the classes before it (`Pass.State.SameButTold`), so the two passes stay
side by side.
-/

namespace ServerInventory

/-! ## Collectors who keep something to themselves -/

/-- A collector who tells of what it finds only what is to be kept. -/
def Collector.keeping {α : Type} (keep : α → Bool) (collector : Collector (List α)) :
    Collector (List α) :=
  { collector with probe := do return (← collector.probe).filter keep }

theorem Collector.perform_keeping {α : Type} (executor : Executor) (keep : α → Bool)
    (collector : Collector (List α)) (host : Run) :
    (collector.keeping keep).probe.perform executor host =
      ((collector.probe.perform executor host).1.map (List.filter keep),
        (collector.probe.perform executor host).2) := by
  rw [keeping, Probe.perform_bind]
  cases collector.probe.perform executor host with
  | mk answer after => cases answer <;> rfl

/-- The registry with collectors who do not tell of fragments that report on none of the parts
of a server. -/
def Registry.heeding (registry : Registry) (device : Device) : Registry :=
  { registry with
    drives := registry.drives.map
      (·.keeping fun fragment => device.drives.any (reportsOn fragment))
    nics := registry.nics.map
      (·.keeping fun fragment => device.nics.any (reportsOn fragment))
    storageControllers := registry.storageControllers.map
      (·.keeping fun fragment => device.storageControllers.any (reportsOn fragment)) }

/-- Nobody steps in for collectors who keep something to themselves. -/
theorem Registry.withDefaults_heeding (registry : Registry) (config : Config) (device : Device) :
    ((registry.withDefaults config).heeding device).withDefaults config =
      (registry.withDefaults config).heeding device := by
  have same : ∀ {β : Type} (named usual : Option β),
      (named.or usual).or usual = named.or usual := by
    intro β named usual
    rw [Option.or_assoc, Option.or_self]
  have mapped : ∀ {β : Type} (named usual : Option β) (f : β → β),
      ((named.or usual).map f).or usual = (named.or usual).map f := by
    intro β named usual f
    cases named <;> cases usual <;> rfl
  have listed : ∀ {β : Type} (named usual : List β) (f : β → β),
      (if ((if named.isEmpty then usual else named).map f).isEmpty then usual
        else (if named.isEmpty then usual else named).map f) =
      (if named.isEmpty then usual else named).map f := by
    intro β named usual f
    cases named <;> cases usual <;> rfl
  unfold heeding withDefaults
  dsimp only
  rw [same, listed, mapped, same, same]

section

variable {α : Type} [Identified α]

/-- What reports on none of some parts makes no difference to any of them. -/
theorem joined_filter {known : List α} {part : α} (inside : part ∈ known) (collected : List α) :
    joined (collected.filter fun fragment => known.any (reportsOn fragment)) part =
      joined collected part := by
  have same : reports (collected.filter fun fragment => known.any (reportsOn fragment)) part =
      reports collected part := by
    unfold reports
    rw [List.filter_filter]
    refine List.filter_congr fun fragment _ => ?_
    cases reporting : reportsOn fragment part with
    | false => rfl
    | true => exact List.any_eq_true.2 ⟨part, inside, reporting⟩
  rw [joined, same]
  rfl

theorem mergeBySerial_filter [LawfulIdentified α] (known collected : List α) :
    (mergeBySerial known
        (collected.filter fun fragment => known.any (reportsOn fragment))).1 =
      (mergeBySerial known collected).1 := by
  rw [mergeBySerial_eq, mergeBySerial_eq]
  exact List.map_congr_left fun part inside => joined_filter inside collected

end

namespace Pass

variable {α β γ : Type} {config : Config} {executor : Executor} {registry : Registry}
  {kind : ComponentKind} {state later : State} {outcome : ClassOutcome}

/-! ## The work on one class -/

theorem gather_keeping (keep : α → Bool) : ∀ {collectors : List (Collector (List α))}
    {state later : State} {completed : Nat} {found : List α},
    gather executor kind collectors state = (.data (completed, found), later) →
    gather executor kind (collectors.map (·.keeping keep)) state =
      (.data (completed, found.filter keep), later)
  | [], state, later, completed, found, run => by
    cases run
    rfl
  | collector :: collectors, state, later, completed, found, run => by
    obtain ⟨answer, between, asked, run⟩ := exists_of_bind_data run
    have kept : ask executor kind (collector.keeping keep) state =
        (.data (answer.map (List.filter keep)), between) := by
      rw [ask_eq] at asked ⊢
      rw [collector.perform_keeping]
      cases performed : collector.probe.perform executor state.host with
      | mk answer host =>
        rw [performed] at asked
        cases answer <;> cases asked <;> rfl
    refine (bind_of_data kept).trans ?_
    cases answer with
    | none => exact gather_keeping keep run
    | some fragments =>
      obtain ⟨⟨count, rest⟩, last, gathered, run⟩ := exists_of_bind_data run
      cases run
      rw [List.filter_append]
      exact bind_of_data (gather_keeping keep gathered)

theorem exists_mergeList_filter [Identified α] [LawfulIdentified α] {place : Place (List α)}
    (lawful : place.Lawful) {found : List α}
    (run : mergeList kind place found state = (.data outcome, later)) :
    ∃ told, mergeList kind place
        (found.filter fun fragment => (place.get state.device).any (reportsOn fragment)) state =
      (.data told, later) := by
  have merged := mergeList_eq kind lawful
    (found.filter fun fragment => (place.get state.device).any (reportsOn fragment)) state
  rw [mergeBySerial_filter] at merged
  rw [mergeList_eq kind lawful] at run
  obtain ⟨-, rfl⟩ := Prod.mk.inj run
  exact ⟨_, merged⟩

/-- A class of parts comes out the same if nothing is told of what reports on none of them. -/
theorem exists_collectList_keeping [Identified α] [LawfulIdentified α] {place : Place (List α)}
    (lawful : place.Lawful) {collectors : List (Collector (List α))} {parts : List α}
    (same : parts.map Identified.serial = (place.get state.device).map Identified.serial)
    (run : collectList executor kind collectors place state = (.data outcome, later)) :
    ∃ told, collectList executor kind
        (collectors.map (·.keeping fun fragment => parts.any (reportsOn fragment))) place state =
      (.data told, later) := by
  simp only [any_reportsOn_congr same]
  unfold collectList collectWith at run ⊢
  rw [List.isEmpty_map]
  split at run
  · rename_i nobody
    rw [if_pos nobody]
    exact ⟨outcome, run⟩
  · rename_i somebody
    rw [if_neg somebody]
    obtain ⟨⟨completed, found⟩, between, gathered, run⟩ := exists_of_bind_data run
    have kept := gather_keeping
      (fun fragment => (place.get state.device).any (reportsOn fragment)) gathered
    have sameDevice := (still_gather executor kind collectors).device_eq gathered
    dsimp only at run
    split at run
    · rename_i broken
      refine ⟨outcome, ?_⟩
      rw [bind_of_data kept]
      dsimp only
      rw [if_pos broken]
      exact run
    · rename_i unbroken
      obtain ⟨told, merged⟩ := exists_mergeList_filter lawful run
      rw [sameDevice] at merged
      refine ⟨told, (bind_of_data kept).trans ?_⟩
      dsimp only
      rw [if_neg unbroken]
      exact merged

/-- The work on a class comes to the same if nothing is told of what reports on no part. -/
theorem exists_collectKind_heeding {device : Device} (same : state.device.SameParts device)
    (run : collectKind config executor registry kind state = (.data outcome, later)) :
    ∃ told, collectKind config executor (registry.heeding device) kind state =
      (.data told, later) := by
  cases kind with
  | drive =>
    obtain ⟨_, between, list, run⟩ := exists_of_bind_data run
    obtain ⟨told, kept⟩ := exists_collectList_keeping lawful_drives same.drives list
    have features := @collectCapabilities_congr executor (registry.heeding device) registry rfl
    refine ⟨told, (bind_of_data kept).trans ?_⟩
    dsimp only
    simp only [features]
    split at run
    · rename_i asked
      rw [if_pos asked]
      obtain ⟨known, _, knew, run⟩ := exists_of_bind_data run
      obtain ⟨changes, last, featured, run⟩ := exists_of_bind_data run
      cases run
      refine (bind_of_data knew).trans ((bind_of_data featured).trans rfl)
    · rename_i unasked
      rw [if_neg unasked]
      cases run
      rfl
  | nic =>
    obtain ⟨told, kept⟩ := exists_collectList_keeping lawful_nics same.nics run
    rw [← Option.toList_map] at kept
    exact ⟨told, kept⟩
  | storageController =>
    exact exists_collectList_keeping lawful_storageControllers same.storageControllers run
  | bmc => exact ⟨outcome, run⟩
  | bios => exact ⟨outcome, run⟩
  | cpld => exact ⟨outcome, run⟩

/-! ## What was told before -/

/-- Two states of passes that differ at most in what was told of the classes. -/
structure State.SameButTold (first second : State) : Prop where
  device : first.device = second.device
  host : first.host = second.host
  faults : first.summary.faults = second.summary.faults
  changes : first.summary.capabilityChanges = second.summary.capabilityChanges

/-- The steps of the work on a class do not look at what was told of the classes before it. -/
theorem composes_sameButTold (executor : Executor) (kind : ComponentKind) (place : Place γ) :
    Composes executor kind place (Respects State.SameButTold) where
  pure _ _ _ same := ⟨rfl, same⟩
  bind := Respects.bind
  ask collector first second same := by
    rw [ask_eq, ask_eq, same.host]
    cases collector.probe.perform executor second.host with
    | mk answer host =>
      cases answer with
      | data found => exact ⟨rfl, { same with host := rfl }⟩
      | failure error => exact ⟨rfl, { same with host := rfl }⟩
      | fault reason =>
        exact ⟨rfl, { same with host := rfl, faults := congrArg (· ++ _) same.faults }⟩
  ofExcept _ result := by cases result <;> exact fun _ _ same => ⟨rfl, same⟩
  read _ _ same := ⟨congrArg (fun device => Answer.data (place.get device)) same.device, same⟩
  write value _ _ same :=
    ⟨rfl, { same with device := congrArg (place.set · value) same.device }⟩
  check first second same := by
    refine ⟨?_, same⟩
    unfold checkCancelled
    rw [same.host]
  note changes _ _ same := ⟨rfl, { same with changes := congrArg (· + changes) same.changes }⟩

theorem sameButTold_collectKind (config : Config) (executor : Executor) (registry : Registry)
    (kind : ComponentKind) :
    Respects State.SameButTold (collectKind config executor registry kind) :=
  Composes.collectKind (composes_sameButTold executor) config registry kind

/-! ## The whole pass -/

/-- Side by side, the work on some classes with all that was found and that without what
reports on no part. -/
theorem exists_collectKinds_heeding {device : Device} : ∀ {kinds : List ComponentKind}
    {state other later : State}, State.SameButTold state other → state.device.SameParts device →
    collectKinds config executor registry kinds state = (.data (), later) →
    ∃ otherLater, State.SameButTold later otherLater ∧
      collectKinds config executor (registry.heeding device) kinds other =
        (.data (), otherLater)
  | [], state, other, later, same, _, run => by
    cases run
    exact ⟨other, same, rfl⟩
  | kind :: kinds, state, other, later, same, parts, run => by
    obtain ⟨uncancelled, outcome, between, worked, rest⟩ := exists_of_collectKinds run
    obtain ⟨told, heeding⟩ := exists_collectKind_heeding parts worked
    obtain ⟨sameAnswer, sameAfter⟩ :=
      sameButTold_collectKind config executor (registry.heeding device) kind state other same
    have kept := sameParts_collectKind config executor registry kind state
    rw [worked] at kept
    rw [heeding] at sameAnswer sameAfter
    rw [collectKinds_cons, if_neg (by rw [← same.host, uncancelled]; exact Bool.false_ne_true)]
    cases otherWorked : collectKind config executor (registry.heeding device) kind other with
    | mk answer otherBetween =>
      rw [otherWorked] at sameAnswer sameAfter
      cases sameAnswer
      have sideBySide : State.SameButTold (between.reported kind outcome)
          (otherBetween.reported kind told) := { sameAfter with }
      exact exists_collectKinds_heeding sideBySide (kept.symm.trans parts) rest

/-- The pass with collectors who do not tell of what reports on no part of the server leaves
the same server and the same host. -/
theorem collect_heeding {device : Option Device} {host : Run} {summary : Summary} {last : Device}
    (done : (collect config executor registry device host).answer = .data summary)
    (left : (collect config executor registry device host).device = some last) :
    ∃ told, collect config executor ((registry.withDefaults config).heeding last) device host =
      ⟨.data told, some last, (collect config executor registry device host).host⟩ := by
  cases device with
  | none => cases done
  | some device =>
    obtain ⟨baseline, there⟩ := exists_inventory registry config
    have stillThere : (((registry.withDefaults config).heeding last).withDefaults
        config).inventory = some baseline := by
      rw [Registry.withDefaults_heeding]
      exact there
    rw [collect_eq there] at done left ⊢
    rw [collect_eq stillThere, Registry.withDefaults_heeding]
    cases performed : baseline.probe.perform executor host with
    | mk answer after =>
      rw [performed] at done left
      cases answer with
      | failure error => cases done
      | fault reason => cases done
      | data found =>
        dsimp only at done left ⊢
        have kept := sameParts_collectKinds config executor (registry.withDefaults config)
          ComponentKind.all { device := device.absorbed found, host := after }
        cases collected : collectKinds config executor (registry.withDefaults config)
            ComponentKind.all { device := device.absorbed found, host := after } with
        | mk answer ended =>
          rw [collected] at done left kept
          cases answer with
          | failure error => cases done
          | fault reason => cases done
          | data value =>
            obtain rfl : ended.device.withModels = last := Option.some.inj left
            have parts : (device.absorbed found).SameParts ended.device.withModels :=
              ⟨kept.drives, kept.nics, kept.storageControllers⟩
            obtain ⟨other, same, otherCollected⟩ :=
              exists_collectKinds_heeding ⟨rfl, rfl, rfl, rfl⟩ parts collected
            rw [otherCollected]
            refine ⟨other.summary, ?_⟩
            rw [concluded, concluded, same.device, same.host]

/-- A summary accounts for all that was found. It has the classes in their order, each with the
outcome that the answers of its collectors call for, and it names the fragments that report on
no part. Without these the pass leaves the same server, and the work on a class leaves the lists
of parts as long as they are, however it ends. -/
theorem collect_tells {device : Option Device} {host : Run} {summary : Summary}
    (done : (collect config executor registry device host).answer = .data summary) :
    let filled := registry.withDefaults config
    ∃ last, (collect config executor registry device host).device = some last ∧
      summary.Tells executor filled last ∧
      (∃ told, collect config executor (filled.heeding last) device host =
        ⟨.data told, some last, (collect config executor registry device host).host⟩) ∧
      ∀ (kind : ComponentKind) (state : State),
        state.device.SameParts (collectKind config executor filled kind state).2.device := by
  intro filled
  cases device with
  | none => cases done
  | some device =>
    exact ⟨_, rfl, tells_of_collect done rfl, collect_heeding done rfl,
      sameParts_collectKind config executor filled⟩

/-- Collectors of whom some break down, and some find drives that the server does not have. -/
def scattered : Registry :=
  { inventory := some ⟨"lshw", .finish (.ok {
      drives := [{ serial := "S1" }, { serial := "S2" }], nics := [{ serial := "f4:e9" }] })⟩
    drives := [
      ⟨"smartctl", .finish (.ok [{ serial := "s1", model := "M500" }, { serial := "X9" }])⟩,
      ⟨"nvme", .fault "index out of bounds"⟩,
      ⟨"mvcli", .finish (.ok [{ model := "M501" }, { serial := "S2" }])⟩]
    nics := some ⟨"mlxup", .fault "no port"⟩
    bmc := some ⟨"ipmitool", .finish (.ok { id := "32" })⟩
    bios := some ⟨"dmidecode", .finish (.ok {})⟩ }

theorem collect_tells_scattered :
    let told : Summary :=
      { classes :=
          [(.drive, .merged 4 1 ["X9", ""]), (.nic, .faulted), (.bios, .empty), (.cpld, .skipped),
            (.bmc, .merged 1 1 []), (.storageController, .skipped)]
        faults := [⟨.drive, "nvme", "index out of bounds"⟩, ⟨.nic, "mlxup", "no port"⟩] }
    let pass := collect {} (Replies.executor {}) scattered (some {}) {}
    pass.answer = .data told ∧
      ∃ last, pass.device = some last ∧
        told.Tells (Replies.executor {}) (scattered.withDefaults {}) last ∧
        ∃ other, collect {} (Replies.executor {}) ((scattered.withDefaults {}).heeding last)
          (some {}) {} = ⟨.data other, some last, pass.host⟩ := by
  intro told pass
  have answered : pass.answer = .data told := Answer.eq_data_of_data? (by decide +kernel)
  obtain ⟨last, left, tells, heeding, _⟩ := collect_tells answered
  exact ⟨answered, last, left, tells, heeding⟩

end Pass

end ServerInventory
