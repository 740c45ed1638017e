import ServerInventory.Proofs.Pass.Breakdown
import ServerInventory.Proofs.Pass.Locality

/-!
The classes of components do not interfere (`Pass.collect_apart`): of two passes that differ in
the collectors of other classes only, and that both come to an end, a class comes out the same.

In a pass that comes to an end, the work on a class finds the components of the class as the
baseline left them, and whatever is done later leaves them alone (`Pass.exists_workedOn`). So two
such passes start their work on the class with the same there, and that work is local.
-/

namespace ServerInventory

namespace Pass

variable {config : Config} {executor : Executor} {registry : Registry}

/-- A part that reports on no class as a whole. -/
def Unreporting {α : Type} (part : Pass α) : Prop :=
  ∀ state, (part state).2.summary.classes = state.summary.classes

theorem Unreporting.bind {α β : Type} {part : Pass α} {next : α → Pass β}
    (first : part.Unreporting) (rest : ∀ value, (next value).Unreporting) :
    (part >>= next).Unreporting := by
  intro state
  refine state_bind (·.summary.classes = state.summary.classes) (first state)
    fun value later _ early => ?_
  rw [rest value later, early]

theorem composes_unreporting {γ : Type} (executor : Executor) (kind : ComponentKind)
    (place : Place γ) : Composes executor kind place Unreporting where
  pure _ _ := rfl
  bind := Unreporting.bind
  ask collector state := by
    rw [ask_eq]
    cases collector.probe.perform executor state.host with
    | mk answer host => cases answer <;> rfl
  ofExcept _ result := by cases result <;> exact fun _ => rfl
  read _ := rfl
  write _ _ := rfl
  check _ := rfl
  note _ _ := rfl

theorem unreporting_collectKind (config : Config) (executor : Executor) (registry : Registry)
    (kind : ComponentKind) : (collectKind config executor registry kind).Unreporting :=
  Composes.collectKind (composes_unreporting executor) config registry kind

theorem outcome?_reported {state : State} {kind : ComponentKind} (outcome : ClassOutcome)
    (unknown : state.summary.outcome? kind = none) :
    (state.reported kind outcome).summary.outcome? kind = some outcome := by
  show List.lookup kind (state.summary.classes ++ [(kind, outcome)]) = some outcome
  have before : List.lookup kind state.summary.classes = none := unknown
  rw [List.lookup_append, before, Option.none_or, List.lookup_cons_self]

theorem outcome?_reported_of_ne {kind other : ComponentKind} (different : other ≠ kind)
    (state : State) (outcome : ClassOutcome) :
    (state.reported kind outcome).summary.outcome? other = state.summary.outcome? other := by
  show List.lookup other (state.summary.classes ++ [(kind, outcome)]) = _
  rw [List.lookup_append, List.lookup_cons, beq_false_of_ne different]
  exact Option.or_none

theorem outcome?_collectKind (config : Config) (executor : Executor) (registry : Registry)
    (kind other : ComponentKind) (state : State) :
    (collectKind config executor registry kind state).2.summary.outcome? other =
      state.summary.outcome? other :=
  congrArg (List.lookup other) (unreporting_collectKind config executor registry kind state)

/-- What is told of a class stays. -/
theorem outcome?_collectKinds {kind : ComponentKind} {outcome : ClassOutcome} (config : Config)
    (executor : Executor) (registry : Registry) (kinds : List ComponentKind) {state : State}
    (told : state.summary.outcome? kind = some outcome) :
    (collectKinds config executor registry kinds state).2.summary.outcome? kind = some outcome := by
  refine kept_collectKinds config executor registry
    (fun early late => early.summary.outcome? kind = some outcome →
      late.summary.outcome? kind = some outcome) (fun _ => id)
    (fun _ _ _ early late => late ∘ early) (fun state other result known => ?_) kinds state
    (fun other _ state known => ?_) told
  · show List.lookup kind (state.summary.classes ++ [(other, result)]) = some outcome
    have before : List.lookup kind state.summary.classes = some outcome := known
    rw [List.lookup_append, before, Option.some_or]
  · rw [outcome?_collectKind]
    exact known

/-- The work on one class in the midst of that on others. Those before it have not touched the
components of the class, and those behind it do not. -/
structure WorkedOn (config : Config) (executor : Executor) (registry : Registry)
    (kind : ComponentKind) (based : Device) (outcome : ClassOutcome) (last : Device)
    (start finish : State) : Prop where
  before : based.SameFor start.device kind
  uncancelled : start.host.cancelled = false
  worked : collectKind config executor registry kind start = (.data outcome, finish)
  behind : finish.device.SameFor last kind

theorem exists_workedOn {kind : ComponentKind} : ∀ {kinds : List ComponentKind}
    {state later : State}, kinds.Nodup → kind ∈ kinds → state.summary.outcome? kind = none →
    collectKinds config executor registry kinds state = (.data (), later) →
    ∃ outcome start finish,
      WorkedOn config executor registry kind state.device outcome later.device start finish ∧
        later.summary.outcome? kind = some outcome
  | [], _, _, _, member, _, _ => nomatch member
  | first :: kinds, state, later, distinct, member, unknown, run => by
    obtain ⟨outside, distinct⟩ := List.nodup_cons.1 distinct
    obtain ⟨uncancelled, outcome, between, worked, rest⟩ := exists_of_collectKinds run
    have still : between.summary.outcome? kind = none := by
      have same := outcome?_collectKind config executor registry first kind state
      rw [worked] at same
      exact same.trans unknown
    by_cases here : first = kind
    · subst here
      have kept := sameFor_collectKinds config executor registry outside
        (between.reported first outcome)
      have told := outcome?_collectKinds config executor registry kinds
        (outcome?_reported outcome still)
      rw [rest] at kept told
      exact ⟨outcome, state, between, ⟨.refl _ _, uncancelled, worked, kept⟩, told⟩
    · have kept := sameFor_collectKind config executor registry (Ne.symm here) state
      rw [worked] at kept
      have inside := (List.mem_cons.1 member).resolve_left fun same => here same.symm
      have unnamed : (between.reported first outcome).summary.outcome? kind = none := by
        rw [outcome?_reported_of_ne (Ne.symm here), still]
      obtain ⟨own, start, finish, workedOn, told⟩ := exists_workedOn distinct inside unnamed rest
      exact ⟨own, start, finish, { workedOn with before := kept.trans workedOn.before }, told⟩

/-- What the work on a class comes to does not depend on the collectors of the others. -/
theorem WorkedOn.alike {first second : Registry} {kind : ComponentKind}
    {based last otherLast : Device} {outcome otherOutcome : ClassOutcome}
    {start finish otherStart otherFinish : State} (collectors : first.SameFor second kind)
    (one : WorkedOn config executor first kind based outcome last start finish)
    (other : WorkedOn config executor second kind based otherOutcome otherLast otherStart
      otherFinish) : outcome = otherOutcome ∧ last.SameFor otherLast kind := by
  have otherWorked := other.worked
  rw [← collectKind_congr collectors] at otherWorked
  obtain ⟨sameOutcome, same⟩ := local_collectKind config executor first
    (one.before.symm.trans other.before) (one.uncancelled.trans other.uncancelled.symm)
  rw [one.worked, otherWorked] at sameOutcome same
  cases sameOutcome
  exact ⟨rfl, (one.behind.symm.trans same).trans other.behind⟩

end Pass

theorem Device.SameFor.withModels {first second : Device} {kind : ComponentKind}
    (same : first.SameFor second kind) (identity : first.toIdentity = second.toIdentity) :
    first.withModels.SameFor second.withModels kind := by
  have model : first.model = second.model := congrArg Identity.model identity
  unfold Device.SameFor at same ⊢
  unfold Device.withModels
  cases kind <;> simp_all only

namespace Pass

/-- A pass that comes to an end has taken every class of components in turn, and left the server
as a whole as the baseline had left it. -/
theorem exists_collected {device : Device} {host : Run} {summary : Summary}
    (done : (collect config executor registry (some device) host).answer = .data summary)
    (kind : ComponentKind) :
    ∃ baseline found after based last outcome start finish,
      (registry.withDefaults config).inventory = some baseline ∧
      baseline.probe.perform executor host = (.data found, after) ∧
      device.absorb found = .ok based ∧
      (collect config executor registry (some device) host).device = some last.withModels ∧
      last.toIdentity = based.toIdentity ∧
      WorkedOn config executor (registry.withDefaults config) kind based outcome last start
        finish ∧
      summary.outcome? kind = some outcome := by
  obtain ⟨baseline, found, after, last, there, performed, collected, rfl, whole⟩ :=
    exists_of_collect done
  have distinct : ComponentKind.all.Nodup := by decide
  have identity := toIdentity_collectKinds config executor (registry.withDefaults config)
    ComponentKind.all { device := device.absorbed found, host := after }
  rw [collected] at identity
  obtain ⟨outcome, start, finish, workedOn, told⟩ :=
    exists_workedOn distinct kind.mem_all rfl collected
  exact ⟨baseline, found, after, _, last.device, outcome, start, finish, there, performed,
    Device.absorb_eq device found, congrArg Result.device whole, identity, workedOn, told⟩

/-- Classes do not interfere. Of two passes that differ in the collectors of other classes only,
and that both come to an end, the components of a class come out the same, the model that a
server lends to some of them included, and so does the report on the class. The server as a
whole is what the baseline made of it. -/
theorem collect_apart {first second : Registry} {kind : ComponentKind}
    (inventory : first.inventory = second.inventory) (collectors : first.SameFor second kind)
    {device : Device} {host : Run} {summary other : Summary}
    (done : (collect config executor first (some device) host).answer = .data summary)
    (otherDone : (collect config executor second (some device) host).answer = .data other) :
    ∃ left right outcome baseline found after based,
      (collect config executor first (some device) host).device = some left ∧
      (collect config executor second (some device) host).device = some right ∧
      left.SameFor right kind ∧
      summary.outcome? kind = some outcome ∧ other.outcome? kind = some outcome ∧
      (first.withDefaults config).inventory = some baseline ∧
      baseline.probe.perform executor host = (.data found, after) ∧
      device.absorb found = .ok based ∧
      left.toIdentity = based.toIdentity ∧ right.toIdentity = based.toIdentity := by
  obtain ⟨baseline, found, after, based, last, outcome, start, finish, there, performed, absorbed,
    leaves, identity, workedOn, told⟩ := exists_collected done kind
  obtain ⟨otherBaseline, otherFound, otherAfter, otherBased, otherLast, otherOutcome, otherStart,
    otherFinish, otherThere, otherPerformed, otherAbsorbed, otherLeaves, otherIdentity,
    otherWorkedOn, otherTold⟩ := exists_collected otherDone kind
  -- The baseline is the same, and so is what it leaves.
  rw [← Registry.inventory_withDefaults_of_same inventory config, there] at otherThere
  cases otherThere
  rw [performed] at otherPerformed
  cases otherPerformed
  rw [absorbed] at otherAbsorbed
  cases otherAbsorbed
  obtain ⟨rfl, parts⟩ := workedOn.alike (collectors.withDefaults config) otherWorkedOn
  exact ⟨_, _, outcome, baseline, found, after, based, leaves, otherLeaves,
    parts.withModels (identity.trans otherIdentity.symm), told, otherTold, there, performed,
    absorbed, identity, otherIdentity⟩

/-- Collectors of whom some break down, with others than theirs for drives and cards. -/
def lessTroubled : Registry :=
  { troubled with
    drives := [⟨"smartctl", .finish (.ok [{ serial := "S1", model := "M501" }])⟩]
    nics := some ⟨"mlxup", .finish (.ok [{ serial := "f4:e9" }])⟩ }

theorem collect_apart_troubled :
    ∃ left right,
      (collect {} (Replies.executor {}) troubled (some {}) {}).device = some left ∧
      (collect {} (Replies.executor {}) lessTroubled (some {}) {}).device = some right ∧
      left.SameFor right .bmc := by
  have done : (collect {} (Replies.executor {}) troubled (some {}) {}).answer = .data
      { classes :=
          [(.drive, .merged 1 1 []), (.nic, .faulted), (.bios, .empty), (.cpld, .skipped),
            (.bmc, .merged 1 1 []), (.storageController, .faulted)]
        faults :=
          [⟨.drive, "smartctl", "index out of bounds"⟩, ⟨.nic, "mlxup", "no port"⟩,
            ⟨.storageController, "storcli", "no controller"⟩] } :=
    Answer.eq_data_of_data? (by decide +kernel)
  have otherDone : (collect {} (Replies.executor {}) lessTroubled (some {}) {}).answer = .data
      { classes :=
          [(.drive, .merged 1 1 []), (.nic, .merged 1 0 ["f4:e9"]), (.bios, .empty),
            (.cpld, .skipped), (.bmc, .merged 1 1 []), (.storageController, .faulted)]
        faults := [⟨.storageController, "storcli", "no controller"⟩] } :=
    Answer.eq_data_of_data? (by decide +kernel)
  have inventory : troubled.inventory = lessTroubled.inventory := rfl
  have collectors : troubled.SameFor lessTroubled .bmc := rfl
  obtain ⟨left, right, _, _, _, _, _, leaves, otherLeaves, apart, _⟩ :=
    collect_apart inventory collectors done otherDone
  exact ⟨left, right, leaves, otherLeaves, apart⟩

end Pass

end ServerInventory
