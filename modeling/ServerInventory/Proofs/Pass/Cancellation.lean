import ServerInventory.Proofs.Pass.Moments

/-!
Cancellation stops a pass (`Pass.collect_cancelled`). A pass is cancelled while somebody is at
work: the baseline, or a collector that is called for a class of components. From that moment
on nothing is done on the host; the class comes to its end, with its collectors called and what
they found merged, and no other class is taken up. Who cancels a pass from outside does so while
some probe is at work, and is a step of that probe.
-/

namespace ServerInventory

/-- A server after a baseline with some answer. -/
def Device.afterBaseline (device : Device) : Answer Device → Device
  | .data found => device.absorbed found
  | _ => device

namespace Pass

variable {config : Config} {executor : Executor} {registry : Registry}

/-! ## Breakdowns within classes -/

/-- A part whose breakdowns do not get out. -/
def Contained {α : Type} (part : Pass α) : Prop :=
  ∀ state reason, (part state).1 ≠ .fault reason

theorem Contained.bind {α β : Type} {part : Pass α} {next : α → Pass β} (first : part.Contained)
    (rest : ∀ value, (next value).Contained) : (part >>= next).Contained := by
  intro state reason
  refine bind_cases (·.1 ≠ .fault reason) (fun value later _ => rest value later reason)
    (fun _ _ _ => nofun) fun broken later run => ?_
  have early := first state broken
  rw [run] at early
  exact absurd rfl early

theorem composes_contained {γ : Type} (executor : Executor) (kind : ComponentKind)
    (place : Place γ) : Composes executor kind place Contained where
  pure _ _ := nofun
  bind := Contained.bind
  ask collector state := by
    rw [ask_eq]
    cases collector.probe.perform executor state.host with
    | mk answer host => cases answer <;> nofun
  ofExcept _ result := by cases result <;> exact fun _ => nofun
  read _ := nofun
  write _ _ := nofun
  check state := by
    unfold checkCancelled
    split <;> nofun
  note _ _ := nofun

theorem contained_collectKind (config : Config) (executor : Executor) (registry : Registry)
    (kind : ComponentKind) : (collectKind config executor registry kind).Contained :=
  Composes.collectKind (composes_contained executor) config registry kind

/-! ## Classes one after the other -/

theorem collectKinds_of_cancelled (kinds : List ComponentKind) {state : State}
    (cancelled : state.host.cancelled = true) :
    collectKinds config executor registry kinds state =
      (if kinds.isEmpty then .data () else .failure .cancelled, state) := by
  cases kinds with
  | nil => rfl
  | cons kind kinds => rw [collectKinds_cons, if_pos cancelled]; rfl

theorem collectKinds_congr {first second : Registry} : ∀ {kinds : List ComponentKind},
    (∀ kind ∈ kinds, first.SameFor second kind) →
    collectKinds config executor first kinds = collectKinds config executor second kinds
  | [], _ => rfl
  | kind :: kinds, same => by
    have others := collectKinds_congr fun other member => same other (List.mem_cons_of_mem _ member)
    rw [collectKinds, collectKinds, collectKind_congr (same kind List.mem_cons_self), others]

/-- The classes that remain are taken up where the first ones were left. -/
theorem collectKinds_append (later : List ComponentKind) : ∀ {before : List ComponentKind}
    {state start : State}, collectKinds config executor registry before state = (.data (), start) →
    collectKinds config executor registry (before ++ later) state =
      collectKinds config executor registry later start
  | [], state, start, begun => by
    cases begun
    rfl
  | kind :: before, state, start, begun => by
    obtain ⟨uncancelled, outcome, between, worked, begun⟩ := exists_of_collectKinds begun
    rw [List.cons_append, collectKinds_cons, uncancelled, if_neg Bool.false_ne_true, worked]
    exact collectKinds_append later begun

/-- If a pass is cancelled while the classes are worked on, then in the work on one of them. -/
theorem exists_cancelling : ∀ {kinds : List ComponentKind} {state : State},
    state.host.cancelled = false →
    (collectKinds config executor registry kinds state).2.host.cancelled = true →
    ∃ before kind later start, kinds = before ++ kind :: later ∧
      collectKinds config executor registry before state = (.data (), start) ∧
      start.host.cancelled = false ∧
      (collectKind config executor registry kind start).2.host.cancelled = true
  | [], state, uncancelled, cancelled => by
    rw [collectKinds, ← Bool.not_eq_false] at cancelled
    exact absurd uncancelled cancelled
  | kind :: kinds, state, uncancelled, cancelled => by
    by_cases here : (collectKind config executor registry kind state).2.host.cancelled = true
    · exact ⟨[], kind, kinds, state, rfl, rfl, uncancelled, here⟩
    · have cons := collectKinds_cons config executor registry kind kinds state
      rw [uncancelled, if_neg Bool.false_ne_true] at cons
      rw [cons] at cancelled
      cases worked : collectKind config executor registry kind state with
      | mk answer between =>
        rw [worked] at here cancelled
        cases answer with
        | failure error => exact absurd cancelled here
        | fault reason => exact absurd cancelled here
        | data outcome =>
          have still : (between.reported kind outcome).host.cancelled = false :=
            Bool.eq_false_iff.2 here
          obtain ⟨before, other, later, start, split, begun, further⟩ :=
            exists_cancelling still cancelled
          refine ⟨kind :: before, other, later, start, by rw [split]; rfl, ?_, further⟩
          rw [collectKinds_cons, uncancelled, if_neg Bool.false_ne_true, worked]
          exact begun

section

variable {before later : List ComponentKind} {kind : ComponentKind} {state start : State}
  (begun : collectKinds config executor registry before state = (.data (), start))
  (uncancelled : start.host.cancelled = false)
  (cancelled : (collectKind config executor registry kind start).2.host.cancelled = true)

include begun uncancelled cancelled

/-- If a pass is cancelled in the work on a class, no later one is taken up. -/
theorem collectKinds_of_cancelling :
    collectKinds config executor registry (before ++ kind :: later) state =
      match collectKind config executor registry kind start with
      | (.data outcome, last) =>
        (if later.isEmpty then .data () else .failure .cancelled, last.reported kind outcome)
      | (.failure error, last) => (.failure error, last)
      | (.fault reason, last) => (.fault reason, last) := by
  rw [collectKinds_append _ begun, collectKinds_cons, uncancelled, if_neg Bool.false_ne_true]
  cases worked : collectKind config executor registry kind start with
  | mk answer last =>
    rw [worked] at cancelled
    cases answer with
    | data outcome =>
      have stays : (last.reported kind outcome).host.cancelled = true := cancelled
      exact collectKinds_of_cancelled later stays
    | failure error => rfl
    | fault reason => rfl

/-- What the classes come to then depends on nobody who is named for a later one. -/
theorem collectKinds_blind {other : Registry}
    (same : ∀ reached ∈ before ++ [kind], registry.SameFor other reached) :
    collectKinds config executor other (before ++ kind :: later) state =
      collectKinds config executor registry (before ++ kind :: later) state := by
  have alike : collectKinds config executor registry before =
      collectKinds config executor other before :=
    collectKinds_congr fun reached member => same reached (List.mem_append_left _ member)
  have work : collectKind config executor registry kind = collectKind config executor other kind :=
    collectKind_congr (same kind (List.mem_append_right _ (List.mem_singleton_self kind)))
  rw [collectKinds_of_cancelling begun uncancelled cancelled]
  rw [alike] at begun
  rw [work] at cancelled ⊢
  exact collectKinds_of_cancelling begun uncancelled cancelled

/-- The pass leaves the host as the work on the class has left it. If there are classes left,
it leaves the server so as well, and fails. -/
theorem concluded_of_cancelling {last : State} {result : Result}
    (worked : (collectKind config executor registry kind start).2 = last)
    (whole : result =
      concluded (collectKinds config executor registry (before ++ kind :: later) state)) :
    result.host = last.host ∧ (later ≠ [] →
      result.device = some last.device ∧ ∃ error, result.answer = .failure error) := by
  rw [collectKinds_of_cancelling begun uncancelled cancelled] at whole
  cases work : collectKind config executor registry kind start with
  | mk answer between =>
    rw [work] at worked whole
    obtain rfl : between = last := worked
    subst whole
    cases answer with
    | data outcome =>
      cases later with
      | nil => exact ⟨rfl, fun some => absurd rfl some⟩
      | cons next later => exact ⟨rfl, fun _ => ⟨rfl, .cancelled, rfl⟩⟩
    | failure error => exact ⟨rfl, fun _ => ⟨rfl, error, rfl⟩⟩
    | fault reason =>
      exact absurd (congrArg Prod.fst work)
        (contained_collectKind config executor registry kind start reason)

end

/-! ## The whole pass -/

/-- A pass has dealt with some classes of components and takes up the next one. -/
structure TakesUp (config : Config) (executor : Executor) (registry : Registry) (state : State)
    (before : List ComponentKind) (kind : ComponentKind) (later : List ComponentKind)
    (start : State) : Prop where
  order : ComponentKind.all = before ++ kind :: later
  begun : collectKinds config executor registry before state = (.data (), start)
  uncancelled : start.host.cancelled = false

/-- How a pass stops that is cancelled. Some classes of components were taken up until then, the
server was left as it is by the work on the last of them, and during that work the host went
through some moments. If no class was taken up, it was the baseline that was at work. -/
structure Stopped (config : Config) (executor : Executor) (registry : Registry)
    (device : Device) (host : Run) (baseline : Collector Device)
    (reached : List ComponentKind) (moments : List Run) (left : Device) : Prop where
  /-- At one of the moments the pass was cancelled. -/
  moment : (collect config executor registry (some device) host).host ∈ moments
  /-- From then on nothing was done on the host. -/
  quiet : ∀ now ∈ moments, now.cancelled = true →
    (collect config executor registry (some device) host).host = now
  /-- Nobody was called for another class: anyone else named for it makes no difference. -/
  uncalled : ∀ other : Registry, other.inventory = registry.inventory →
    (∀ kind ∈ reached, registry.SameFor other kind) →
    collect config executor other (some device) host =
      collect config executor registry (some device) host
  /-- The components of another class are as the baseline has left them. -/
  untouched : ∀ kind ∉ reached, ∃ last,
    (collect config executor registry (some device) host).device = some last ∧
      (device.afterBaseline (baseline.probe.perform executor host).1).SameFor last kind
  /-- If the last class was not taken up the pass failed, and no models were filled in. It is
  only a baseline that can break down instead. -/
  failed : .storageController ∉ reached →
    (collect config executor registry (some device) host).device = some left ∧
      ((∃ error, (collect config executor registry (some device) host).answer = .failure error) ∨
        ∃ reason, (baseline.probe.perform executor host).1 = .fault reason)

section

variable {baseline : Collector Device} {device : Device} {host : Run}
  (there : (registry.withDefaults config).inventory = some baseline)

include there

/-- If the pass is cancelled before the baseline is done, no class is taken up. -/
theorem collect_of_cancelled_baseline
    (cancelled : (baseline.probe.perform executor host).2.cancelled = true) :
    collect config executor registry (some device) host =
      ⟨match (baseline.probe.perform executor host).1 with
        | .data _ => .failure .cancelled
        | .failure error => .failure (.collector "inventory" error)
        | .fault reason => .fault reason,
        some (device.afterBaseline (baseline.probe.perform executor host).1),
        (baseline.probe.perform executor host).2⟩ := by
  rw [collect_eq there]
  cases performed : baseline.probe.perform executor host with
  | mk answer after =>
    rw [performed] at cancelled
    cases answer with
    | data found =>
      dsimp only
      rw [collectKinds_of_cancelled _ cancelled]
      rfl
    | failure error => rfl
    | fault reason => rfl

theorem stopped_of_cancelled_baseline
    (cancelled : (baseline.probe.perform executor host).2.cancelled = true) :
    Stopped config executor registry device host baseline []
      (baseline.probe.moments executor host)
      (device.afterBaseline (baseline.probe.perform executor host).1) := by
  have whole : collect config executor registry (some device) host = _ :=
    collect_of_cancelled_baseline there cancelled
  constructor
  · rw [whole]
    exact baseline.probe.perform_mem_moments host
  · intro now member stopped
    rw [whole]
    exact baseline.probe.perform_of_mem_moments member stopped
  · intro other same _
    rw [whole]
    have otherThere := (Registry.inventory_withDefaults_of_same same config).trans there
    exact collect_of_cancelled_baseline otherThere cancelled
  · intro kind _
    rw [whole]
    exact ⟨_, rfl, .refl _ kind⟩
  · intro _
    rw [whole]
    refine ⟨rfl, ?_⟩
    cases (baseline.probe.perform executor host).1 with
    | data found => exact .inl ⟨_, rfl⟩
    | failure error => exact .inl ⟨_, rfl⟩
    | fault reason => exact .inr ⟨reason, rfl⟩

theorem stopped_of_cancelling {found : Device} {after : Run} {before later : List ComponentKind}
    {kind : ComponentKind} {start : State} {made : List Call}
    (performed : baseline.probe.perform executor host = (.data found, after))
    (takesUp : TakesUp config executor (registry.withDefaults config)
      { device := device.absorbed found, host := after } before kind later start)
    (cancelled : (collectKind config executor (registry.withDefaults config) kind
      start).2.host.cancelled = true)
    (hosts : (collectKind config executor (registry.withDefaults config) kind start).2.host =
      hostAfter executor made start.host) :
    Stopped config executor registry device host baseline (before ++ [kind])
      (momentsOf executor made start.host)
      (collectKind config executor (registry.withDefaults config) kind start).2.device := by
  obtain ⟨order, begun, uncancelled⟩ := takesUp
  have whole : collect config executor registry (some device) host =
      concluded (collectKinds config executor (registry.withDefaults config)
        (before ++ kind :: later) { device := device.absorbed found, host := after }) := by
    rw [collect_eq there, performed, order]
  obtain ⟨sameHost, early⟩ := concluded_of_cancelling begun uncancelled cancelled rfl whole
  have unfinished : ∀ {other}, other ∉ before ++ [kind] → later ≠ [] := by
    rintro other outside rfl
    exact outside (order ▸ other.mem_all)
  constructor
  · rw [sameHost, hosts]
    exact hostAfter_mem_momentsOf made start.host
  · intro now member stopped
    rw [sameHost, hosts]
    exact hostAfter_of_mem_momentsOf made member stopped
  · intro other same alike
    have otherThere := (Registry.inventory_withDefaults_of_same same config).trans there
    rw [collect_eq otherThere, performed, order, whole]
    exact congrArg concluded (collectKinds_blind begun uncancelled cancelled fun reached member =>
      (alike reached member).withDefaults config)
  · intro other outside
    refine ⟨_, (early (unfinished outside)).1, ?_⟩
    have first := sameFor_collectKinds config executor (registry.withDefaults config)
      (fun member => outside (List.mem_append_left _ member))
      { device := device.absorbed found, host := after }
    have different : other ≠ kind := by
      rintro rfl
      exact outside (List.mem_append_right _ (List.mem_singleton_self other))
    rw [begun] at first
    rw [performed]
    exact first.trans (sameFor_collectKind config executor _ different start)
  · intro outside
    obtain ⟨sameDevice, failed⟩ := early (unfinished outside)
    exact ⟨sameDevice, .inl failed⟩

end

/-- Nothing is found out by lshw in a pass that is cancelled already. -/
theorem collect_lshw_of_cancelled {device : Device} {host : Run}
    (there : (registry.withDefaults config).inventory =
      some (Utility.lshw.collector Lshw.inventory))
    (cancelled : host.cancelled = true) :
    collect config executor registry (some device) host =
      ⟨.failure (.collector "inventory" .cancelled), some device, host⟩ := by
  obtain ⟨flag, commands⟩ := host
  obtain rfl : flag = true := cancelled
  rw [collect_eq there]
  rfl

/-- Cancellation stops a pass. Whoever was at work at that moment, the baseline or a collector
called for a class of components, nothing was done on the host any more, nobody was called for
a later class, and no component of one changed; and unless it was the last class, the pass
failed without a model filled in. If it was cancelled from the start and the baseline is lshw,
it did nothing at all. -/
theorem collect_cancelled {device : Device} {host : Run}
    (cancelled : (collect config executor registry (some device) host).host.cancelled = true) :
    ∃ baseline answer after, (registry.withDefaults config).inventory = some baseline ∧
      baseline.probe.perform executor host = (answer, after) ∧
      (after.cancelled = true ∧
          Stopped config executor registry device host baseline []
            (baseline.probe.moments executor host) (device.afterBaseline answer) ∨
        ∃ before kind later start made,
          TakesUp config executor (registry.withDefaults config)
            { device := device.afterBaseline answer, host := after } before kind later start ∧
          Made executor ((registry.withDefaults config).calls config
              (collectKind config executor (registry.withDefaults config) kind
                start).2.device.drives kind) start.host
            (collectKind config executor (registry.withDefaults config) kind start) made ∧
          Stopped config executor registry device host baseline (before ++ [kind])
            (momentsOf executor made start.host)
            (collectKind config executor (registry.withDefaults config) kind start).2.device) ∧
      (host.cancelled = true → baseline = Utility.lshw.collector Lshw.inventory →
        collect config executor registry (some device) host =
          ⟨.failure (.collector "inventory" .cancelled), some device, host⟩) := by
  obtain ⟨baseline, there⟩ := exists_inventory registry config
  cases performed : baseline.probe.perform executor host with
  | mk answer after =>
    refine ⟨baseline, answer, after, there, performed, ?_, fun already lshw =>
      collect_lshw_of_cancelled (lshw ▸ there) already⟩
    by_cases early : after.cancelled = true
    · have stops : (baseline.probe.perform executor host).2.cancelled = true := by
        rw [performed]
        exact early
      have stopped : Stopped config executor registry device host baseline [] _ _ :=
        stopped_of_cancelled_baseline there stops
      rw [performed] at stopped
      exact .inl ⟨early, stopped⟩
    · rw [collect_eq there, performed] at cancelled
      cases answer with
      | failure error => exact absurd cancelled early
      | fault reason => exact absurd cancelled early
      | data found =>
        dsimp only at cancelled
        rw [host_concluded] at cancelled
        obtain ⟨before, kind, later, start, order, begun, uncancelled, cancelling⟩ :=
          exists_cancelling (Bool.eq_false_iff.2 early) cancelled
        obtain ⟨made, calls⟩ := makes_collectKind executor (registry.withDefaults config) config
          kind start
        have takesUp : TakesUp config executor (registry.withDefaults config) _ before kind later
            start := ⟨order, begun, uncancelled⟩
        exact .inr ⟨before, kind, later, start, made, takesUp, calls,
          stopped_of_cancelling there performed takesUp cancelling calls.leaves⟩

/-- Collectors of whom the one for network cards cancels the pass before it answers. -/
def cancelledByCards : Registry :=
  { troubled with
    nics := some ⟨"mlxup", .cancel (.finish (.ok [{ serial := "f4:e9" }]))⟩ }

theorem collect_cancelled_byCards :
    (collect {} (Replies.executor {}) cancelledByCards (some {}) {}).host.cancelled = true ∧
      ∃ baseline reached moments left, Stopped {} (Replies.executor {}) cancelledByCards {} {}
        baseline reached moments left := by
  have cancelled :
      (collect {} (Replies.executor {}) cancelledByCards (some {}) {}).host.cancelled = true := by
    decide +kernel
  obtain ⟨baseline, answer, after, _, _, stage, _⟩ := collect_cancelled cancelled
  rcases stage with ⟨_, stopped⟩ | ⟨before, kind, later, start, made, _, _, stopped⟩
  · exact ⟨cancelled, _, _, _, _, stopped⟩
  · exact ⟨cancelled, _, _, _, _, stopped⟩

end Pass

end ServerInventory
