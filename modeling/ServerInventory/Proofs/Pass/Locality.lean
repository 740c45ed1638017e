import ServerInventory.Proofs.Pass.Course

/-!
What the work on one class of components reaches. It changes the server nowhere but at the
place of the class (`Pass.Confined`), and what it comes to there depends on nothing but what is
there already and on whether the pass was cancelled (`Pass.Local`).

Both hold of every step of that work, so they hold of the whole (`Pass.Composes`).
-/

namespace ServerInventory

/-- Whether a pass was cancelled decides what a probe finds, and nothing else that happened. -/
theorem Probe.perform_alike {α : Type} (executor : Executor) (probe : Probe α)
    {first second : Run} (same : first.cancelled = second.cancelled) :
    (probe.perform executor first).1 = (probe.perform executor second).1 ∧
      (probe.perform executor first).2.cancelled =
        (probe.perform executor second).2.cancelled := by
  have fresh : ∀ host : Run, probe.perform executor host =
      ((probe.perform executor ⟨host.cancelled, []⟩).1,
        { (probe.perform executor ⟨host.cancelled, []⟩).2 with
          commands := host.commands ++
            (probe.perform executor ⟨host.cancelled, []⟩).2.commands }) := by
    intro host
    have shifted := probe.perform_after executor host.commands ⟨host.cancelled, []⟩
    rw [List.append_nil] at shifted
    exact shifted
  rw [fresh first, fresh second, same]
  exact ⟨rfl, rfl⟩

/-- Two servers with the same components of a class. -/
def Device.SameFor (first second : Device) : ComponentKind → Prop
  | .drive => first.drives = second.drives
  | .nic => first.nics = second.nics
  | .bmc => first.bmc = second.bmc
  | .bios => first.bios = second.bios
  | .cpld => first.cpld = second.cpld
  | .storageController => first.storageControllers = second.storageControllers

namespace Device.SameFor

variable {first second third : Device} {kind : ComponentKind}

theorem refl (device : Device) (kind : ComponentKind) : device.SameFor device kind := by
  cases kind <;> rfl

theorem symm (same : first.SameFor second kind) : second.SameFor first kind := by
  cases kind <;> exact Eq.symm same

theorem trans (early : first.SameFor second kind) (late : second.SameFor third kind) :
    first.SameFor third kind := by
  cases kind <;> exact Eq.trans early late

end Device.SameFor

namespace Pass

/-- The place of the components of a class: two servers are the same there just if they have
the same components of the class, and what is put there leaves the rest of a server alone. -/
structure Place.Houses {γ : Type} (place : Place γ) (kind : ComponentKind) : Prop
    extends place.Lawful where
  sameFor_iff : ∀ first second : Device,
    first.SameFor second kind ↔ place.get first = place.get second
  others : ∀ (device : Device) (value : γ) (other : ComponentKind), other ≠ kind →
    device.SameFor (place.set device value) other
  identity : ∀ (device : Device) (value : γ),
    (place.set device value).toIdentity = device.toIdentity

/-! ## Properties of the work on a class -/

theorem houses_drives : drives.Houses .drive where
  toLawful := lawful_drives
  sameFor_iff _ _ := Iff.rfl
  others _ _ other different := by cases other <;> first | rfl | exact absurd rfl different
  identity _ _ := rfl

theorem houses_nics : nics.Houses .nic where
  toLawful := lawful_nics
  sameFor_iff _ _ := Iff.rfl
  others _ _ other different := by cases other <;> first | rfl | exact absurd rfl different
  identity _ _ := rfl

theorem houses_storageControllers : storageControllers.Houses .storageController where
  toLawful := lawful_storageControllers
  sameFor_iff _ _ := Iff.rfl
  others _ _ other different := by cases other <;> first | rfl | exact absurd rfl different
  identity _ _ := rfl

theorem houses_bmc : bmc.Houses .bmc where
  toLawful := lawful_bmc
  sameFor_iff _ _ := Iff.rfl
  others _ _ other different := by cases other <;> first | rfl | exact absurd rfl different
  identity _ _ := rfl

theorem houses_bios : bios.Houses .bios where
  toLawful := lawful_bios
  sameFor_iff _ _ := Iff.rfl
  others _ _ other different := by cases other <;> first | rfl | exact absurd rfl different
  identity _ _ := rfl

theorem houses_cpld : cpld.Houses .cpld where
  toLawful := lawful_cpld
  sameFor_iff _ _ := Iff.rfl
  others _ _ other different := by cases other <;> first | rfl | exact absurd rfl different
  identity _ _ := rfl

/-- Each class has its place, and the work on it is made of steps that deal with that place. -/
theorem exists_place (config : Config) (executor : Executor) (registry : Registry)
    (kind : ComponentKind) : ∃ (γ : Type) (place : Place γ), place.Houses kind ∧
      ∀ property : ∀ {α : Type}, Pass α → Prop, Composes executor kind place property →
        property (collectKind config executor registry kind) := by
  cases kind with
  | drive =>
    exact ⟨_, drives, houses_drives, fun _ composes => composes.collectDrives config registry⟩
  | nic => exact ⟨_, nics, houses_nics, fun _ composes => composes.collectList _⟩
  | bmc => exact ⟨_, bmc, houses_bmc, fun _ composes => composes.collectSingle _⟩
  | bios => exact ⟨_, bios, houses_bios, fun _ composes => composes.collectSingle _⟩
  | cpld => exact ⟨_, cpld, houses_cpld, fun _ composes => composes.collectSingle _⟩
  | storageController =>
    exact ⟨_, storageControllers, houses_storageControllers,
      fun _ composes => composes.collectList _⟩

variable {α β γ : Type} {place : Place γ} {part : Pass α} {next : α → Pass β}

/-! ## Confined parts -/

/-- A part that changes the server at one place only. -/
def Confined (place : Place γ) (part : Pass α) : Prop :=
  ∀ state, ∃ value, (part state).2.device = place.set state.device value

theorem confined_of_same (lawful : place.Lawful)
    (same : ∀ state, (part state).2.device = state.device) : Confined place part :=
  fun state => ⟨place.get state.device, (same state).trans (lawful.set_get state.device).symm⟩

theorem Confined.bind (lawful : place.Lawful) (first : Confined place part)
    (rest : ∀ value, Confined place (next value)) : Confined place (part >>= next) := by
  intro state
  refine state_bind (fun last => ∃ value, last.device = place.set state.device value)
    (first state) fun value later _ changed => ?_
  obtain ⟨early, device⟩ := changed
  obtain ⟨late, further⟩ := rest value later
  rw [further, device, lawful.set_set]
  exact ⟨late, rfl⟩

theorem composes_confined (executor : Executor) (kind : ComponentKind)
    (lawful : place.Lawful) : Composes executor kind place (Confined place) where
  pure _ := confined_of_same lawful fun _ => rfl
  bind := Confined.bind lawful
  ask collector := confined_of_same lawful fun state => by
    rw [ask_eq]
    cases collector.probe.perform executor state.host with
    | mk answer host => cases answer <;> rfl
  ofExcept _ result := confined_of_same lawful fun _ => by cases result <;> rfl
  read := confined_of_same lawful fun _ => rfl
  write value _ := ⟨value, rfl⟩
  check := confined_of_same lawful fun _ => rfl
  note _ := confined_of_same lawful fun _ => rfl

/-- The work on a class changes nothing of the others, and nothing of the server as a whole. -/
theorem sameFor_collectKind {kind other : ComponentKind} (config : Config) (executor : Executor)
    (registry : Registry) (different : other ≠ kind) (state : State) :
    state.device.SameFor (collectKind config executor registry kind state).2.device other := by
  obtain ⟨_, place, houses, works⟩ := exists_place config executor registry kind
  obtain ⟨value, changed⟩ := works (Confined place)
    (composes_confined executor kind houses.toLawful) state
  rw [changed]
  exact houses.others state.device value other different

theorem toIdentity_collectKind (config : Config) (executor : Executor) (registry : Registry)
    (kind : ComponentKind) (state : State) :
    (collectKind config executor registry kind state).2.device.toIdentity =
      state.device.toIdentity := by
  obtain ⟨_, place, houses, works⟩ := exists_place config executor registry kind
  obtain ⟨value, changed⟩ := works (Confined place)
    (composes_confined executor kind houses.toLawful) state
  rw [changed]
  exact houses.identity state.device value

/-! ## Parts that come to the same -/

/-- A part that gives the same answer in any two states that are alike in some way, and leaves
them alike. -/
def Respects (alike : State → State → Prop) (part : Pass α) : Prop :=
  ∀ first second, alike first second →
    (part first).1 = (part second).1 ∧ alike (part first).2 (part second).2

theorem Respects.bind {alike : State → State → Prop} (early : Respects alike part)
    (late : ∀ value, Respects alike (next value)) : Respects alike (part >>= next) := by
  intro first second same
  obtain ⟨sameAnswer, further⟩ := early first second same
  cases run : part first with
  | mk answer later =>
    cases otherRun : part second with
    | mk otherAnswer otherLater =>
      rw [run, otherRun] at sameAnswer further
      obtain rfl : answer = otherAnswer := sameAnswer
      cases answer with
      | data value =>
        rw [bind_of_data run, bind_of_data otherRun]
        exact late value later otherLater further
      | failure error =>
        rw [bind_of_failure run, bind_of_failure otherRun]
        exact ⟨rfl, further⟩
      | fault reason =>
        rw [bind_of_fault run, bind_of_fault otherRun]
        exact ⟨rfl, further⟩

/-! ## Local parts -/

/-- Two states of passes with the same in one place that were both cancelled or both not. -/
structure AlikeAt (place : Place γ) (first second : State) : Prop where
  there : place.get first.device = place.get second.device
  cancelled : first.host.cancelled = second.host.cancelled

/-- A part whose answer, and what it leaves in a place, depends on nothing but what is in that
place and on whether the pass was cancelled. -/
def Local (place : Place γ) (part : Pass α) : Prop :=
  ∀ first second, AlikeAt place first second →
    (part first).1 = (part second).1 ∧ AlikeAt place (part first).2 (part second).2

theorem Local.bind (early : Local place part) (late : ∀ value, Local place (next value)) :
    Local place (part >>= next) :=
  Respects.bind early late

theorem composes_local (executor : Executor) (kind : ComponentKind)
    (lawful : place.Lawful) : Composes executor kind place (Local place) where
  pure _ _ _ alike := ⟨rfl, alike⟩
  bind := Local.bind
  ask collector first second alike := by
    obtain ⟨sameAnswer, cancelled⟩ :=
      collector.probe.perform_alike executor alike.cancelled
    rw [ask_eq, ask_eq]
    cases performed : collector.probe.perform executor first.host with
    | mk answer host =>
      cases otherPerformed : collector.probe.perform executor second.host with
      | mk otherAnswer otherHost =>
        rw [performed, otherPerformed] at sameAnswer cancelled
        obtain rfl : answer = otherAnswer := sameAnswer
        cases answer <;> exact ⟨rfl, alike.there, cancelled⟩
  ofExcept _ result := by cases result <;> exact fun _ _ alike => ⟨rfl, alike⟩
  read _ _ alike := ⟨congrArg Answer.data alike.there, alike⟩
  write value first second alike :=
    ⟨rfl, ⟨(lawful.get_set _ _).trans (lawful.get_set _ _).symm, alike.cancelled⟩⟩
  check first second alike := by
    refine ⟨?_, alike⟩
    unfold checkCancelled
    rw [alike.cancelled]
  note _ _ _ alike := ⟨rfl, ⟨alike.there, alike.cancelled⟩⟩

/-- What the work on a class comes to depends on nothing of the server but the class. -/
theorem local_collectKind {kind : ComponentKind} (config : Config) (executor : Executor)
    (registry : Registry) {first second : State}
    (there : first.device.SameFor second.device kind)
    (cancelled : first.host.cancelled = second.host.cancelled) :
    (collectKind config executor registry kind first).1 =
        (collectKind config executor registry kind second).1 ∧
      (collectKind config executor registry kind first).2.device.SameFor
        (collectKind config executor registry kind second).2.device kind := by
  obtain ⟨_, place, houses, works⟩ := exists_place config executor registry kind
  obtain ⟨sameAnswer, alike⟩ := works (Local place)
    (composes_local executor kind houses.toLawful) first second
    ⟨(houses.sameFor_iff _ _).1 there, cancelled⟩
  exact ⟨sameAnswer, (houses.sameFor_iff _ _).2 alike.there⟩

end Pass

/-! ## The collectors of a class -/

/-- Two registries with the same collectors of a class. -/
def Registry.SameFor (first second : Registry) : ComponentKind → Prop
  | .drive =>
    first.drives = second.drives ∧ first.driveCapabilities = second.driveCapabilities
  | .nic => first.nics = second.nics
  | .bmc => first.bmc = second.bmc
  | .bios => first.bios = second.bios
  | .cpld => first.cpld = second.cpld
  | .storageController => first.storageControllers = second.storageControllers

theorem Registry.inventory_withDefaults_of_same {first second : Registry}
    (same : first.inventory = second.inventory) (config : Config) :
    (first.withDefaults config).inventory = (second.withDefaults config).inventory :=
  congrArg (Option.or · _) same

theorem Registry.SameFor.withDefaults {first second : Registry} {kind : ComponentKind}
    (same : first.SameFor second kind) (config : Config) :
    (first.withDefaults config).SameFor (second.withDefaults config) kind := by
  cases kind with
  | drive =>
    obtain ⟨drives, capabilities⟩ := same
    refine ⟨?_, capabilities⟩
    unfold Registry.withDefaults
    dsimp only
    rw [drives]
  | nic => exact congrArg (Option.or · _) same
  | bmc => exact congrArg (Option.or · _) same
  | bios => exact congrArg (Option.or · _) same
  | cpld => exact same
  | storageController => exact same

namespace Pass

section

variable {config : Config} {executor : Executor}

theorem withCapabilities_congr {first second : Registry}
    (same : first.driveCapabilities = second.driveCapabilities) (drive : Drive) :
    withCapabilities executor first drive = withCapabilities executor second drive := by
  have asked : first.capabilityCollector = second.capabilityCollector := by
    unfold Registry.capabilityCollector
    rw [same]
  unfold withCapabilities
  rw [asked]

theorem collectCapabilities_congr {first second : Registry}
    (same : first.driveCapabilities = second.driveCapabilities) : ∀ rest done : List Drive,
    collectCapabilities executor first done rest = collectCapabilities executor second done rest
  | [], _ => rfl
  | drive :: rest, done => by
    have others := collectCapabilities_congr same rest
    rw [collectCapabilities, collectCapabilities, withCapabilities_congr same drive]
    simp only [others]

theorem collectKind_congr {first second : Registry} {kind : ComponentKind}
    (same : first.SameFor second kind) :
    collectKind config executor first kind = collectKind config executor second kind := by
  cases kind with
  | drive =>
    obtain ⟨drives, capabilities⟩ := same
    unfold collectKind collectDrives
    simp only [drives, collectCapabilities_congr capabilities]
  | nic => exact congrArg (fun named : Option _ => collectList executor .nic named.toList nics) same
  | bmc => exact congrArg (collectSingle executor .bmc · bmc) same
  | bios => exact congrArg (collectSingle executor .bios · bios) same
  | cpld => exact congrArg (collectSingle executor .cpld · cpld) same
  | storageController =>
    exact congrArg (collectList executor .storageController · storageControllers) same

end

/-! ## Classes one after the other -/

/-- A state with the outcome of a class noted. -/
def State.reported (state : State) (kind : ComponentKind) (outcome : ClassOutcome) : State :=
  { state with
    summary := { state.summary with classes := state.summary.classes ++ [(kind, outcome)] } }

theorem collectKinds_cons (config : Config) (executor : Executor) (registry : Registry)
    (kind : ComponentKind) (kinds : List ComponentKind) (state : State) :
    collectKinds config executor registry (kind :: kinds) state =
      if state.host.cancelled then (.failure .cancelled, state)
      else match collectKind config executor registry kind state with
        | (.data outcome, later) =>
          collectKinds config executor registry kinds (later.reported kind outcome)
        | (.failure error, later) => (.failure error, later)
        | (.fault reason, later) => (.fault reason, later) := by
  rw [collectKinds]
  cases cancelled : state.host.cancelled with
  | true =>
    have checked : checkCancelled state = (.failure .cancelled, state) := by
      rw [checkCancelled, cancelled]
      rfl
    rw [bind_of_failure checked]
    rfl
  | false =>
    have checked : checkCancelled state = (.data (), state) := by
      rw [checkCancelled, cancelled]
      rfl
    rw [bind_of_data checked]
    cases worked : collectKind config executor registry kind state with
    | mk answer later =>
      cases answer with
      | data outcome =>
        rw [bind_of_data worked]
        rfl
      | failure error =>
        rw [bind_of_failure worked]
        rfl
      | fault reason =>
        rw [bind_of_fault worked]
        rfl

/-- If the work on some classes came to its end, so did that on the first one. -/
theorem exists_of_collectKinds {config : Config} {executor : Executor} {registry : Registry}
    {kind : ComponentKind} {kinds : List ComponentKind} {state later : State}
    (run : collectKinds config executor registry (kind :: kinds) state = (.data (), later)) :
    state.host.cancelled = false ∧ ∃ outcome between,
      collectKind config executor registry kind state = (.data outcome, between) ∧
      collectKinds config executor registry kinds (between.reported kind outcome) =
        (.data (), later) := by
  rw [collectKinds_cons] at run
  split at run
  · cases run
  · rename_i uncancelled
    cases worked : collectKind config executor registry kind state with
    | mk answer between =>
      rw [worked] at run
      cases answer with
      | data outcome => exact ⟨Bool.eq_false_iff.2 uncancelled, outcome, between, rfl, run⟩
      | failure error => cases run
      | fault reason => cases run

/-- What the work on each of some classes keeps, the work on all of them keeps. -/
theorem kept_collectKinds (config : Config) (executor : Executor) (registry : Registry)
    (relation : State → State → Prop) (refl : ∀ state, relation state state)
    (trans : ∀ first second third, relation first second → relation second third →
      relation first third)
    (noted : ∀ state kind outcome, relation state (State.reported state kind outcome)) :
    ∀ (kinds : List ComponentKind) (state : State),
    (∀ kind ∈ kinds, ∀ state, relation state (collectKind config executor registry kind state).2) →
    relation state (collectKinds config executor registry kinds state).2
  | [], state, _ => refl state
  | kind :: kinds, state, kept => by
    have own := kept kind List.mem_cons_self state
    rw [collectKinds_cons]
    split
    · exact refl state
    · cases worked : collectKind config executor registry kind state with
      | mk answer later =>
        rw [worked] at own
        cases answer with
        | data outcome =>
          have others := kept_collectKinds config executor registry relation refl trans
            noted kinds (later.reported kind outcome) fun kind member =>
              kept kind (List.mem_cons_of_mem _ member)
          exact trans _ _ _ own (trans _ _ _ (noted later kind outcome) others)
        | failure error => exact own
        | fault reason => exact own

theorem sameFor_collectKinds {kind : ComponentKind} {kinds : List ComponentKind}
    (config : Config) (executor : Executor) (registry : Registry) (without : kind ∉ kinds)
    (state : State) :
    state.device.SameFor (collectKinds config executor registry kinds state).2.device kind :=
  kept_collectKinds config executor registry
    (fun early late => early.device.SameFor late.device kind)
    (fun state => .refl state.device kind) (fun _ _ _ => Device.SameFor.trans)
    (fun state _ _ => .refl state.device kind) kinds state fun _ member state =>
      sameFor_collectKind config executor registry (ne_of_mem_of_not_mem member without).symm state

theorem toIdentity_collectKinds (config : Config) (executor : Executor) (registry : Registry)
    (kinds : List ComponentKind) (state : State) :
    (collectKinds config executor registry kinds state).2.device.toIdentity =
      state.device.toIdentity :=
  kept_collectKinds config executor registry
    (fun early late => late.device.toIdentity = early.device.toIdentity)
    (fun _ => rfl) (fun _ _ _ early late => late.trans early) (fun _ _ _ => rfl) kinds state
    fun kind _ state => toIdentity_collectKind config executor registry kind state

/-! ## The whole pass -/

/-- What a pass leaves behind after the work on the classes. Only if that came to its end
models are filled in. -/
def concluded : Answer Unit × State → Result
  | (.data (), last) => ⟨.data last.summary, some last.device.withModels, last.host⟩
  | (.failure error, last) => ⟨.failure error, some last.device, last.host⟩
  | (.fault reason, last) => ⟨.fault reason, some last.device, last.host⟩

theorem host_concluded (collected : Answer Unit × State) :
    (concluded collected).host = collected.2.host := by
  obtain ⟨answer, last⟩ := collected
  cases answer <;> rfl

theorem drives_concluded (collected : Answer Unit × State) :
    ∃ last, (concluded collected).device = some last ∧
      last.drives = collected.2.device.drives := by
  obtain ⟨answer, last⟩ := collected
  cases answer <;> exact ⟨_, rfl, rfl⟩

theorem data_of_concluded {collected : Answer Unit × State} {summary : Summary}
    (done : (concluded collected).answer = .data summary) : collected.1 = .data () := by
  obtain ⟨answer, last⟩ := collected
  cases answer <;> cases done
  rfl

theorem collect_eq {config : Config} {executor : Executor} {registry : Registry}
    {baseline : Collector Device}
    (there : (registry.withDefaults config).inventory = some baseline) (device : Device)
    (host : Run) : collect config executor registry (some device) host =
      match baseline.probe.perform executor host with
      | (.data found, after) =>
        concluded (collectKinds config executor (registry.withDefaults config) ComponentKind.all
          { device := device.absorbed found, host := after })
      | (.failure error, after) => ⟨.failure (.collector "inventory" error), some device, after⟩
      | (.fault reason, after) => ⟨.fault reason, some device, after⟩ := by
  rw [collect, run_eq config there]
  cases performed : baseline.probe.perform executor host with
  | mk answer after =>
    cases answer with
    | failure error => rfl
    | fault reason => rfl
    | data found =>
      dsimp only
      unfold afterBaseline
      cases collected : collectKinds config executor (registry.withDefaults config)
          ComponentKind.all { device := device.absorbed found, host := after } with
      | mk answer last =>
        cases answer with
        | data value => rw [bind_of_data collected]; rfl
        | failure error => rw [bind_of_failure collected]; rfl
        | fault reason => rw [bind_of_fault collected]; rfl

/-- A pass that comes to an end has absorbed what the baseline found and taken all classes. -/
theorem exists_of_collect {config : Config} {executor : Executor} {registry : Registry}
    {device : Device} {host : Run} {summary : Summary}
    (done : (collect config executor registry (some device) host).answer = .data summary) :
    ∃ baseline found after last,
      (registry.withDefaults config).inventory = some baseline ∧
      baseline.probe.perform executor host = (.data found, after) ∧
      collectKinds config executor (registry.withDefaults config) ComponentKind.all
        { device := device.absorbed found, host := after } = (.data (), last) ∧
      last.summary = summary ∧
      collect config executor registry (some device) host =
        ⟨.data summary, some last.device.withModels, last.host⟩ := by
  obtain ⟨baseline, there⟩ := exists_inventory registry config
  rw [collect_eq there] at done ⊢
  cases performed : baseline.probe.perform executor host with
  | mk answer after =>
    rw [performed] at done
    cases answer with
    | failure error => cases done
    | fault reason => cases done
    | data found =>
      dsimp only at done ⊢
      cases collected : collectKinds config executor (registry.withDefaults config)
          ComponentKind.all { device := device.absorbed found, host := after } with
      | mk answer last =>
        rw [collected] at done
        cases answer with
        | failure error => cases done
        | fault reason => cases done
        | data value =>
          cases done
          exact ⟨baseline, found, after, last, there, performed, collected, rfl, rfl⟩

end Pass

end ServerInventory
