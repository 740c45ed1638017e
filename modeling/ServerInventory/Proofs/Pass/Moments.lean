import ServerInventory.Proofs.Pass.Breakdown
import ServerInventory.Proofs.Pass.Locality
import ServerInventory.Proofs.Pass.Retention

/-!
The calls that a pass makes however it ends, and what the host is like from moment to moment
meanwhile. A part of a pass makes a first few of its calls, all of them unless it ends early
(`Pass.Makes`). Nothing is done on the host after a moment at which the pass is cancelled
(`Probe.perform_of_mem_moments`, `hostAfter_of_mem_momentsOf`).
-/

namespace ServerInventory

/-! ## Moments -/

namespace Probe

variable {α : Type} {executor : Executor} {host now : Run}

/-- The host from moment to moment while a probe is carried out. -/
def moments (executor : Executor) : Probe α → Run → List Run
  | finish _, host => [host]
  | fault _, host => [host]
  | cancel rest, host => host :: rest.moments executor { host with cancelled := true }
  | run command rest, host =>
    host :: (rest (host.exec executor command).1).moments executor (host.exec executor command).2

theorem perform_mem_moments : ∀ (probe : Probe α) (host : Run),
    (probe.perform executor host).2 ∈ probe.moments executor host
  | finish (.ok _), _ => List.mem_singleton_self _
  | finish (.error _), _ => List.mem_singleton_self _
  | fault _, _ => List.mem_singleton_self _
  | cancel rest, _ => List.mem_cons_of_mem _ (perform_mem_moments rest _)
  | run _ rest, _ => List.mem_cons_of_mem _ (perform_mem_moments (rest _) _)

/-- Once the pass is cancelled the host stays as it is. -/
theorem perform_of_mem_moments : ∀ (probe : Probe α) {host : Run},
    now ∈ probe.moments executor host → now.cancelled = true →
      (probe.perform executor host).2 = now
  | finish (.ok _), _, member, _ => (List.mem_singleton.1 member).symm
  | finish (.error _), _, member, _ => (List.mem_singleton.1 member).symm
  | fault _, _, member, _ => (List.mem_singleton.1 member).symm
  | cancel rest, host, member, cancelled => by
    rcases List.mem_cons.1 member with rfl | later
    · exact perform_of_cancelled executor (cancel rest) cancelled
    · exact perform_of_mem_moments rest later cancelled
  | run command rest, host, member, cancelled => by
    rcases List.mem_cons.1 member with rfl | later
    · exact perform_of_cancelled executor (run command rest) cancelled
    · exact perform_of_mem_moments (rest _) later cancelled

end Probe

section

variable (executor : Executor)

/-- The host from moment to moment while some calls are made. -/
def momentsOf : List Call → Run → List Run
  | [], host => [host]
  | call :: later, host =>
    call.probe.moments executor host ++ momentsOf later (call.probe.perform executor host).2

variable {executor}

theorem hostAfter_mem_momentsOf : ∀ (calls : List Call) (host : Run),
    hostAfter executor calls host ∈ momentsOf executor calls host
  | [], _ => List.mem_singleton_self _
  | _ :: later, _ => List.mem_append_right _ (hostAfter_mem_momentsOf later _)

theorem hostAfter_of_cancelled : ∀ (calls : List Call) {host : Run}, host.cancelled = true →
    hostAfter executor calls host = host
  | [], _, _ => rfl
  | call :: later, host, cancelled => by
    have same := call.probe.perform_of_cancelled executor cancelled
    have rest := hostAfter_of_cancelled later cancelled
    show hostAfter executor later (call.probe.perform executor host).2 = host
    rw [same, rest]

theorem hostAfter_of_mem_momentsOf {now : Run} : ∀ (calls : List Call) {host : Run},
    now ∈ momentsOf executor calls host → now.cancelled = true →
      hostAfter executor calls host = now
  | [], _, member, _ => (List.mem_singleton.1 member).symm
  | call :: later, host, member, cancelled => by
    show hostAfter executor later (call.probe.perform executor host).2 = now
    rcases List.mem_append.1 member with own | further
    · have same := call.probe.perform_of_mem_moments own cancelled
      rw [same, hostAfter_of_cancelled later cancelled]
    · exact hostAfter_of_mem_momentsOf later further cancelled

end

/-- None of some calls reports an error. -/
def Unfailed (executor : Executor) (calls : List Call) (host : Run) : Prop :=
  ∀ answered ∈ answersTo executor calls host, ∀ error, answered.2 ≠ .failure error

theorem unfailed_append {executor : Executor} {early late : List Call} {host : Run} :
    Unfailed executor (early ++ late) host ↔
      Unfailed executor early host ∧ Unfailed executor late (hostAfter executor early host) := by
  unfold Unfailed
  rw [answersTo_append, List.forall_mem_append]

theorem Unfailed.of_prefix {executor : Executor} {made calls : List Call} {host : Run}
    (unfailed : Unfailed executor calls host) (order : made <+: calls) :
    Unfailed executor made host := by
  obtain ⟨rest, rfl⟩ := order
  exact (unfailed_append.1 unfailed).1

/-! ## The calls that are made -/

namespace Pass

section

variable {α β : Type}

/-- How a part of a pass that has some calls to make has made the first of them, each on the
host as the one before has left it, and the last one only may have reported an error. If the
part came to its end all calls were made, and none reported an error. -/
structure Made (executor : Executor) (calls : List Call) (host : Run)
    (outcome : Answer α × State) (made : List Call) : Prop where
  order : made <+: calls
  leaves : outcome.2.host = hostAfter executor made host
  unfailed : Unfailed executor made.dropLast host
  all : ∀ value, outcome.1 = .data value → made = calls ∧ Unfailed executor made host

def Makes (executor : Executor) (calls : List Call) (host : Run)
    (outcome : Answer α × State) : Prop :=
  ∃ made, Made executor calls host outcome made

variable {executor : Executor} {part : Pass α} {next : α → Pass β} {state : State}
  {calls early late : List Call} {outcome : Answer α × State}

theorem makes_of_host {host : Run} (same : outcome.2.host = host) :
    Makes executor [] host outcome :=
  ⟨[], List.nil_prefix, same, nofun, fun _ _ => ⟨rfl, nofun⟩⟩

/-- A part that came to its end is followed by another one. -/
theorem Makes.trans {host : Run} {value : α} {later : State} {last : Answer β × State}
    (first : Makes executor early host (.data value, later))
    (rest : Makes executor late later.host last) : Makes executor (early ++ late) host last := by
  obtain ⟨made, order, sameHost, _, all⟩ := first
  obtain ⟨further, furtherOrder, furtherHost, ongoing, furtherAll⟩ := rest
  obtain ⟨rfl, unfailed⟩ := all value rfl
  have between : later.host = hostAfter executor made host := sameHost
  rw [between] at furtherHost ongoing furtherAll
  refine ⟨made ++ further, (List.prefix_append_right_inj made).2 furtherOrder, ?_, ?_, ?_⟩
  · rw [furtherHost, hostAfter_append]
  · rw [List.dropLast_append]
    split
    · exact unfailed.of_prefix made.dropLast_prefix
    · exact unfailed_append.2 ⟨unfailed, ongoing⟩
  · intro result ended
    obtain ⟨rfl, furtherUnfailed⟩ := furtherAll result ended
    exact ⟨rfl, unfailed_append.2 ⟨unfailed, furtherUnfailed⟩⟩

/-- What would have followed a part that ended early has not been done. -/
theorem Makes.cut {host : Run} (first : Makes executor early host outcome)
    (late : List Call) {other : Answer β × State} (sameHost : other.2.host = outcome.2.host)
    (ended : ∀ value, other.1 ≠ .data value) : Makes executor (early ++ late) host other := by
  obtain ⟨made, order, host, ongoing, _⟩ := first
  exact ⟨made, order.trans (List.prefix_append early late), sameHost.trans host, ongoing,
    fun value answered => absurd answered (ended value)⟩

theorem Makes.bind (first : Makes executor early state.host (part state))
    (rest : ∀ value later, part state = (.data value, later) →
      Makes executor late later.host (next value later)) :
    Makes executor (early ++ late) state.host ((part >>= next) state) := by
  refine bind_cases (Makes executor (early ++ late) state.host) ?_ ?_ ?_
  · intro value later run
    rw [run] at first
    exact first.trans (rest value later run)
  · intro error later run
    rw [run] at first
    exact first.cut late rfl nofun
  · intro reason later run
    rw [run] at first
    exact first.cut late rfl nofun

/-- A part that makes no calls follows. -/
theorem Makes.bind_quiet (first : Makes executor calls state.host (part state))
    (quiet : ∀ value later, (next value later).2.host = later.host) :
    Makes executor calls state.host ((part >>= next) state) := by
  have whole : Makes executor (calls ++ []) state.host ((part >>= next) state) :=
    first.bind fun value later _ => makes_of_host (quiet value later)
  rw [List.append_nil] at whole
  exact whole

variable (executor)

theorem makes_ask (kind : ComponentKind) (collector : Collector α) (state : State) :
    Makes executor [.of kind collector] state.host (ask executor kind collector state) := by
  have called := Call.perform_of executor kind collector state.host
  refine ⟨[.of kind collector], List.prefix_rfl, ?_, nofun, fun value told => ⟨rfl, ?_⟩⟩
  · show _ = ((Call.of kind collector).probe.perform executor state.host).2
    rw [ask_eq, called]
    cases collector.probe.perform executor state.host with
    | mk answer host => cases answer <;> rfl
  · refine List.forall_mem_singleton.2 fun error => ?_
    rw [called]
    rw [ask_eq] at told
    cases performed : collector.probe.perform executor state.host with
    | mk answer host =>
      rw [performed] at told
      cases answer with
      | failure error => cases told
      | data found => nofun
      | fault reason => nofun

theorem makes_gather (kind : ComponentKind) : ∀ (collectors : List (Collector (List α)))
    (state : State),
    Makes executor (collectors.map (.of kind)) state.host (gather executor kind collectors state)
  | [], _ => makes_of_host rfl
  | collector :: collectors, state => by
    refine (makes_ask executor kind collector state).bind fun answer later _ => ?_
    have rest := makes_gather kind collectors later
    cases answer with
    | none => exact rest
    | some found => exact rest.bind_quiet fun _ _ => rfl

theorem makes_collectWith {kind : ComponentKind} {mergeFound : List α → Pass ClassOutcome}
    (collectors : List (Collector (List α)))
    (quiet : ∀ fragments state, (mergeFound fragments state).2.host = state.host)
    (state : State) :
    Makes executor (collectors.map (.of kind)) state.host
      (collectWith executor kind collectors mergeFound state) := by
  unfold collectWith
  split
  · rename_i nobody
    rw [List.isEmpty_iff.1 nobody]
    exact makes_of_host rfl
  · refine (makes_gather executor kind collectors state).bind_quiet fun found later => ?_
    dsimp only
    split
    · rfl
    · exact quiet found.2 later

theorem makes_collectList [Identified α] [LawfulIdentified α] (kind : ComponentKind)
    {place : Place (List α)} (lawful : place.Lawful) (collectors : List (Collector (List α)))
    (state : State) :
    Makes executor (collectors.map (.of kind)) state.host
      (collectList executor kind collectors place state) := by
  refine makes_collectWith executor collectors (fun fragments state => ?_) state
  obtain ⟨_, _, merged⟩ := exists_mergeList kind lawful fragments state
  rw [merged]

theorem makes_collectSingle [Recordable α] [LawfulRecordable α] [DecidableEq α] [Inhabited α]
    (kind : ComponentKind) {place : Place α} (lawful : place.Lawful)
    (collector : Option (Collector α)) (state : State) :
    Makes executor (collector.toList.map (.of kind)) state.host
      (collectSingle executor kind collector place state) := by
  rw [← Call.map_of_asList]
  refine makes_collectWith executor _ (fun fragments state => ?_) state
  obtain ⟨_, _, merged⟩ := exists_mergeSingle kind lawful fragments state
  rw [merged]

/-! ## Features of drives -/

variable (registry : Registry)

theorem makes_withCapabilities (drive : Drive) (state : State) :
    Makes executor (registry.featureCalls [drive]) state.host
      (withCapabilities executor registry drive state) := by
  unfold withCapabilities
  split
  · rename_i nameless
    rw [featureCalls_of_nameless registry nameless]
    exact makes_of_host rfl
  · rename_i named
    rw [featureCalls_of_named registry named]
    have checked : Makes executor [] state.host (checkCancelled state) := makes_of_host rfl
    refine checked.bind fun _ later _ => ?_
    refine (makes_ask executor .drive (registry.featureCollector drive) later).bind_quiet
      fun answer _ => ?_
    cases answer with
    | none => rfl
    | some found =>
      dsimp only
      cases mergeField drive { capabilities := .ofList found } "Capabilities" <;> rfl

theorem makes_collectCapabilities : ∀ (rest done : List Drive) (state : State),
    Makes executor (registry.featureCalls rest) state.host
      (collectCapabilities executor registry done rest state)
  | [], _, _ => makes_of_host rfl
  | drive :: rest, done, state => by
    rw [featureCalls_cons]
    refine (makes_withCapabilities executor registry drive state).bind fun merged later _ => ?_
    have others := makes_collectCapabilities rest (done ++ [merged.record])
      { later with device := drives.set later.device (done ++ merged.record :: rest) }
    exact others.bind_quiet fun _ _ => rfl

/-! ## The classes -/

variable (config : Config)

/-- The drives that are left tell whose features were to be asked for. -/
theorem makes_collectDrives (state : State) :
    let outcome := collectDrives config executor registry state
    Makes executor (registry.calls config outcome.2.device.drives .drive) state.host outcome := by
  intro outcome
  have list := makes_collectList executor .drive lawful_drives registry.drives state
  by_cases asked : config.collectDriveCapabilities = true
  · rw [Registry.calls, if_pos ⟨rfl, asked⟩]
    refine list.bind fun joined later run => ?_
    have whole : outcome = _ := bind_of_data run
    rw [if_pos asked, read_bind] at whole ⊢
    have names := names_collectCapabilities executor registry (drives.get later.device) [] later rfl
    have features := makes_collectCapabilities executor registry (drives.get later.device) [] later
    have same : outcome.2.device = (collectCapabilities executor registry []
        (drives.get later.device) later).2.device := by
      rw [whole]
      exact state_bind (·.device = _) rfl fun _ _ _ same => same
    rw [same, Registry.featureCalls_congr names]
    exact features.bind_quiet fun _ _ => rfl
  · rw [Registry.calls, if_neg fun both => asked both.2]
    refine list.bind_quiet fun joined later => ?_
    rw [if_neg asked]
    rfl

theorem makes_collectKind (kind : ComponentKind) (state : State) :
    let outcome := collectKind config executor registry kind state
    Makes executor (registry.calls config outcome.2.device.drives kind) state.host outcome := by
  intro outcome
  by_cases drive : kind = .drive
  · subst drive
    exact makes_collectDrives executor registry config state
  · rw [calls_of_ne_drive registry config _ drive]
    cases kind with
    | drive => exact absurd rfl drive
    | nic => exact makes_collectList executor .nic lawful_nics _ state
    | storageController =>
      exact makes_collectList executor .storageController lawful_storageControllers _ state
    | bmc => exact makes_collectSingle executor .bmc lawful_bmc _ state
    | bios => exact makes_collectSingle executor .bios lawful_bios _ state
    | cpld => exact makes_collectSingle executor .cpld lawful_cpld _ state

/-- The drives that are left in the end tell whose features were to be asked for, as no class
but their own changes them. -/
theorem makes_collectKinds : ∀ {kinds : List ComponentKind} (state : State), kinds.Nodup →
    let outcome := collectKinds config executor registry kinds state
    Makes executor (kinds.flatMap (registry.calls config outcome.2.device.drives)) state.host
      outcome
  | [], _, _ => makes_of_host rfl
  | kind :: kinds, state, distinct => by
    obtain ⟨outside, distinct⟩ := List.nodup_cons.1 distinct
    have own := makes_collectKind executor registry config kind state
    dsimp only at own ⊢
    rw [List.flatMap_cons, collectKinds_cons]
    split
    · exact ⟨[], List.nil_prefix, rfl, nofun, nofun⟩
    · cases worked : collectKind config executor registry kind state with
      | mk answer later =>
        rw [worked] at own
        cases answer with
        | data outcome =>
          have others := makes_collectKinds (later.reported kind outcome) distinct
          have calls : registry.calls config (collectKinds config executor registry kinds
              (later.reported kind outcome)).2.device.drives kind =
                registry.calls config later.device.drives kind := by
            by_cases drive : kind = .drive
            · subst drive
              have kept : later.device.drives = _ := sameFor_collectKinds config executor registry
                outside (later.reported .drive outcome)
              rw [← kept]
            · rw [calls_of_ne_drive _ _ _ drive, calls_of_ne_drive _ _ _ drive]
          dsimp only
          rw [calls]
          exact own.trans others
        | failure error => exact own.cut _ rfl nofun
        | fault reason => exact own.cut _ rfl nofun

end

end Pass

end ServerInventory
