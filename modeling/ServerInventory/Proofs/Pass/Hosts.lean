import ServerInventory.Proofs.Pass.Composition

/-!
What a pass does on its host. Once the pass is cancelled, nothing is done there any more, by a
probe (`Probe.perform_of_cancelled`) or by what follows the baseline
(`Pass.rests_afterBaseline`); as long as it is not, what a probe finds and which commands it runs
does not depend on what happened before (`Probe.perform_of_uncancelled`).
-/

namespace ServerInventory

/-! ## Probes -/

namespace Probe

variable {α β : Type} (executor : Executor)

theorem perform_of_cancelled : ∀ (probe : Probe α) {host : Run}, host.cancelled = true →
    (probe.perform executor host).2 = host
  | finish (.ok _), _, _ => rfl
  | finish (.error _), _, _ => rfl
  | fault _, _, _ => rfl
  | cancel rest, ⟨true, _⟩, cancelled => perform_of_cancelled rest cancelled
  | run _ rest, ⟨true, _⟩, cancelled =>
    perform_of_cancelled (rest (.error .cancelled)) cancelled

/-- The commands of the past are behind those that a probe runs, and count for nothing. -/
theorem perform_after (past : List Command) : ∀ (probe : Probe α) (host : Run),
    probe.perform executor { host with commands := past ++ host.commands } =
      ((probe.perform executor host).1,
        { (probe.perform executor host).2 with
          commands := past ++ (probe.perform executor host).2.commands })
  | finish (.ok _), _ => rfl
  | finish (.error _), _ => rfl
  | fault _, _ => rfl
  | cancel rest, host => perform_after past rest { host with cancelled := true }
  | run command rest, ⟨true, commands⟩ =>
    perform_after past (rest (.error .cancelled)) ⟨true, commands⟩
  | run command rest, ⟨false, commands⟩ => by
    have next := perform_after past (rest (executor command)) ⟨false, commands ++ [command]⟩
    have order : past ++ (commands ++ [command]) = past ++ commands ++ [command] :=
      (List.append_assoc past commands [command]).symm
    dsimp only at next
    rw [order] at next
    exact next

/-- A probe in a pass that is not cancelled before its end. -/
theorem perform_of_uncancelled (probe : Probe α) {host : Run}
    (uncancelled : (probe.perform executor host).2.cancelled = false) :
    probe.perform executor host =
      ((probe.perform executor {}).1,
        { host with commands := host.commands ++ (probe.perform executor {}).2.commands }) := by
  have before : host.cancelled = false := by
    rw [Bool.eq_false_iff]
    intro cancelled
    rw [perform_of_cancelled executor probe cancelled, cancelled] at uncancelled
    cases uncancelled
  obtain ⟨cancelled, commands⟩ := host
  obtain rfl : cancelled = false := before
  have shifted := perform_after executor commands probe {}
  rw [List.append_nil] at shifted
  rw [shifted] at uncancelled ⊢
  exact congrArg (fun flag => ((probe.perform executor {}).1, (⟨flag, _⟩ : Run))) uncancelled

theorem perform_bind (next : α → Probe β) : ∀ (probe : Probe α) (host : Run),
    (probe >>= next).perform executor host =
      match probe.perform executor host with
      | (.data value, host) => (next value).perform executor host
      | (.failure error, host) => (.failure error, host)
      | (.fault reason, host) => (.fault reason, host)
  | finish (.ok _), _ => rfl
  | finish (.error _), _ => rfl
  | fault _, _ => rfl
  | cancel rest, host => perform_bind next rest { host with cancelled := true }
  | run command rest, host =>
    perform_bind next (rest (host.exec executor command).1) (host.exec executor command).2

end Probe

namespace Pass

variable {α β : Type} {part : Pass α} {next : α → Pass β}

/-! ## Hosts of cancelled passes -/

/-- A part of a pass that does nothing on the host once the pass is cancelled. -/
def Rests (part : Pass α) : Prop :=
  ∀ state : State, state.host.cancelled = true → (part state).2.host = state.host

theorem Rests.bind (first : part.Rests) (rest : ∀ value, (next value).Rests) :
    (part >>= next).Rests := by
  intro state cancelled
  refine state_bind (·.host = state.host) (first state cancelled) fun value later _ same => ?_
  rw [rest value later (same ▸ cancelled), same]

/-- Who comes to an end with the pass uncancelled was not cancelled at its start. -/
theorem Rests.uncancelled (rests : part.Rests) {state : State}
    (after : (part state).2.host.cancelled = false) : state.host.cancelled = false := by
  rw [Bool.eq_false_iff]
  intro cancelled
  rw [rests state cancelled, cancelled] at after
  cases after

theorem rests_pure (value : α) : (Pure.pure value : Pass α).Rests :=
  fun _ _ => rfl

theorem rests_checkCancelled : checkCancelled.Rests :=
  fun _ _ => rfl

theorem rests_perform (executor : Executor) (probe : Probe α) :
    (perform executor probe).Rests :=
  fun _ cancelled => probe.perform_of_cancelled executor cancelled

theorem rests_ofExcept (name : String) (result : Except Error α) :
    (ofExcept name result).Rests := by
  cases result <;> exact fun _ _ => rfl

theorem rests_isolate (name : String) (rests : part.Rests) : (isolate name part).Rests := by
  intro state cancelled
  have same := rests state cancelled
  unfold isolate
  cases run : part state with
  | mk answer later =>
    rw [run] at same
    cases answer <;> exact same

theorem rests_noteFault (fault : Fault) : (noteFault fault).Rests :=
  fun _ _ => rfl

theorem rests_ask (executor : Executor) (kind : ComponentKind) (collector : Collector α) :
    (ask executor kind collector).Rests := by
  refine (rests_isolate kind.name (rests_perform executor collector.probe)).bind fun answer => ?_
  cases answer with
  | ok found => exact rests_pure (some found)
  | error reason => exact Rests.bind (rests_noteFault _) fun _ => rests_pure none

theorem rests_read (place : Place α) : (read place).Rests :=
  fun _ _ => rfl

theorem rests_write (place : Place α) (value : α) : (write place value).Rests :=
  fun _ _ => rfl

theorem composes_rests {γ : Type} (executor : Executor) (kind : ComponentKind)
    (place : Place γ) : Composes executor kind place Rests where
  pure := rests_pure
  bind := Rests.bind
  ask := rests_ask executor kind
  ofExcept := rests_ofExcept
  read := rests_read place
  write := rests_write place
  check := rests_checkCancelled
  note _ _ _ := rfl

theorem rests_collectKind (config : Config) (executor : Executor) (registry : Registry)
    (kind : ComponentKind) : (collectKind config executor registry kind).Rests :=
  Composes.collectKind (composes_rests executor) config registry kind

theorem rests_collectKinds (config : Config) (executor : Executor) (registry : Registry) :
    ∀ kinds : List ComponentKind, (collectKinds config executor registry kinds).Rests
  | [] => rests_pure ()
  | kind :: kinds => by
    have rest := rests_collectKinds config executor registry kinds
    refine rests_checkCancelled.bind fun _ => ?_
    refine (rests_collectKind config executor registry kind).bind fun outcome => ?_
    exact Rests.bind (fun _ _ => rfl) fun _ => rest

/-- What follows the baseline in a pass. -/
def afterBaseline (config : Config) (executor : Executor) (registry : Registry) :
    Pass Summary := do
  collectKinds config executor registry ComponentKind.all
  update fun state => { state with device := state.device.withModels }
  return (← Pass.state).summary

theorem run_of_inventory (config : Config) (executor : Executor) {registry : Registry}
    {collector : Collector Device} (there : registry.inventory = some collector) :
    run config executor registry =
      baseline executor collector >>= fun _ => afterBaseline config executor registry := by
  rw [run, there]
  rfl

theorem rests_afterBaseline (config : Config) (executor : Executor) (registry : Registry) :
    (afterBaseline config executor registry).Rests :=
  (rests_collectKinds config executor registry ComponentKind.all).bind fun _ _ _ => rfl

end Pass

end ServerInventory
