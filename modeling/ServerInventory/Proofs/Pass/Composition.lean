import ServerInventory.Pass

/-!
Parts of a pass put together. A part that follows another one is carried out where that one
ended, unless it ended the pass (`Pass.bind_cases`). The work on a class of components is put
together from a few steps, so a property that they have, and that parts one after the other
inherit, is one of the whole work (`Pass.Composes`).
-/

namespace ServerInventory

namespace Pass

section

variable {α β : Type} {part : Pass α} {next : α → Pass β} {state later : State}

/-! ## Parts one after the other -/

theorem bind_of_data {value : α} (first : part state = (.data value, later)) :
    (part >>= next) state = next value later := by
  change Pass.bind part next state = next value later
  rw [Pass.bind, first]

theorem bind_of_failure {error : Error} (first : part state = (.failure error, later)) :
    (part >>= next) state = (.failure error, later) := by
  change Pass.bind part next state = (.failure error, later)
  rw [Pass.bind, first]

theorem bind_of_fault {reason : String} (first : part state = (.fault reason, later)) :
    (part >>= next) state = (.fault reason, later) := by
  change Pass.bind part next state = (.fault reason, later)
  rw [Pass.bind, first]

/-- What two parts come to is what the first one came to, which ended the pass, or what the
second one came to, which took over from it. -/
theorem bind_cases (property : Answer β × State → Prop)
    (data : ∀ value later, part state = (.data value, later) → property (next value later))
    (failure : ∀ error later, part state = (.failure error, later) →
      property (.failure error, later))
    (fault : ∀ reason later, part state = (.fault reason, later) →
      property (.fault reason, later)) : property ((part >>= next) state) := by
  cases run : part state with
  | mk answer later =>
    cases answer with
    | data value =>
      rw [bind_of_data run]
      exact data value later run
    | failure error =>
      rw [bind_of_failure run]
      exact failure error later run
    | fault reason =>
      rw [bind_of_fault run]
      exact fault reason later run

theorem state_bind (property : State → Prop) (ended : property (part state).2)
    (further : ∀ value later, part state = (.data value, later) → property later →
      property (next value later).2) : property ((part >>= next) state).2 := by
  refine bind_cases (fun outcome => property outcome.2) ?_ ?_ ?_
  · intro value later run
    rw [run] at ended
    exact further value later run ended
  · intro error later run
    rw [run] at ended
    exact ended
  · intro reason later run
    rw [run] at ended
    exact ended

/-- Two parts that came to their end both did. -/
theorem exists_of_bind_data {value : β} (run : (part >>= next) state = (.data value, later)) :
    ∃ found between, part state = (.data found, between) ∧
      next found between = (.data value, later) := by
  cases first : part state with
  | mk answer between =>
    cases answer with
    | data found =>
      rw [bind_of_data first] at run
      exact ⟨found, between, rfl, run⟩
    | failure error =>
      rw [bind_of_failure first] at run
      cases run
    | fault reason =>
      rw [bind_of_fault first] at run
      cases run

theorem read_bind (place : Place α) (next : α → Pass β) (state : State) :
    (read place >>= next) state = next (place.get state.device) state :=
  rfl

theorem write_bind (place : Place α) (value : α) (next : Unit → Pass β) (state : State) :
    (write place value >>= next) state =
      next () { state with device := place.set state.device value } :=
  rfl

end

/-! ## The work on a class -/

/-- A property of parts of a pass that holds of every step of the work on a class of
components, and that parts one after the other have if each of them has it. -/
structure Composes {γ : Type} (executor : Executor) (kind : ComponentKind) (place : Place γ)
    (property : ∀ {α : Type}, Pass α → Prop) : Prop where
  pure : ∀ {α : Type} (value : α), property (Pure.pure value : Pass α)
  bind : ∀ {α β : Type} {part : Pass α} {next : α → Pass β},
    property part → (∀ value, property (next value)) → property (part >>= next)
  ask : ∀ {α : Type} (collector : Collector α), property (ask executor kind collector)
  ofExcept : ∀ {α : Type} (name : String) (result : Except Error α),
    property (ofExcept name result)
  read : property (read place)
  write : ∀ value, property (write place value)
  check : property checkCancelled
  note : ∀ changes : Nat, property (update fun state =>
    { state with
      summary :=
        { state.summary with capabilityChanges := state.summary.capabilityChanges + changes } })

namespace Composes

variable {α γ : Type} {executor : Executor} {kind : ComponentKind}
  {property : ∀ {α : Type}, Pass α → Prop}

section

variable {place : Place γ} (composes : Composes executor kind place property)
include composes

theorem gather : ∀ collectors : List (Collector (List α)),
    property (gather executor kind collectors)
  | [] => composes.pure (0, [])
  | collector :: collectors => by
    have rest := gather collectors
    refine composes.bind (composes.ask collector) fun answer => ?_
    cases answer with
    | none => exact rest
    | some found => exact composes.bind rest fun others => composes.pure _

theorem collectWith (collectors : List (Collector (List α)))
    {mergeFound : List α → Pass ClassOutcome}
    (merges : ∀ fragments, property (mergeFound fragments)) :
    property (collectWith executor kind collectors mergeFound) := by
  unfold Pass.collectWith
  split
  · exact composes.pure _
  · refine composes.bind (composes.gather collectors) fun found => ?_
    obtain ⟨completed, fragments⟩ := found
    dsimp only
    split
    · exact composes.pure _
    · exact merges fragments

end

theorem mergeList [Identified α] {place : Place (List α)}
    (composes : Composes executor kind place property) (fragments : List α) :
    property (mergeList kind place fragments) := by
  unfold Pass.mergeList
  split
  · exact composes.pure _
  · refine composes.bind composes.read fun known => ?_
    refine composes.bind (composes.write _) fun _ => ?_
    exact composes.bind (composes.ofExcept kind.name _) fun summary => composes.pure _

theorem collectList [Identified α] {place : Place (List α)}
    (composes : Composes executor kind place property)
    (collectors : List (Collector (List α))) :
    property (collectList executor kind collectors place) :=
  composes.collectWith collectors composes.mergeList

theorem mergeAll [Recordable γ] {place : Place γ}
    (composes : Composes executor kind place property) :
    ∀ fragments : List γ, property (mergeAll kind place fragments)
  | [] => composes.pure 0
  | fragment :: fragments => by
    have rest := mergeAll composes fragments
    refine composes.bind composes.read fun known => ?_
    refine composes.bind (composes.ofExcept kind.name _) fun merged => ?_
    refine composes.bind (composes.write merged.record) fun _ => ?_
    exact composes.bind rest fun applied => composes.pure _

theorem mergeSingle [Recordable γ] [DecidableEq γ] [Inhabited γ] {place : Place γ}
    (composes : Composes executor kind place property) (fragments : List γ) :
    property (mergeSingle kind place fragments) := by
  unfold Pass.mergeSingle
  dsimp only
  split
  · exact composes.pure _
  · exact composes.bind (composes.mergeAll _) fun applied => composes.pure _

theorem collectSingle [Recordable γ] [DecidableEq γ] [Inhabited γ] {place : Place γ}
    (composes : Composes executor kind place property) (collector : Option (Collector γ)) :
    property (collectSingle executor kind collector place) :=
  composes.collectWith _ composes.mergeSingle

section

variable (composes : Composes executor .drive drives property)
include composes

theorem withCapabilities (registry : Registry) (drive : Drive) :
    property (withCapabilities executor registry drive) := by
  unfold Pass.withCapabilities
  split
  · exact composes.pure _
  · refine composes.bind composes.check fun _ => ?_
    refine composes.bind (composes.ask _) fun answer => ?_
    cases answer with
    | none => exact composes.pure _
    | some found => exact composes.ofExcept _ _

theorem collectCapabilities (registry : Registry) : ∀ rest done : List Drive,
    property (collectCapabilities executor registry done rest)
  | [], _ => composes.pure 0
  | drive :: rest, done => by
    refine composes.bind (composes.withCapabilities registry drive) fun merged => ?_
    refine composes.bind (composes.write _) fun _ => ?_
    refine composes.bind ?_ fun applied => composes.pure _
    exact collectCapabilities registry rest (done ++ [merged.record])

theorem collectDrives (config : Config) (registry : Registry) :
    property (collectDrives config executor registry) := by
  refine composes.bind (composes.collectList registry.drives) fun outcome => ?_
  split
  · refine composes.bind composes.read fun known => ?_
    refine composes.bind (composes.collectCapabilities registry known []) fun changes => ?_
    exact composes.bind (composes.note changes) fun _ => composes.pure outcome
  · exact composes.pure outcome

end

/-- A property that the steps have wherever a class keeps its components. -/
theorem collectKind (composes : ∀ {γ : Type} (kind : ComponentKind) (place : Place γ),
      Composes executor kind place property)
    (config : Config) (registry : Registry) (kind : ComponentKind) :
    property (collectKind config executor registry kind) := by
  cases kind with
  | drive => exact (composes .drive drives).collectDrives config registry
  | nic => exact (composes .nic nics).collectList _
  | bmc => exact (composes .bmc bmc).collectSingle _
  | bios => exact (composes .bios bios).collectSingle _
  | cpld => exact (composes .cpld cpld).collectSingle _
  | storageController => exact (composes .storageController storageControllers).collectList _

end Composes

end Pass

end ServerInventory
