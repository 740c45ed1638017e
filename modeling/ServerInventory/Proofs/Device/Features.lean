import ServerInventory.Proofs.Device.Repetition

/-!
Features that are reported of a drive. The last report on a feature counts, and all else stays
as it was (`Drive.TakesFeatures`); the changes that are counted are the features that the drive
did not have or had with the other value (`Drive.newFeatures`). A merge of the features comes to
just that (`Drive.exists_mergeField`).
-/

namespace ServerInventory

/-! ## Counting differences -/

namespace StringMap

variable {α : Type} [DecidableEq α] {wrap : α → Value}

/-- At a key of the second map two maps differ by one change, or agree. -/
theorem length_changesAt (injective : wrap.Injective) {left right : StringMap α}
    {entry : String × α} (inside : entry ∈ right.entries) :
    ((left.map wrap).changesAt (right.map wrap) entry.1).length =
      if left.get? entry.1 ≠ some entry.2 then 1 else 0 := by
  have found : right.get? entry.1 = some entry.2 := get?_eq_some_iff.2 inside
  unfold changesAt
  rw [get?_map, get?_map, found]
  cases left.get? entry.1 with
  | none => rfl
  | some before =>
    by_cases same : before = entry.2
    · subst same
      simp
    · have apart : wrap before ≠ wrap entry.2 := fun equal => same (injective equal)
      simp [same, apart]

/-- Where every key of a map is one of another map, the two differ by as many changes as the
other has entries that are not in the first. -/
theorem length_diff (injective : wrap.Injective) {left right : StringMap α}
    (within : ∀ key, left.get? key ≠ none → right.get? key ≠ none) {changes : List Change}
    (differences : (left.map wrap).diff (right.map wrap) = .ok changes) :
    changes.length =
      (right.entries.filter fun entry => left.get? entry.1 ≠ some entry.2).length := by
  obtain ⟨-, rfl⟩ := diff_eq_ok_iff.1 differences
  have along : ((left.map wrap).unionKeys (right.map wrap)).flatMap
        ((left.map wrap).changesAt (right.map wrap)) =
      right.keys.flatMap ((left.map wrap).changesAt (right.map wrap)) := by
    refine flatMap_eq_of_support (pairwise_unionKeys _ _) right.pairwise_keys fun key _ => ?_
    rw [unionKeys_map, mem_unionKeys, mem_keys]
    exact ⟨fun either => either.elim (within key) id, .inr⟩
  have counted : ∀ entries : List (String × α), entries ⊆ right.entries →
      ((entries.map Prod.fst).flatMap ((left.map wrap).changesAt (right.map wrap))).length =
        (entries.filter fun entry => left.get? entry.1 ≠ some entry.2).length := by
    intro entries inside
    induction entries with
    | nil => rfl
    | cons entry rest ih =>
      obtain ⟨here, others⟩ := List.cons_subset.1 inside
      rw [List.map_cons, List.flatMap_cons, List.length_append, ih others,
        length_changesAt injective here, List.filter_cons]
      by_cases news : left.get? entry.1 ≠ some entry.2 <;> simp [news, Nat.add_comm]
  rw [along]
  exact counted right.entries fun _ => id

end StringMap

/-- What two records have at their start alike makes no difference. -/
theorem Record.diffFields_append : ∀ front left right : Record,
    (front ++ left).diffFields (front ++ right) = left.diffFields right
  | .nil, _, _ => rfl
  | .cons name field rest, left, right => by
    have others := diffFields_append rest left right
    change (cons name field (rest ++ left)).diffFields (cons name field (rest ++ right)) = _
    rw [diffFields, if_pos rfl, Field.diff_self, others]
    exact Differences.ok_nil_followedBy _

/-! ## Merging features -/

namespace Drive

/-- How many features a drive has that it did not have before, or had with the other value. -/
def newFeatures (before after : Drive) : Nat :=
  (after.capabilities.entries.filter fun entry =>
    before.capabilities.get? entry.1 ≠ some entry.2).length

/-- What becomes of a drive of which features are reported. Each feature is as the last report
on it says, and those that are not reported on are as before, and so is everything else. -/
structure TakesFeatures (before : Drive) (reported : List (String × Bool)) (after : Drive) :
    Prop where
  capabilities : ∀ name, after.capabilities.get? name =
    (reported.reverse.lookup name).or (before.capabilities.get? name)
  others : after = { before with capabilities := after.capabilities }

theorem get?_withFeatures (drive : Drive) (features : StringMap Bool) (name : String) :
    (drive.withFeatures features).capabilities.get? name =
      (features.get? name).or (drive.capabilities.get? name) := by
  rw [withFeatures, StringMap.get?_gather]
  change amongPresent _ [drive.capabilities.get? name, features.get? name] = _
  cases drive.capabilities.get? name <;> cases features.get? name <;> rfl

theorem takesFeatures_withFeatures (drive : Drive) (reported : List (String × Bool)) :
    drive.TakesFeatures reported (drive.withFeatures (.ofList reported)) := by
  refine ⟨fun name => ?_, rfl⟩
  rw [get?_withFeatures, StringMap.get?_ofList]

/-- A drive with some features merged in differs from the drive before by its new features. -/
theorem length_diff_withFeatures {drive : Drive} {features : StringMap Bool}
    {changes : List Change} (differences : diff drive (drive.withFeatures features) = .ok changes) :
    changes.length = drive.newFeatures (drive.withFeatures features) := by
  have within : ∀ name, drive.capabilities.get? name ≠ none →
      (drive.withFeatures features).capabilities.get? name ≠ none := by
    intro name there
    rw [get?_withFeatures]
    cases features.get? name with
    | none => exact there
    | some value => nofun
  have fields := (Record.diff_eq_ok_iff.1 (record_diff_of_eq_ok differences)).2
  have last : (record drive).diffFields (record (drive.withFeatures features)) =
      ((drive.capabilities.map Value.flag).diff
        ((drive.withFeatures features).capabilities.map Value.flag)).under "Capabilities" := by
    rw [record, record, withFeatures, Record.diffFields_append]
    simp only [Record.ofList, Record.diffFields, Field.diff, Value.diff_self, if_true]
    cases (StringMap.diff _ _ : Differences) <;> simp [Differences.under, Differences.followedBy]
  have told := last.symm.trans fields
  obtain ⟨inner, found, rfl⟩ := Differences.under_eq_ok_iff.1 told
  rw [List.length_map]
  exact StringMap.length_diff (fun _ _ => Value.flag.inj) within found

/-- A merge of reported features always succeeds, and it counts the new ones. -/
theorem exists_mergeField (drive : Drive) (reported : List (String × Bool)) :
    ∃ after, mergeField drive { capabilities := .ofList reported } "Capabilities" =
        .ok ⟨after, drive.newFeatures after⟩ ∧ drive.TakesFeatures reported after := by
  obtain ⟨changes, _, merged, taken⟩ := mergeChanges_eq (some "Capabilities") drive
    { capabilities := .ofList reported }
  rw [combineFor_capabilities] at merged taken
  have count := length_diff_withFeatures taken
  rw [count] at merged
  exact ⟨_, merged, drive.takesFeatures_withFeatures reported⟩

end Drive

end ServerInventory
