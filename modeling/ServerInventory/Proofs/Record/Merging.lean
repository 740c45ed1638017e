import ServerInventory.Proofs.Record.Settling
import ServerInventory.Record.Merge

/-!
Merges as settled records. `Change.passes` is the rule of a merge: harmless changes, and in
a merge of one attribute those of that attribute. A merge of two records gives the record
settled under that rule, or fails (`Record.mergeFor_cases`). For component types whose
records have one layout (`LawfulRecordable`) it never fails (`mergeChanges_eq`).
-/

namespace ServerInventory

namespace Change

/-- Whether a change is carried out in a merge of one attribute, or of all of them. -/
def passes (field? : Option String) : Acceptance := fun change =>
  change.isHarmless && field?.all fun field => change.path.head? == some field

theorem passes_none : passes none = isHarmless := by
  funext change
  simp [passes]

/-- The changes that are carried out in a merge are the harmless ones among those looked at. -/
theorem harmless_filter (field : String) (changes : List Change) :
    harmless (changes.filter fun change => change.path.head? == some field) =
      changes.filter (passes (some field)) := by
  rw [harmless, List.filter_filter]
  rfl

theorem uniform_isHarmless : Acceptance.Uniform isHarmless := by
  constructor
  · intro change removal
    simp [isHarmless, removal]
  · intro change other creation otherCreation
    simp [isHarmless, creation, otherCreation]

theorem uniform_passes_under (field? : Option String) (name : String) :
    ((passes field?).under name).Uniform := by
  have harmless := uniform_isHarmless.under name
  constructor
  · intro change removal
    have refused : isHarmless (change.under name) = false := harmless.removal change removal
    change (isHarmless (change.under name) && _) = false
    rw [refused, Bool.false_and]
  · intro change other creation otherCreation
    have alike : isHarmless (change.under name) = isHarmless (other.under name) :=
      harmless.addition change other creation otherCreation
    change (isHarmless (change.under name) && _) = (isHarmless (other.under name) && _)
    rw [alike]
    rfl

end Change

namespace Record

/-- The changes that count for a merge, once the harmless ones are taken. -/
theorem changesFor_eq (field? : Option String) {known collected : Record}
    {changes : List Change} (differences : known.diff collected = .ok changes) :
    ∃ looked, changesFor field? known collected = .ok looked ∧
      Change.harmless looked = changes.filter (Change.passes field?) := by
  unfold changesFor
  rw [differences]
  cases field? with
  | none =>
    refine ⟨changes, rfl, ?_⟩
    rw [Change.passes_none, Change.harmless]
  | some field => exact ⟨_, rfl, Change.harmless_filter field changes⟩

/-- A merge as far as it concerns the records alone. -/
def mergeFor (field? : Option String) (known collected : Record) :
    Except Error (Merged Record) :=
  match changesFor field? known collected with
  | .error error => .error error
  | .ok changes => known.commit changes

/-- A merge of two records succeeds if they have differences and those that pass can be
carried out; it gives what that leads to and counts them. -/
theorem mergeFor_eq_ok_iff {field? : Option String} {known collected : Record}
    {merged : Merged Record} :
    mergeFor field? known collected = .ok merged ↔
      ∃ changes, known.diff collected = .ok changes ∧
        known.patch (changes.filter (Change.passes field?)) = (merged.record, none) ∧
        merged.applied = (changes.filter (Change.passes field?)).length := by
  cases differences : known.diff collected with
  | error mismatch =>
    rw [mergeFor, changesFor, differences]
    simp
  | ok changes =>
    obtain ⟨looked, equal, harmless⟩ := changesFor_eq field? differences
    rw [mergeFor, equal]
    dsimp only
    rw [commit, harmless]
    constructor
    · intro done
      refine ⟨changes, rfl, ?_⟩
      split at done
      · rename_i amended run
        rw [run, ← Except.ok.inj done]
        exact ⟨rfl, rfl⟩
      · cases done
    · rintro ⟨_, ⟨⟩, run, count⟩
      rw [run, ← count]

/-- A merge of two records gives the settled record and counts the changes that pass, or it
fails. The latter happens only to records of different layouts. -/
theorem mergeFor_cases (field? : Option String) {known collected : Record}
    (distinct : known.Distinct) (room : known.HasRoomFor collected) :
    (∃ changes, known.diff collected = .ok changes ∧
        mergeFor field? known collected =
          .ok ⟨known.settle (Change.passes field?) collected,
            (changes.filter (Change.passes field?)).length⟩) ∨
      known.layout ≠ collected.layout ∧
        ∃ error, mergeFor field? known collected = .error error := by
  have uniform := Change.uniform_passes_under field?
  cases outcome : mergeFor field? known collected with
  | ok merged =>
    obtain ⟨changes, differences, run, count⟩ := mergeFor_eq_ok_iff.1 outcome
    rcases patch_settle uniform distinct room (diff_eq_ok_iff.1 differences).2 with
      done | ⟨_, failed⟩
    · have settled := (Prod.mk.inj (run.symm.trans done)).1
      refine .inl ⟨changes, differences, ?_⟩
      rw [← settled, ← count]
    · rw [run] at failed
      exact absurd rfl failed
  | error error =>
    refine .inr ⟨fun same => ?_, error, rfl⟩
    obtain ⟨changes, differences⟩ := exists_diff_of_layout_eq same
    rcases patch_settle uniform distinct room (diff_eq_ok_iff.1 differences).2 with
      done | ⟨different, _⟩
    · have succeeds : mergeFor field? known collected =
          .ok ⟨known.settle (Change.passes field?) collected,
            (changes.filter (Change.passes field?)).length⟩ :=
        mergeFor_eq_ok_iff.2 ⟨changes, differences, done, rfl⟩
      rw [outcome] at succeeds
      cases succeeds
    · exact different same

end Record

/-! ## Component types -/

/-- A type whose values are exactly the records of one layout. -/
class LawfulRecordable (α : Type) [Recordable α] : Prop where
  ofRecord_record (value : α) : Recordable.ofRecord (Recordable.record value) = value
  layout_record (value other : α) :
    (Recordable.record value).layout = (Recordable.record other).layout
  exists_record (value : α) (record : Record) :
    record.layout = (Recordable.record value).layout → ∃ other : α, Recordable.record other = record
  distinct_record (value : α) : (Recordable.record value).Distinct

section

variable {α : Type} [Recordable α]

theorem diff_eq_ok_of_record {known collected : α} {changes : List Change}
    (differences : (Recordable.record known).diff (Recordable.record collected) = .ok changes) :
    diff known collected = .ok changes := by
  unfold diff Record.changesFor
  rw [differences]

theorem record_diff_of_eq_ok {known collected : α} {changes : List Change}
    (differences : diff known collected = .ok changes) :
    (Recordable.record known).diff (Recordable.record collected) = .ok changes := by
  unfold diff Record.changesFor at differences
  cases equal : (Recordable.record known).diff (Recordable.record collected) with
  | error mismatch => rw [equal] at differences; cases differences
  | ok found => rw [equal] at differences; exact congrArg _ (Except.ok.inj differences)

/-- A merge of two components is one of their records. -/
theorem mergeChanges_eq_map (field? : Option String) (known collected : α) :
    mergeChanges field? known collected =
      ((Recordable.record known).mergeFor field? (Recordable.record collected)).map
        fun merged => ⟨Recordable.ofRecord merged.record, merged.applied⟩ := by
  unfold mergeChanges Record.mergeFor
  dsimp only
  cases Record.changesFor field? (Recordable.record known) (Recordable.record collected) with
  | error error => rfl
  | ok changes =>
    change (do let merged ← (Recordable.record known).commit changes; _) =
      ((Recordable.record known).commit changes).map _
    cases (Recordable.record known).commit changes <;> rfl

/-- What a merge makes of a component. -/
def combineFor (field? : Option String) (known collected : α) : α :=
  Recordable.ofRecord
    ((Recordable.record known).settle (Change.passes field?) (Recordable.record collected))

/-- What a merge of all attributes makes of a component. -/
def combine (known collected : α) : α :=
  combineFor none known collected

variable [LawfulRecordable α]

theorem record_combineFor (field? : Option String) (known collected : α) :
    Recordable.record (combineFor field? known collected) =
      (Recordable.record known).settle (Change.passes field?) (Recordable.record collected) := by
  obtain ⟨merged, equal⟩ := LawfulRecordable.exists_record known
    ((Recordable.record known).settle (Change.passes field?) (Recordable.record collected))
    (Record.layout_settle _ (LawfulRecordable.layout_record known collected))
  unfold combineFor
  rw [← equal, LawfulRecordable.ofRecord_record]

/-- A component is told by its record. -/
theorem eq_of_record_eq {left right : α} (same : Recordable.record left = Recordable.record right) :
    left = right := by
  rw [← LawfulRecordable.ofRecord_record left, same, LawfulRecordable.ofRecord_record]

theorem LawfulRecordable.hasRoomFor_record (known collected : α) :
    (Recordable.record known).HasRoomFor (Recordable.record collected) :=
  (Record.admits_of_layout_eq (layout_record known collected)).hasRoomFor

/-- A merge of the records of two components of one type never fails. -/
theorem mergeFor_record (field? : Option String) (known collected : α) :
    ∃ changes, (Recordable.record known).diff (Recordable.record collected) = .ok changes ∧
      (Recordable.record known).mergeFor field? (Recordable.record collected) =
        .ok ⟨(Recordable.record known).settle (Change.passes field?) (Recordable.record collected),
          (changes.filter (Change.passes field?)).length⟩ := by
  have distinct := LawfulRecordable.distinct_record known
  have room := LawfulRecordable.hasRoomFor_record known collected
  rcases Record.mergeFor_cases field? distinct room with succeeds | ⟨different, _⟩
  · exact succeeds
  · exact absurd (LawfulRecordable.layout_record known collected) different

/-- A merge of two components of one type never fails. -/
theorem mergeChanges_eq (field? : Option String) (known collected : α) :
    ∃ changes, diff known collected = .ok changes ∧
      mergeChanges field? known collected =
        .ok ⟨combineFor field? known collected,
          (changes.filter (Change.passes field?)).length⟩ ∧
      diff known (combineFor field? known collected) =
        .ok (changes.filter (Change.passes field?)) := by
  have admits := Record.admits_of_layout_eq (LawfulRecordable.layout_record known collected)
  obtain ⟨changes, differences, merged⟩ := mergeFor_record field? known collected
  have settled := Record.diff_settle (Change.uniform_passes_under field?) admits differences
  refine ⟨changes, diff_eq_ok_of_record differences, ?_, diff_eq_ok_of_record ?_⟩
  · rw [mergeChanges_eq_map, merged]
    rfl
  · rw [record_combineFor]
    exact settled

/-- A merge that leaves a component as it is counts no changes. -/
theorem mergeChanges_of_idle {field? : Option String} {known collected : α}
    (idle : combineFor field? known collected = known) :
    mergeChanges field? known collected = .ok ⟨known, 0⟩ := by
  obtain ⟨changes, _, merged, taken⟩ := mergeChanges_eq field? known collected
  have nothing : diff known known = .ok [] := diff_eq_ok_of_record
    (Record.diff_eq_ok_iff.2 ⟨rfl, Record.diffFields_self (Recordable.record known)⟩)
  rw [idle, nothing] at taken
  rw [merged, idle, ← Except.ok.inj taken]
  rfl

/-- The changes that a merge of two components takes: the harmless ones among their
differences. -/
def changeCount (known collected : α) : Nat :=
  match diff known collected with
  | .error _ => 0
  | .ok changes => (Change.harmless changes).length

/-- A whole merge of two components of one type gives `combine` of them. -/
theorem merge_eq (known collected : α) :
    merge known collected = .ok ⟨combine known collected, changeCount known collected⟩ := by
  obtain ⟨changes, differences, merged, _⟩ := mergeChanges_eq none known collected
  rw [Change.passes_none] at merged
  rw [merge, merged, changeCount, differences]
  rfl

end

/-! ## Series of merges -/

section

variable {α : Type} [Recordable α]

/-- A component with fragments merged in one after the other, and the changes of all these
merges. The first merge that fails ends the series. -/
def mergeEach (known : α) : List α → Except Error (Merged α)
  | [] => .ok ⟨known, 0⟩
  | fragment :: fragments => do
    let merged ← merge known fragment
    let rest ← mergeEach merged.record fragments
    return ⟨rest.record, merged.applied + rest.applied⟩

/-- The changes that a series of merges takes. -/
def seriesCount (known : α) : List α → Nat
  | [] => 0
  | fragment :: fragments =>
    changeCount known fragment + seriesCount (combine known fragment) fragments

/-- The changes of one series after another are those of both in one. -/
theorem seriesCount_append (late : List α) : ∀ (early : List α) (known : α),
    seriesCount known (early ++ late) =
      seriesCount known early + seriesCount (early.foldl combine known) late
  | [], known => (Nat.zero_add _).symm
  | fragment :: early, known => by
    have rest := seriesCount_append late early (combine known fragment)
    rw [List.cons_append, seriesCount, seriesCount, rest, List.foldl_cons, Nat.add_assoc]

/-- A series of merges of components of one type never fails. -/
theorem mergeEach_eq [LawfulRecordable α] : ∀ (fragments : List α) (known : α),
    mergeEach known fragments =
      .ok ⟨fragments.foldl combine known, seriesCount known fragments⟩
  | [], known => rfl
  | fragment :: fragments, known => by
    have rest := mergeEach_eq fragments (combine known fragment)
    rw [mergeEach, merge_eq]
    change (do let rest ← mergeEach (combine known fragment) fragments; _) = _
    rw [rest]
    rfl

end

end ServerInventory
