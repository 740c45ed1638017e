import ServerInventory.Proofs.Device.Lawful

/-!
A merge carries out exactly the harmless differences. What differs between the record
before a merge and the one after it is, change by change and in the same order, what was
harmless among the differences to the collected record (`ExactMerge`). Of two records that
are alike but not of one layout a merge may also fail, and then there is no other record
than the known one; of two components of one type it never does.
-/

namespace ServerInventory

/-- The merge of two components succeeds, and the component that it gives differs from the
known one by the harmless ones among the differences to the collected one, which are
counted. -/
def ExactMerge {α : Type} [Recordable α] (known collected : α) : Prop :=
  ∃ changes merged, diff known collected = .ok changes ∧
    merge known collected = .ok merged ∧
    diff known merged.record = .ok (Change.harmless changes) ∧
    merged.applied = (Change.harmless changes).length

/-- A merge of two records is exact, or it fails. -/
theorem Record.exactMerge_or_error {known collected : Record} (distinct : known.Distinct)
    (admits : known.Admits collected) :
    ExactMerge known collected ∨
      known.layout ≠ collected.layout ∧ ∃ error, merge known collected = .error error := by
  have records : merge known collected = (mergeFor none known collected).map id :=
    mergeChanges_eq_map none known collected
  rcases mergeFor_cases none distinct admits.hasRoomFor with
    ⟨changes, differences, merged⟩ | ⟨different, error, failed⟩
  · have settled := diff_settle (Change.uniform_passes_under none) admits differences
    rw [Change.passes_none] at merged settled
    refine .inl ⟨changes, ⟨known.settle Change.isHarmless collected, _⟩,
      diff_eq_ok_of_record differences, ?_, diff_eq_ok_of_record settled, rfl⟩
    rw [records, merged]
    rfl
  · refine .inr ⟨different, error, ?_⟩
    rw [records, failed]
    rfl

/-- A merge of two components of one type is exact. -/
theorem LawfulRecordable.exactMerge {α : Type} [Recordable α] [LawfulRecordable α]
    (known collected : α) : ExactMerge known collected := by
  obtain ⟨changes, differences, merged, settled⟩ := mergeChanges_eq none known collected
  rw [Change.passes_none] at merged settled
  exact ⟨changes, _, differences, merged, settled, rfl⟩

/-- A merge gives a component that differs from the known one by exactly the harmless ones
among the differences, or it fails. It can fail for records of different layouts alone:
for components of each type it always succeeds. -/
theorem merge_exact :
    (∀ known collected : Record, known.Distinct → known.Admits collected →
      ExactMerge known collected ∨
        known.layout ≠ collected.layout ∧ ∃ error, merge known collected = .error error) ∧
      (∀ known collected : Identity, ExactMerge known collected) ∧
      (∀ known collected : Firmware, ExactMerge known collected) ∧
      (∀ known collected : Drive, ExactMerge known collected) ∧
      (∀ known collected : Nic, ExactMerge known collected) ∧
      (∀ known collected : Bmc, ExactMerge known collected) ∧
      (∀ known collected : Bios, ExactMerge known collected) ∧
      (∀ known collected : Cpld, ExactMerge known collected) ∧
      (∀ known collected : StorageController, ExactMerge known collected) := by
  refine ⟨fun known collected distinct admits => ?_, ?_, ?_, ?_, ?_, ?_, ?_, ?_, ?_⟩
  · exact Record.exactMerge_or_error distinct admits
  all_goals exact LawfulRecordable.exactMerge

/-- A name that is known stays, while a record that was absent is taken over and so is an
entry of a map. -/
theorem merge_exact_nested :
    let known : Record := .ofList [
      ("Name", .scalar (.text "disk")),
      ("Slot", .absent (.ofList [("Bay", .scalar (.text ""))])),
      ("Tags", .texts ∅)]
    let collected : Record := .ofList [
      ("Name", .scalar (.text "drive")),
      ("Slot", .present (.ofList [("Bay", .scalar (.text "4"))])),
      ("Tags", .texts (.ofList [("state", "spare")]))]
    known.Distinct ∧ known.Admits collected ∧
      (ExactMerge known collected ∨
        known.layout ≠ collected.layout ∧ ∃ error, merge known collected = .error error) := by
  intro known collected
  have distinct : known.Distinct := by
    simp [known, Record.ofList, Record.Distinct, Field.Distinct, Record.names]
  have admits : known.Admits collected := by
    simp [known, collected, Record.ofList, Record.Admits, Field.Admits, Record.layout,
      Field.layout, Value.blank, Value.kind]
  exact ⟨distinct, admits, merge_exact.1 known collected distinct admits⟩

end ServerInventory
