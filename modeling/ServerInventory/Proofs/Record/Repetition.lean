import ServerInventory.Proofs.Device.Lawful

/-!
Records that are merged once more. After a merge the two records may still differ, but only
by changes that are not carried out (`Record.declines_settle`): what was accepted is the same
on both sides now, and what was refused meets the same values as before. So the same merge
again finds nothing to do (`merge_idempotent`).
-/

namespace ServerInventory

/-- There are differences, and none of them passes. -/
def Acceptance.Declines (accept : Acceptance) (differences : Differences) : Prop :=
  ∃ changes, differences = .ok changes ∧ changes.filter accept = []

/-! ## Scalars and maps -/

theorem Value.declines_settle {accept : Acceptance} {left right : Value} {changes : List Change}
    (differences : left.diff right = .ok changes) :
    accept.Declines ((left.settle accept right).diff right) := by
  unfold settle
  split
  · exact ⟨[], right.diff_self, rfl⟩
  · rename_i refused
    refine ⟨changes, differences, ?_⟩
    unfold diff at differences
    split at differences
    · rw [← Except.ok.inj differences]
      split
      · rfl
      · simp [refused]
    · cases differences

namespace StringMap

variable {α : Type} [DecidableEq α] {wrap : α → Value} {accept : Acceptance}
  {left right : StringMap α}

/-- What was let in is there, and what was refused is refused again. -/
theorem accepted?_settle (key : String) :
    (left.settle wrap accept right).accepted? wrap accept right key = none := by
  unfold accepted?
  rw [get?_settle]
  unfold accepted?
  cases right.get? key with
  | none => cases left.get? key <;> rfl
  | some after =>
    cases left.get? key with
    | none =>
      by_cases pass : accept ⟨.create, [key], none, some (wrap after)⟩ <;> simp [pass]
    | some before =>
      by_cases pass : before ≠ after ∧
          accept ⟨.update, [key], some (wrap before), some (wrap after)⟩
      · simp [pass]
      · simp [pass]

theorem declines_settle (injective : wrap.Injective)
    (kind : ∀ value other, (wrap value).kind = (wrap other).kind) (uniform : accept.Uniform) :
    accept.Declines (((left.settle wrap accept right).map wrap).diff (right.map wrap)) := by
  refine ⟨_, diff_eq_ok_iff.2 ⟨fun key before found after foundAfter => ?_, rfl⟩, ?_⟩
  · exact kind_of_get?_map kind found foundAfter
  · rw [List.filter_flatMap]
    refine List.flatMap_eq_nil_iff.2 fun key _ => ?_
    rw [filter_changesAt injective uniform, accepted?_settle]
    rfl

end StringMap

/-! ## Records -/

mutual

theorem Field.diff_filled : ∀ field : Field, field.filled.diff field = .ok []
  | .scalar value => value.diff_self
  | .texts entries => StringMap.diff_self (entries.map Value.text)
  | .flags entries => StringMap.diff_self (entries.map Value.flag)
  | .absent _ => rfl
  | .present record => by
    rw [Field.filled]
    split
    · rename_i empty
      rw [Field.diff, List.isEmpty_iff.1 empty]
      rfl
    · exact Record.diff_eq_ok_iff.2 ⟨record.size_filled, Record.diffFields_filled record⟩

/-- A record does not differ from what its leaves alone bring about. -/
theorem Record.diffFields_filled : ∀ record : Record, record.filled.diffFields record = .ok []
  | .nil => rfl
  | .cons _ field rest => Record.diffFields_cons_eq_ok_iff.2
    ⟨rfl, [], [], Field.diff_filled field, Record.diffFields_filled rest, rfl⟩

end

mutual

theorem Field.declines_settle : ∀ {accept : Acceptance} {left right after : Field}
    {changes : List Change}, accept.Uniform → left.Distinct → left.diff right = .ok changes →
    left.patch (changes.filter accept) = (after, none) →
    accept.Declines ((left.settle accept right).diff right)
  | _, .scalar _, .scalar _, _, _, _, _, differences, _ => Value.declines_settle differences
  | _, .texts _, .texts _, _, _, uniform, _, _, _ =>
    StringMap.declines_settle (fun _ _ => Value.text.inj) (fun _ _ => rfl) uniform
  | _, .flags _, .flags _, _, _, uniform, _, _, _ =>
    StringMap.declines_settle (fun _ _ => Value.flag.inj) (fun _ _ => rfl) uniform
  | accept, .texts left, .flags right, after, changes, uniform, _, differences, done => by
    rcases Field.takes_texts.patch_crossed (fun _ _ same => by cases same) uniform differences with
      nothing | failed
    · exact ⟨changes, differences, nothing⟩
    · exact absurd (congrArg Prod.snd done) failed
  | accept, .flags left, .texts right, after, changes, uniform, _, differences, done => by
    rcases Field.takes_flags.patch_crossed (fun _ _ same => by cases same) uniform differences with
      nothing | failed
    · exact ⟨changes, differences, nothing⟩
    · exact absurd (congrArg Prod.snd done) failed
  | accept, .absent blank, .present record, after, changes, uniform, _, differences, _ => by
    rw [Field.settle]
    split
    · exact ⟨[], Record.diff_eq_ok_iff.2 ⟨record.size_filled, record.diffFields_filled⟩, rfl⟩
    · rename_i refused
      refine ⟨_, rfl, ?_⟩
      rw [uniform.filter_created, if_neg refused]
  | accept, .present record, .absent blank, after, changes, uniform, _, differences, _ =>
    ⟨_, rfl, uniform.filter_deleted record.leaves⟩
  | accept, .absent blank, .absent other, after, changes, _, _, _, _ => ⟨[], rfl, rfl⟩
  | accept, .present left, .present right, after, changes, uniform, distinct, differences,
      done => by
    obtain ⟨sizes, fields⟩ := Record.diff_eq_ok_iff.1 differences
    rw [Field.patch_present left (Record.inside_filter accept fields)] at done
    have innerDone : left.patch (changes.filter accept) =
        ((left.patch (changes.filter accept)).1, none) := Prod.ext rfl (Prod.mk.inj done).2
    obtain ⟨again, againFields, declined⟩ :=
      Record.declines_settle uniform.under distinct fields innerDone
    exact ⟨again, Record.diff_eq_ok_iff.2
      ⟨(Record.size_settle accept left right).trans sizes, againFields⟩, declined⟩

/-- Once all that passes has been carried out, nothing passes any more. -/
theorem Record.declines_settle : ∀ {accept : Acceptance} {left right after : Record}
    {changes : List Change}, (∀ name, (accept.under name).Uniform) → left.Distinct →
    left.diffFields right = .ok changes → left.patch (changes.filter accept) = (after, none) →
    accept.Declines ((left.settle accept right).diffFields right)
  | _, .nil, _, _, _, _, _, _, _ => ⟨[], rfl, rfl⟩
  | _, .cons _ _ _, .nil, _, _, _, _, _, _ => ⟨[], rfl, rfl⟩
  | accept, .cons name field rest, .cons otherName other otherRest, after, changes, uniform,
      distinct, differences, done => by
    obtain ⟨rfl, inner, late, fieldDiff, restDiff, rfl⟩ :=
      Record.diffFields_cons_eq_ok_iff.1 differences
    obtain ⟨notLater, fieldDistinct, restDistinct⟩ := distinct
    rw [List.filter_append, Acceptance.filter_map_under] at done
    obtain ⟨amended, others, fieldDone, restDone, _⟩ :=
      (Record.patch_parts_eq_iff notLater (Record.inside_filter accept restDiff)).1 done
    obtain ⟨innerAgain, fieldAgain, fieldDeclined⟩ :=
      Field.declines_settle (uniform name) fieldDistinct fieldDiff fieldDone
    obtain ⟨lateAgain, restAgain, restDeclined⟩ :=
      Record.declines_settle uniform restDistinct restDiff restDone
    refine ⟨innerAgain.map (·.under name) ++ lateAgain, ?_, ?_⟩
    · exact Record.diffFields_cons_eq_ok_iff.2
        ⟨rfl, innerAgain, lateAgain, fieldAgain, restAgain, rfl⟩
    · rw [List.filter_append, Acceptance.filter_map_under, fieldDeclined, restDeclined]
      rfl

end

/-! ## Merges -/

/-- A merge that succeeds leaves nothing to do for the same merge again. -/
theorem Record.mergeFor_again {field? : Option String} {known collected : Record}
    {merged : Merged Record} (distinct : known.Distinct) (room : known.HasRoomFor collected)
    (done : mergeFor field? known collected = .ok merged) :
    mergeFor field? merged.record collected = .ok ⟨merged.record, 0⟩ := by
  have uniform := Change.uniform_passes_under field?
  obtain ⟨changes, differences, run, _⟩ := mergeFor_eq_ok_iff.1 done
  obtain ⟨sizes, fields⟩ := diff_eq_ok_iff.1 differences
  have settled : known.settle (Change.passes field?) collected = merged.record := by
    rcases patch_settle uniform distinct room fields with carried | ⟨_, failed⟩
    · exact (Prod.mk.inj (carried.symm.trans run)).1
    · exact absurd (congrArg Prod.snd run) failed
  obtain ⟨again, againFields, declined⟩ := declines_settle uniform distinct fields run
  have againDifferences :
      (known.settle (Change.passes field?) collected).diff collected = .ok again :=
    diff_eq_ok_iff.2 ⟨(size_settle _ known collected).trans sizes, againFields⟩
  rw [settled] at againDifferences
  refine mergeFor_eq_ok_iff.2 ⟨again, againDifferences, ?_, ?_⟩
  · rw [declined]
    rfl
  · rw [declined]
    rfl

/-- A merge of two components succeeds, and the same merge again takes no change and leaves the
component as it is. -/
def MergesOnce (α : Type) [Recordable α] : Prop :=
  ∀ known collected : α, ∃ merged, merge known collected = .ok merged ∧
    merge merged.record collected = .ok ⟨merged.record, 0⟩

theorem LawfulRecordable.mergesOnce {α : Type} [Recordable α] [LawfulRecordable α] :
    MergesOnce α := by
  intro known collected
  obtain ⟨_, _, merged, _⟩ := mergeChanges_eq none known collected
  obtain ⟨_, _, done⟩ := mergeFor_record none known collected
  have again := Record.mergeFor_again (distinct_record known) (hasRoomFor_record known collected)
    done
  refine ⟨_, merged, ?_⟩
  rw [merge, mergeChanges_eq_map, record_combineFor, again]
  rfl

/-- A merge that succeeds is done once and for all: when the same is merged again, no change
is counted and the record stays as it is. This holds of all records that have room for one
another, as the records of one type do and as any record does that knows no attribute of the
records that it lacks. Merges of components always succeed. -/
theorem merge_idempotent :
    (∀ known collected : Record, known.Distinct → known.HasRoomFor collected →
      ∀ merged, merge known collected = .ok merged →
        merge merged.record collected = .ok ⟨merged.record, 0⟩) ∧
      MergesOnce Identity ∧ MergesOnce Firmware ∧ MergesOnce Drive ∧ MergesOnce Nic ∧
      MergesOnce Bmc ∧ MergesOnce Bios ∧ MergesOnce Cpld ∧ MergesOnce StorageController := by
  have records : ∀ known collected : Record,
      merge known collected = (Record.mergeFor none known collected).map id :=
    fun known collected => mergeChanges_eq_map none known collected
  refine ⟨fun known collected distinct room merged done => ?_, ?_, ?_, ?_, ?_, ?_, ?_, ?_, ?_⟩
  · rw [records, Except.map_id] at done
    rw [records, Record.mergeFor_again distinct room done]
    rfl
  all_goals exact LawfulRecordable.mergesOnce

/-- A word and a flag, which are never protected, are overwritten, and an unknown model inside
is filled in. A record without leaves and a map without entries bring nothing. What was refused,
another name and the removal of an entry, is refused once more. -/
theorem merge_idempotent_nested :
    let known : Record := .ofList [
      ("Name", .scalar (.text "disk")),
      ("Hours", .scalar (.word64 3)),
      ("Slot", .absent .nil),
      ("Tags", .texts (.ofList [("old", "x")])),
      ("Port", .present (.ofList [("Model", .scalar (.text "")), ("Up", .scalar (.flag true))]))]
    let collected : Record := .ofList [
      ("Name", .scalar (.text "drive")),
      ("Hours", .scalar (.word64 0)),
      ("Slot", .present (.ofList [("Tags", .texts ∅)])),
      ("Tags", .flags ∅),
      ("Port", .present (.ofList [("Model", .scalar (.text "p1")), ("Up", .scalar (.flag false))]))]
    let merged : Record := .ofList [
      ("Name", .scalar (.text "disk")),
      ("Hours", .scalar (.word64 0)),
      ("Slot", .absent .nil),
      ("Tags", .texts (.ofList [("old", "x")])),
      ("Port", .present (.ofList [("Model", .scalar (.text "p1")), ("Up", .scalar (.flag false))]))]
    known.Distinct ∧ known.HasRoomFor collected ∧ merge known collected = .ok ⟨merged, 3⟩ ∧
      merge merged collected = .ok ⟨merged, 0⟩ := by
  intro known collected merged
  have distinct : known.Distinct := by
    simp [known, Record.ofList, Record.Distinct, Field.Distinct, Record.names]
  have room : known.HasRoomFor collected := by
    simp [known, collected, Record.ofList, Record.HasRoomFor, Field.HasRoomFor]
  have done : merge known collected = .ok ⟨merged, 3⟩ := by rfl
  exact ⟨distinct, room, done, merge_idempotent.1 known collected distinct room _ done⟩

end ServerInventory
