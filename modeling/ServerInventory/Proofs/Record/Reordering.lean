import ServerInventory.Proofs.Record.Leafwise

/-!
Changes in another order. Two changes at different places that take nothing away can be
carried out in either order (`Record.apply_comm`), also where they share an absent record
that the first of them puts in place. So a list of such changes leads to the same record in
every order (`Record.patch_perm`). The changes that a merge takes are of this kind: their
places differ, as those of all differences do, and no removal is harmless.
-/

namespace ServerInventory

/-! ## Two changes -/

section

variable {first second : Change}

/-- Two changes, neither of them a removal, on a map in an attribute. -/
theorem Field.Takes.amend_comm {α : Type} {wrap : α → Value} {hold : StringMap α → Field}
    (takes : Field.Takes wrap hold) (holds : Field.Holds wrap hold)
    (firstAdds : first.kind ≠ .delete) (secondAdds : second.kind ≠ .delete)
    {entries : StringMap α} {middle after : Field} {path other : List String}
    (different : path ≠ other) (early : (hold entries).amend first path = (middle, none))
    (late : middle.amend second other = (after, none)) :
    ∃ between, (hold entries).amend second other = (between, none) ∧
      between.amend first path = (after, none) := by
  rcases takes entries first path middle firstAdds early with ⟨key, value, rfl, brought, rfl⟩
  rcases takes _ second other after secondAdds late with
    ⟨otherKey, otherValue, rfl, otherBrought, rfl⟩
  have apart : key ≠ otherKey := fun same => different (congrArg (fun key => [key]) same)
  have secondRan := holds entries second otherKey otherValue secondAdds otherBrought
  refine ⟨hold (entries.insert otherKey otherValue), secondRan, ?_⟩
  rw [StringMap.insert_comm apart]
  exact holds _ first key value firstAdds brought

mutual

theorem Field.amend_comm (firstAdds : first.kind ≠ .delete) (secondAdds : second.kind ≠ .delete) :
    ∀ {field middle after : Field} {path other : List String}, path ≠ other →
    field.amend first path = (middle, none) → middle.amend second other = (after, none) →
    ∃ between, field.amend second other = (between, none) ∧
      between.amend first path = (after, none)
  | .scalar value, middle, after, path, other, different, early, late => by
    -- a scalar can be changed along one path alone
    rcases path with _ | ⟨key, path⟩
    · rcases Attempt.map_eq_iff.1 early with ⟨amended, _, rfl⟩
      rcases other with _ | ⟨key, other⟩
      · exact absurd rfl different
      · cases late
    · cases early
  | .texts entries, _, _, _, _, different, early, late =>
    Field.takes_texts.amend_comm Field.holds_texts firstAdds secondAdds different early late
  | .flags entries, _, _, _, _, different, early, late =>
    Field.takes_flags.amend_comm Field.holds_flags firstAdds secondAdds different early late
  | .absent blank, middle, after, path, other, different, early, late => by
    -- whichever of the two comes first puts the same record in place
    rcases path with _ | ⟨name, path⟩
    · cases early
    · rw [Field.amend_absent firstAdds] at early
      rcases Attempt.map_eq_iff.1 early with ⟨record, recordEarly, rfl⟩
      rcases other with _ | ⟨otherName, other⟩
      · cases late
      · rcases Attempt.map_eq_iff.1 late with ⟨amended, recordLate, rfl⟩
        rcases Record.amendAt_comm firstAdds secondAdds different recordEarly recordLate with
          ⟨between, otherEarly, otherLate⟩
        refine ⟨.present between, ?_, Attempt.map_eq_iff.2 ⟨amended, otherLate, rfl⟩⟩
        rw [Field.amend_absent secondAdds]
        exact Attempt.map_eq_iff.2 ⟨between, otherEarly, rfl⟩
  | .present record, middle, after, path, other, different, early, late => by
    rcases path with _ | ⟨name, path⟩
    · cases early
    · rcases Attempt.map_eq_iff.1 early with ⟨inner, recordEarly, rfl⟩
      rcases other with _ | ⟨otherName, other⟩
      · cases late
      · rcases Attempt.map_eq_iff.1 late with ⟨amended, recordLate, rfl⟩
        rcases Record.amendAt_comm firstAdds secondAdds different recordEarly recordLate with
          ⟨between, otherEarly, otherLate⟩
        exact ⟨.present between, Attempt.map_eq_iff.2 ⟨between, otherEarly, rfl⟩,
          Attempt.map_eq_iff.2 ⟨amended, otherLate, rfl⟩⟩

theorem Record.amendAt_comm (firstAdds : first.kind ≠ .delete)
    (secondAdds : second.kind ≠ .delete) : ∀ {record middle after : Record}
    {name otherName : String} {path other : List String}, name :: path ≠ otherName :: other →
    record.amendAt first name path = (middle, none) →
    middle.amendAt second otherName other = (after, none) →
    ∃ between, record.amendAt second otherName other = (between, none) ∧
      between.amendAt first name path = (after, none)
  | .nil, _, _, _, _, _, _, _, early, _ => by cases early
  | .cons head field rest, middle, after, name, otherName, path, other, different, early, late => by
    rcases Record.amendAt_cons_eq_iff.1 early with
      ⟨here, amended, fieldEarly, rfl⟩ | ⟨elsewhere, others, restEarly, rfl⟩
    · rcases Record.amendAt_cons_eq_iff.1 late with
        ⟨alsoHere, final, fieldLate, rfl⟩ | ⟨later, others, restLate, rfl⟩
      · have paths : path ≠ other := by
          intro same
          rw [← here, ← alsoHere, same] at different
          exact different rfl
        rcases Field.amend_comm firstAdds secondAdds paths fieldEarly fieldLate with
          ⟨between, otherEarly, otherLate⟩
        exact ⟨.cons head between rest,
          Record.amendAt_cons_eq_iff.2 (.inl ⟨alsoHere, between, otherEarly, rfl⟩),
          Record.amendAt_cons_eq_iff.2 (.inl ⟨here, final, otherLate, rfl⟩)⟩
      · exact ⟨.cons head field others,
          Record.amendAt_cons_eq_iff.2 (.inr ⟨later, others, restLate, rfl⟩),
          Record.amendAt_cons_eq_iff.2 (.inl ⟨here, amended, fieldEarly, rfl⟩)⟩
    · rcases Record.amendAt_cons_eq_iff.1 late with
        ⟨here, amended, fieldLate, rfl⟩ | ⟨later, final, restLate, rfl⟩
      · exact ⟨.cons head amended rest,
          Record.amendAt_cons_eq_iff.2 (.inl ⟨here, amended, fieldLate, rfl⟩),
          Record.amendAt_cons_eq_iff.2 (.inr ⟨elsewhere, others, restEarly, rfl⟩)⟩
      · rcases Record.amendAt_comm firstAdds secondAdds different restEarly restLate with
          ⟨between, otherEarly, otherLate⟩
        exact ⟨.cons head field between,
          Record.amendAt_cons_eq_iff.2 (.inr ⟨later, between, otherEarly, rfl⟩),
          Record.amendAt_cons_eq_iff.2 (.inr ⟨elsewhere, final, otherLate, rfl⟩)⟩

end

/-- Two changes at different places, neither of them a removal, can change their order. -/
theorem Record.apply_comm (firstAdds : first.kind ≠ .delete) (secondAdds : second.kind ≠ .delete)
    (different : first.path ≠ second.path) {record middle after : Record}
    (early : record.apply first = (middle, none)) (late : middle.apply second = (after, none)) :
    ∃ between, record.apply second = (between, none) ∧ between.apply first = (after, none) := by
  unfold apply at early late ⊢
  cases firstPath : first.path with
  | nil => rw [firstPath] at early; cases early
  | cons name path =>
    cases secondPath : second.path with
    | nil => rw [secondPath] at late; cases late
    | cons otherName other =>
      rw [firstPath] at early different
      rw [secondPath] at late different
      exact amendAt_comm firstAdds secondAdds different early late

end

/-! ## A list of changes -/

/-- Changes at different places, none of them a removal, lead to the same record in every
order. -/
theorem Record.patch_perm {changes permuted : List Change} (order : changes.Perm permuted) :
    ∀ {record after : Record}, (∀ change ∈ changes, change.kind ≠ .delete) →
    (changes.map Change.path).Nodup → record.patch changes = (after, none) →
    record.patch permuted = (after, none) := by
  induction order with
  | nil => exact fun _ _ run => run
  | cons change _ ih =>
    intro record after additions places run
    rcases patch_cons_eq_iff.1 run with ⟨amended, first, others⟩
    have laterAdditions := (List.forall_mem_cons.1 additions).2
    have laterPlaces := (List.nodup_cons.1 places).2
    exact patch_cons_eq_iff.2 ⟨amended, first, ih laterAdditions laterPlaces others⟩
  | swap second first changes =>
    intro record after additions places run
    rcases patch_cons_eq_iff.1 run with ⟨middle, early, rest⟩
    rcases patch_cons_eq_iff.1 rest with ⟨amended, late, others⟩
    rcases List.forall_mem_cons.1 additions with ⟨firstAdds, laterAdditions⟩
    have secondAdds := (List.forall_mem_cons.1 laterAdditions).1
    have different : first.path ≠ second.path := fun same =>
      (List.nodup_cons.1 places).1 (same ▸ List.mem_cons_self)
    rcases apply_comm firstAdds secondAdds different early late with
      ⟨between, otherEarly, otherLate⟩
    exact patch_cons_eq_iff.2 ⟨between, otherEarly,
      patch_cons_eq_iff.2 ⟨amended, otherLate, others⟩⟩
  | trans left _ ihLeft ihRight =>
    intro record after additions places run
    have middleAdditions := fun change member => additions change (left.mem_iff.2 member)
    have middlePlaces := (left.map Change.path).nodup_iff.1 places
    exact ihRight middleAdditions middlePlaces (ihLeft additions places run)

theorem Change.kind_ne_delete_of_harmless {changes : List Change} :
    ∀ change ∈ harmless changes, change.kind ≠ .delete := by
  intro change member removal
  have pass := (List.mem_filter.1 member).2
  rw [uniform_isHarmless.removal change removal] at pass
  cases pass

/-! ## Components -/

/-- The changes that a merge of two components takes can be carried out one by one in any
order: none of them fails, and they lead to what the merge gives. -/
def MergesInAnyOrder (α : Type) [Recordable α] : Prop :=
  ∀ known collected : α, ∃ changes merged, diff known collected = .ok changes ∧
    merge known collected = .ok merged ∧
    ∀ order : List Change, order.Perm (Change.harmless changes) →
      patch known order = (merged.record, none)

theorem LawfulRecordable.mergesInAnyOrder {α : Type} [Recordable α] [LawfulRecordable α] :
    MergesInAnyOrder α := by
  intro known collected
  have unambiguous : ∀ value : α, (Recordable.record value).Unambiguous :=
    fun value => (distinct_record value).unambiguous
  rcases mergeFor_record none known collected with ⟨changes, differences, done⟩
  rcases Record.mergeFor_eq_ok_iff.1 done with ⟨_, found, inOrder, _⟩
  cases Except.ok.inj (differences.symm.trans found)
  have merged : merge known collected =
      .ok ⟨combine known collected, (changes.filter (Change.passes none)).length⟩ := by
    rw [merge, mergeChanges_eq_map, done]
    rfl
  refine ⟨changes, _, diff_eq_ok_of_record differences, merged, fun order permuted => ?_⟩
  have apart := Record.exactlyApart (unambiguous known) (unambiguous collected) differences
  have places : ((Change.harmless changes).map Change.path).Nodup :=
    apart.paths_nodup.sublist (List.filter_sublist.map Change.path)
  rw [Change.passes_none] at inOrder
  have run := Record.patch_perm permuted.symm Change.kind_ne_delete_of_harmless places inOrder
  rw [patch, run, ← Change.passes_none]
  rfl

/-- The harmless ones among the differences of two components of one type do not depend on
one another: carried out in any order they all succeed, and give what the merge gives. -/
theorem patch_in_any_order :
    MergesInAnyOrder Identity ∧ MergesInAnyOrder Firmware ∧ MergesInAnyOrder Drive ∧
      MergesInAnyOrder Nic ∧ MergesInAnyOrder Bmc ∧ MergesInAnyOrder Bios ∧
      MergesInAnyOrder Cpld ∧ MergesInAnyOrder StorageController := by
  refine ⟨?_, ?_, ?_, ?_, ?_, ?_, ?_, ?_⟩
  all_goals exact LawfulRecordable.mergesInAnyOrder

end ServerInventory
