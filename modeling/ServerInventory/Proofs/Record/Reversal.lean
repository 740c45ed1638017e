import ServerInventory.Proofs.Record.Differences
import ServerInventory.Record.Merge

/-!
Differences seen from the other side. The changes that lead back from one record to another
are those that lead there, each of them reversed, at the same paths and in the same order;
and where two records have no list of differences, the mismatch shows at the same path from
either side (`Record.diff_reversed`). Each part of a difference has this symmetry, and the
ways to put parts together keep it.
-/

namespace ServerInventory

/-! ## Changes and mismatches reversed -/

/-- What was created from one side is deleted from the other. -/
def Change.Kind.reversed : Change.Kind → Change.Kind
  | .create => .delete
  | .update => .update
  | .delete => .create

/-- The change that leads back. -/
def Change.reversed (change : Change) : Change :=
  ⟨change.kind.reversed, change.path, change.after, change.before⟩

/-- The reason with its two sides exchanged. -/
def Mismatch.Reason.reversed : Mismatch.Reason → Mismatch.Reason
  | .fieldCounts left right => .fieldCounts right left
  | .fieldNames left right => .fieldNames right left
  | .types left right => .types right left
  | .entryType key => .entryType key
  | .shapes left right => .shapes right left

/-- The mismatch with its two sides exchanged, in the same place. -/
def Mismatch.reversed (mismatch : Mismatch) : Mismatch :=
  ⟨mismatch.path, mismatch.reason.reversed⟩

namespace Differences

/-- Differences seen from the other side. -/
def reversed : Differences → Differences
  | .ok changes => .ok (changes.map Change.reversed)
  | .error mismatch => .error mismatch.reversed

theorem reversed_under (name : String) (differences : Differences) :
    (differences.under name).reversed = differences.reversed.under name := by
  cases differences with
  | error mismatch => rfl
  | ok changes =>
    have alike : Change.reversed ∘ (·.under name) = (·.under name) ∘ Change.reversed := rfl
    rw [under, reversed, reversed, under, List.map_map, List.map_map, alike]

theorem reversed_followedBy (first second : Differences) :
    (first.followedBy second).reversed = first.reversed.followedBy second.reversed := by
  cases first with
  | error mismatch => rfl
  | ok changes =>
    cases second with
    | error mismatch => rfl
    | ok more =>
      have split : (changes ++ more).map Change.reversed =
          changes.map Change.reversed ++ more.map Change.reversed := List.map_append
      exact congrArg Except.ok split

end Differences

/-! ## Parts of a difference -/

theorem Value.diff_reversed (left right : Value) :
    right.diff left = (left.diff right).reversed := by
  unfold diff
  by_cases kinds : left.kind = right.kind
  · rw [if_pos kinds, if_pos kinds.symm]
    by_cases same : left = right
    · rw [if_pos same, if_pos same.symm]
      rfl
    · rw [if_neg same, if_neg (Ne.symm same)]
      rfl
  · rw [if_neg kinds, if_neg (Ne.symm kinds)]
    rfl

namespace StringMap

/-- The keys of two maps do not depend on which of the maps comes first. -/
theorem unionKeys_comm {α β : Type} (left : StringMap α) (right : StringMap β) :
    right.unionKeys left = left.unionKeys right := by
  have irreflexive : Std.Irrefl fun left right : String => left < right := ⟨String.lt_irrefl⟩
  refine List.Pairwise.eq_of_mem_iff (pairwise_unionKeys right left)
    (pairwise_unionKeys left right) fun key => ?_
  rw [mem_unionKeys, mem_unionKeys]
  exact or_comm

theorem diffAt_reversed (left right : StringMap Value) (key : String) :
    right.diffAt left key = (left.diffAt right key).reversed := by
  unfold diffAt
  cases left.get? key with
  | none => cases right.get? key <;> rfl
  | some before =>
    cases right.get? key with
    | none => rfl
    | some after =>
      by_cases same : before = after
      · simp only [if_pos same, if_pos same.symm]
        rfl
      · by_cases kinds : before.kind = after.kind
        · simp only [if_neg same, if_neg (Ne.symm same), if_pos kinds, if_pos kinds.symm]
          rfl
        · simp only [if_neg same, if_neg (Ne.symm same), if_neg kinds, if_neg (Ne.symm kinds)]
          rfl

theorem diff_reversed (left right : StringMap Value) :
    right.diff left = (left.diff right).reversed := by
  unfold diff
  rw [unionKeys_comm]
  induction left.unionKeys right with
  | nil => rfl
  | cons key rest ih =>
    rw [List.foldr_cons, List.foldr_cons, ih, diffAt_reversed, Differences.reversed_followedBy]

end StringMap

theorem Record.compareSizes_reversed (left right : Record) :
    right.compareSizes left = (left.compareSizes right).reversed := by
  unfold compareSizes
  by_cases same : left.size = right.size
  · rw [if_pos same, if_pos same.symm]
    rfl
  · rw [if_neg same, if_neg (Ne.symm same)]
    rfl

/-- What is created from one side is deleted from the other, leaf by leaf. -/
theorem Leaf.map_created_reversed (leaves : List Leaf) :
    (leaves.map Leaf.created).map Change.reversed = leaves.map Leaf.deleted := by
  rw [List.map_map]
  rfl

theorem Leaf.map_deleted_reversed (leaves : List Leaf) :
    (leaves.map Leaf.deleted).map Change.reversed = leaves.map Leaf.created := by
  rw [List.map_map]
  rfl

/-! ## Records -/

mutual

theorem Field.diff_reversed : ∀ left right : Field,
    right.diff left = (left.diff right).reversed
  | .scalar left, .scalar right => left.diff_reversed right
  | .texts left, .texts right => (left.map Value.text).diff_reversed (right.map .text)
  | .texts left, .flags right => (left.map Value.text).diff_reversed (right.map .flag)
  | .flags left, .texts right => (left.map Value.flag).diff_reversed (right.map .text)
  | .flags left, .flags right => (left.map Value.flag).diff_reversed (right.map .flag)
  | .present left, .present right => by
    rw [Field.diff, Field.diff, Differences.reversed_followedBy, left.compareSizes_reversed right,
      Record.diffFields_reversed left right]
  | .absent _, .present right => congrArg Except.ok (Leaf.map_created_reversed right.leaves).symm
  | .present left, .absent _ => congrArg Except.ok (Leaf.map_deleted_reversed left.leaves).symm
  | .absent _, .absent _ => rfl
  | .scalar _, .texts _ => rfl
  | .scalar _, .flags _ => rfl
  | .scalar _, .absent _ => rfl
  | .scalar _, .present _ => rfl
  | .texts _, .scalar _ => rfl
  | .texts _, .absent _ => rfl
  | .texts _, .present _ => rfl
  | .flags _, .scalar _ => rfl
  | .flags _, .absent _ => rfl
  | .flags _, .present _ => rfl
  | .absent _, .scalar _ => rfl
  | .absent _, .texts _ => rfl
  | .absent _, .flags _ => rfl
  | .present _, .scalar _ => rfl
  | .present _, .texts _ => rfl
  | .present _, .flags _ => rfl

theorem Record.diffFields_reversed : ∀ left right : Record,
    right.diffFields left = (left.diffFields right).reversed
  | .nil, .nil => rfl
  | .nil, .cons _ _ _ => rfl
  | .cons _ _ _, .nil => rfl
  | .cons name field rest, .cons otherName other otherRest => by
    rw [Record.diffFields, Record.diffFields]
    by_cases same : name = otherName
    · rw [if_pos same, if_pos same.symm, Differences.reversed_followedBy,
        Differences.reversed_under, Field.diff_reversed field other,
        Record.diffFields_reversed rest otherRest, same]
    · rw [if_neg same, if_neg (Ne.symm same)]
      rfl

end

/-- The differences of two records from one side are those from the other, reversed. -/
theorem Record.diff_reversed (left right : Record) :
    right.diff left = (left.diff right).reversed := by
  rw [diff, diff, Differences.reversed_followedBy, left.compareSizes_reversed right,
    left.diffFields_reversed right]

/-- From either side two records have the same differences, each reversed, in the same
places and in the same order; or they have none from either side, and both report the same
place, with the reason as it looks from there. This holds of records of any layouts, those
of two types of components among them. -/
theorem diff_antisymmetric {α : Type} [Recordable α] (left right : α) :
    (∃ changes, diff left right = .ok changes ∧
        diff right left = .ok (changes.map Change.reversed)) ∨
      ∃ (path : String) (reason : Mismatch.Reason),
        diff left right = .error (.diff path reason.describe) ∧
          diff right left = .error (.diff path reason.reversed.describe) := by
  have back := Record.diff_reversed (Recordable.record left) (Recordable.record right)
  unfold diff Record.changesFor
  rw [back]
  cases (Recordable.record left).diff (Recordable.record right) with
  | ok changes => exact .inl ⟨changes, rfl, rfl⟩
  | error mismatch => exact .inr ⟨Change.joinPath mismatch.path, mismatch.reason, rfl, rfl⟩

end ServerInventory
