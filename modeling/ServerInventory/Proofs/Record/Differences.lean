import ServerInventory.Proofs.StringMap
import ServerInventory.Record.Diff

/-!
What lists of differences are made of. Differences of parts are put together by
`Differences.followedBy` and `Differences.under`, and a result of either is split into the
results of the parts. The difference of two maps is written out key by key
(`StringMap.diff_eq_ok_iff`), and every change of a record starts at one of its attributes
(`Record.path_of_mem_diffFields`).
-/

namespace ServerInventory

/-- The change addresses something inside an attribute that has one of the names. -/
def Change.Inside (names : List String) (change : Change) : Prop :=
  ∃ name path, change.path = name :: path ∧ name ∈ names

theorem Change.inside_under {names : List String} {name : String} (member : name ∈ names)
    (change : Change) : (change.under name).Inside names :=
  ⟨name, change.path, rfl, member⟩

theorem Change.Inside.mono {names others : List String} {change : Change}
    (inside : change.Inside names) (subset : names ⊆ others) : change.Inside others := by
  obtain ⟨name, path, equal, member⟩ := inside
  exact ⟨name, path, equal, subset member⟩

namespace Differences

theorem followedBy_eq_ok_iff {first second : Differences} {changes : List Change} :
    first.followedBy second = .ok changes ↔
      ∃ early late, first = .ok early ∧ second = .ok late ∧ changes = early ++ late := by
  cases first with
  | error mismatch => simp [followedBy]
  | ok early =>
    cases second with
    | error mismatch => simp [followedBy]
    | ok late => simp [followedBy, eq_comm]

theorem under_eq_ok_iff {name : String} {differences : Differences} {changes : List Change} :
    differences.under name = .ok changes ↔
      ∃ inner, differences = .ok inner ∧ changes = inner.map (·.under name) := by
  cases differences with
  | error mismatch => simp [under]
  | ok inner => simp [under, eq_comm]

@[simp] theorem ok_nil_followedBy (differences : Differences) :
    Differences.followedBy (.ok []) differences = differences := by
  cases differences <;> rfl

end Differences

/-! ## Maps -/

namespace StringMap

variable {left right : StringMap Value} {key : String} {changes : List Change}

/-- The changes at one key, for values that do not change their type. -/
def changesAt (left right : StringMap Value) (key : String) : List Change :=
  match left.get? key, right.get? key with
  | none, none => []
  | none, some after => [⟨.create, [key], none, some after⟩]
  | some before, none => [⟨.delete, [key], some before, none⟩]
  | some before, some after =>
    if before = after then [] else [⟨.update, [key], some before, some after⟩]

/-- The value under the key, if both maps have one, is of one type in both. -/
def SameKindAt (left right : StringMap Value) (key : String) : Prop :=
  ∀ before ∈ left.get? key, ∀ after ∈ right.get? key, before.kind = after.kind

theorem diffAt_eq_ok_iff :
    left.diffAt right key = .ok changes ↔
      left.SameKindAt right key ∧ changes = left.changesAt right key := by
  unfold diffAt changesAt SameKindAt
  cases left.get? key with
  | none => cases right.get? key <;> simp [eq_comm]
  | some before =>
    cases right.get? key with
    | none => simp [eq_comm]
    | some after =>
      by_cases same : before = after
      · simp [same, eq_comm]
      · by_cases kind : before.kind = after.kind <;> simp [same, kind, eq_comm]

/-- Two maps differ as they do at each key, the keys in ascending order. -/
theorem diff_eq_ok_iff :
    left.diff right = .ok changes ↔
      (∀ key, left.SameKindAt right key) ∧
        changes = (left.unionKeys right).flatMap (left.changesAt right) := by
  have outside : ∀ key, key ∉ left.unionKeys right → left.SameKindAt right key := by
    intro key notInside before found
    rw [mem_unionKeys, Option.mem_def.1 found] at notInside
    simp at notInside
  have along : ∀ keys : List String, ∀ changes,
      keys.foldr (fun key rest => (left.diffAt right key).followedBy rest) (.ok []) =
          .ok changes ↔
        (∀ key ∈ keys, left.SameKindAt right key) ∧
          changes = keys.flatMap (left.changesAt right) := by
    intro keys
    induction keys with
    | nil => simp [eq_comm]
    | cons key rest ih =>
      intro changes
      simp only [List.foldr_cons, Differences.followedBy_eq_ok_iff, diffAt_eq_ok_iff, ih,
        List.forall_mem_cons, List.flatMap_cons]
      constructor
      · rintro ⟨early, late, ⟨kind, rfl⟩, ⟨kinds, rfl⟩, rfl⟩
        exact ⟨⟨kind, kinds⟩, rfl⟩
      · rintro ⟨⟨kind, kinds⟩, rfl⟩
        exact ⟨_, _, ⟨kind, rfl⟩, ⟨kinds, rfl⟩, rfl⟩
  unfold diff
  rw [along]
  constructor
  · rintro ⟨kinds, equal⟩
    refine ⟨fun key => ?_, equal⟩
    by_cases inside : key ∈ left.unionKeys right
    · exact kinds key inside
    · exact outside key inside
  · rintro ⟨kinds, equal⟩
    exact ⟨fun key _ => kinds key, equal⟩

theorem mem_unionKeys_of_changesAt (nonempty : left.changesAt right key ≠ []) :
    key ∈ left.unionKeys right := by
  rw [mem_unionKeys]
  by_contra outside
  simp only [ne_eq, not_or, not_not] at outside
  simp [changesAt, outside] at nonempty

/-- Values of two maps that are all of one type are of one type. -/
theorem kind_of_get?_map {α : Type} {wrap : α → Value} {left right : StringMap α}
    (kind : ∀ value other, (wrap value).kind = (wrap other).kind)
    {key : String} {before after : Value} (found : before ∈ (left.map wrap).get? key)
    (foundAfter : after ∈ (right.map wrap).get? key) : before.kind = after.kind := by
  rw [get?_map, Option.mem_def, Option.map_eq_some_iff] at found foundAfter
  obtain ⟨value, _, rfl⟩ := found
  obtain ⟨other, _, rfl⟩ := foundAfter
  exact kind value other

end StringMap

/-! ## Records -/

namespace Record

theorem diff_eq_ok_iff {left right : Record} {changes : List Change} :
    left.diff right = .ok changes ↔
      left.size = right.size ∧ left.diffFields right = .ok changes := by
  unfold diff compareSizes
  split
  · rename_i same
    simp [same]
  · rename_i different
    simp [different, Differences.followedBy]

/-- Two records with as many attributes as one another have differences if they have the
same first name and differences in the first attribute and in the others. -/
theorem diffFields_cons_eq_ok_iff {name otherName : String} {field other : Field}
    {rest otherRest : Record} {changes : List Change} :
    (Record.cons name field rest).diffFields (.cons otherName other otherRest) = .ok changes ↔
      name = otherName ∧ ∃ inner late, field.diff other = .ok inner ∧
        rest.diffFields otherRest = .ok late ∧
        changes = inner.map (·.under name) ++ late := by
  rw [diffFields]
  split
  · rename_i same
    simp only [Differences.followedBy_eq_ok_iff, Differences.under_eq_ok_iff, same, true_and]
    constructor
    · rintro ⟨early, late, ⟨inner, equal, rfl⟩, lateEqual, rfl⟩
      exact ⟨inner, late, equal, lateEqual, rfl⟩
    · rintro ⟨inner, late, equal, lateEqual, rfl⟩
      exact ⟨_, late, ⟨inner, equal, rfl⟩, lateEqual, rfl⟩
  · rename_i different
    simp [different]

/-- Where one of two records is at its end there are no more differences. -/
theorem eq_nil_of_diffFields {left right : Record} {changes : List Change}
    (ended : left = .nil ∨ right = .nil) (differences : left.diffFields right = .ok changes) :
    changes = [] := by
  rcases ended with rfl | rfl
  · exact (Except.ok.inj differences).symm
  · cases left <;> exact (Except.ok.inj differences).symm

/-- Every leaf of a record lies in one of its attributes. -/
theorem path_of_mem_leaves : ∀ {record : Record} {leaf : Leaf}, leaf ∈ record.leaves →
    ∃ name path, leaf.1 = name :: path ∧ name ∈ record.names
  | .nil, _, member => by simp [leaves] at member
  | .cons name field rest, leaf, member => by
    simp only [leaves, List.mem_append, List.mem_map] at member
    rcases member with ⟨inner, _, rfl⟩ | later
    · exact ⟨name, inner.1, rfl, List.mem_cons_self⟩
    · obtain ⟨other, path, equal, inside⟩ := path_of_mem_leaves later
      exact ⟨other, path, equal, List.mem_cons_of_mem name inside⟩

/-- Every difference of two records lies in one of their attributes. -/
theorem path_of_mem_diffFields : ∀ {left right : Record} {changes : List Change},
    left.diffFields right = .ok changes → ∀ change ∈ changes, change.Inside left.names
  | .nil, _, changes, differences => by
    rw [eq_nil_of_diffFields (.inl rfl) differences]
    exact List.forall_mem_nil _
  | .cons _ _ _, .nil, changes, differences => by
    rw [eq_nil_of_diffFields (.inr rfl) differences]
    exact List.forall_mem_nil _
  | .cons name field rest, .cons otherName other otherRest, changes, differences => by
    obtain ⟨_, inner, late, _, lateEqual, rfl⟩ := diffFields_cons_eq_ok_iff.1 differences
    intro change member
    rcases List.mem_append.1 member with early | later
    · obtain ⟨original, _, rfl⟩ := List.mem_map.1 early
      exact Change.inside_under List.mem_cons_self original
    · exact (path_of_mem_diffFields lateEqual change later).mono (List.subset_cons_self _ _)

end Record

end ServerInventory
