import ServerInventory.Proofs.Record.Differences
import ServerInventory.Record.Patch

/-!
Lists of changes carried out part by part. What is done to a record is done to its
attributes: changes under the name of the first attribute amount to `Field.patch` of that
attribute (`Record.patch_under`), and changes inside the others leave it alone
(`Record.patch_skip`). So a patch is taken apart in the way the differences were put
together.
-/

namespace ServerInventory

/-! ## Amending -/

mutual

/-- Of a change only its kind and the value after it count when it is carried out. -/
theorem Field.amend_congr {change other : Change} (kind : change.kind = other.kind)
    (after : change.after = other.after) : ∀ (field : Field) (path : List String),
    field.amend change path = field.amend other path
  | .scalar value, path => by
    cases path <;> simp [Field.amend, Value.amend, kind, after]
  | .texts entries, path => by
    unfold Field.amend StringMap.amendText
    rw [kind, after]
  | .flags entries, path => by
    unfold Field.amend StringMap.amendFlag
    rw [kind, after]
  | .absent blank, [] => rfl
  | .absent blank, name :: rest => by
    rw [Field.amend, Field.amend, kind, Record.amendAt_congr kind after blank name rest]
  | .present record, [] => rfl
  | .present record, name :: rest => by
    rw [Field.amend, Field.amend, Record.amendAt_congr kind after record name rest]

theorem Record.amendAt_congr {change other : Change} (kind : change.kind = other.kind)
    (after : change.after = other.after) : ∀ (record : Record) (name : String)
    (path : List String), record.amendAt change name path = record.amendAt other name path
  | .nil, _, _ => rfl
  | .cons first field rest, name, path => by
    rw [Record.amendAt, Record.amendAt, Field.amend_congr kind after field path,
      Record.amendAt_congr kind after rest name path]

end

theorem Field.amend_under (name : String) (change : Change) (field : Field)
    (path : List String) : field.amend (change.under name) path = field.amend change path :=
  @Field.amend_congr (change.under name) change rfl rfl field path

/-- An attempt on a whole is one on its part, with the same outcome. -/
theorem Attempt.map_eq_iff {α β : Type} {whole : α → β} {attempt : Attempt α} {after : β}
    {outcome : Option Obstacle} :
    Prod.map whole id attempt = (after, outcome) ↔
      ∃ part, attempt = (part, outcome) ∧ after = whole part := by
  constructor
  · intro ran
    rcases attempt with ⟨part, reached⟩
    rcases Prod.mk.inj ran with ⟨rfl, rfl⟩
    exact ⟨part, rfl, rfl⟩
  · rintro ⟨part, rfl, rfl⟩
    rfl

/-- A change inside a record is one to the first attribute, if it has the name, and otherwise
one inside the others. -/
theorem Record.amendAt_cons_eq_iff {change : Change} {head name : String} {field : Field}
    {rest after : Record} {path : List String} {outcome : Option Obstacle} :
    (Record.cons head field rest).amendAt change name path = (after, outcome) ↔
      (head = name ∧ ∃ amended, field.amend change path = (amended, outcome) ∧
          after = .cons head amended rest) ∨
        (head ≠ name ∧ ∃ others, rest.amendAt change name path = (others, outcome) ∧
          after = .cons head field others) := by
  rw [amendAt]
  by_cases here : head = name
  · rw [if_pos here, Attempt.map_eq_iff]
    simp [here]
  · rw [if_neg here, Attempt.map_eq_iff]
    simp [here]

/-- What a change brings into an absent record it brings into the record put in place. -/
theorem Field.amend_absent {change : Change} (addition : change.kind ≠ .delete) (blank : Record)
    (name : String) (path : List String) :
    (absent blank).amend change (name :: path) = (present blank).amend change (name :: path) := by
  rw [amend, amend, if_neg addition]

/-! ## Patching an attribute -/

/-- The failure seen from a record that holds its record under `name`. -/
def PatchFailure.under (name : String) (failure : PatchFailure) : PatchFailure :=
  { failure with change := failure.change.under name }

/-- What some changes leave behind, together with the one that failed if any did. -/
abbrev Patched (α : Type) := α × Option PatchFailure

/-- The part that some changes leave behind, inside a larger whole. -/
def Patched.map {α β : Type} (whole : α → β) (patched : Patched α) : Patched β :=
  (whole patched.1, patched.2)

/-- An attribute after some changes up to the first that cannot be carried out, their paths
being those from the attribute. -/
def Field.patch (field : Field) : List Change → Patched Field
  | [] => (field, none)
  | change :: changes =>
    match field.amend change change.path with
    | (amended, none) => amended.patch changes
    | (amended, some obstacle) => (amended, some ⟨change, obstacle⟩)

namespace Field

@[simp] theorem patch_nil (field : Field) : field.patch [] = (field, none) := rfl

/-- A change that is carried out is followed by the others. -/
theorem patch_cons_of_amend {field amended : Field} {change : Change}
    (step : field.amend change change.path = (amended, none)) (changes : List Change) :
    field.patch (change :: changes) = amended.patch changes := by
  rw [patch, step]

theorem patch_append (field : Field) (early late : List Change) :
    field.patch (early ++ late) =
      match field.patch early with
      | (amended, none) => amended.patch late
      | (amended, some failure) => (amended, some failure) := by
  induction early generalizing field with
  | nil => rfl
  | cons change rest ih =>
    rw [List.cons_append, patch, patch]
    cases field.amend change change.path with
    | mk amended obstacle =>
      cases obstacle with
      | none => exact ih amended
      | some obstacle => rfl

end Field

/-! ## Patching a record -/

namespace Record

theorem patch_append (record : Record) (early late : List Change) :
    record.patch (early ++ late) =
      match record.patch early with
      | (amended, none) => amended.patch late
      | (amended, some failure) => (amended, some failure) := by
  induction early generalizing record with
  | nil => rfl
  | cons change rest ih =>
    rw [List.cons_append, patch, patch]
    cases record.apply change with
    | mk amended obstacle =>
      cases obstacle with
      | none => exact ih amended
      | some obstacle => rfl

/-- Changes can be carried out if the first one can be, and then the others. -/
theorem patch_cons_eq_iff {record after : Record} {change : Change} {changes : List Change} :
    record.patch (change :: changes) = (after, none) ↔
      ∃ amended, record.apply change = (amended, none) ∧
        amended.patch changes = (after, none) := by
  rw [patch]
  rcases record.apply change with ⟨amended, _ | obstacle⟩ <;> simp

/-- Changes under the name of the first attribute amount to a patch of that attribute. -/
theorem patch_under (name : String) (field : Field) (rest : Record) (changes : List Change) :
    (Record.cons name field rest).patch (changes.map (·.under name)) =
      (.cons name (field.patch changes).1 rest,
        (field.patch changes).2.map (·.under name)) := by
  induction changes generalizing field with
  | nil => rfl
  | cons change changes ih =>
    have step : (Record.cons name field rest).apply (change.under name) =
        (field.amend change change.path).map (.cons name · rest) id := by
      change (Record.cons name field rest).amendAt (change.under name) name change.path = _
      rw [amendAt, if_pos rfl, Field.amend_under]
    rw [List.map_cons, patch, step, Field.patch]
    cases field.amend change change.path with
    | mk amended obstacle =>
      cases obstacle with
      | none => exact ih amended
      | some obstacle => rfl

/-- Changes inside attributes of other names leave the first attribute alone. -/
theorem patch_skip {name : String} {names : List String} (other : name ∉ names)
    (field : Field) (rest : Record) {changes : List Change}
    (inside : ∀ change ∈ changes, change.Inside names) :
    (Record.cons name field rest).patch changes =
      Patched.map (.cons name field ·) (rest.patch changes) := by
  induction changes generalizing rest with
  | nil => rfl
  | cons change changes ih =>
    obtain ⟨⟨first, path, equal, member⟩, later⟩ := List.forall_mem_cons.1 inside
    have different : name ≠ first := fun same => other (same ▸ member)
    have step : (Record.cons name field rest).apply change =
        (rest.apply change).map (.cons name field ·) id := by
      unfold apply
      rw [equal]
      change (Record.cons name field rest).amendAt change first path = _
      rw [amendAt, if_neg different]
    rw [patch, patch, step]
    cases rest.apply change with
    | mk amended obstacle =>
      cases obstacle with
      | none => exact ih amended later
      | some obstacle => rfl

/-- Changes of the first attribute and then of the others can be carried out if those of each
part can be. -/
theorem patch_parts_eq_iff {name : String} {names : List String} {field : Field}
    {rest after : Record} {inner late : List Change} (notLater : name ∉ names)
    (inside : ∀ change ∈ late, change.Inside names) :
    (Record.cons name field rest).patch (inner.map (·.under name) ++ late) = (after, none) ↔
      ∃ amended others, field.patch inner = (amended, none) ∧
        rest.patch late = (others, none) ∧ after = .cons name amended others := by
  rw [patch_append, patch_under]
  rcases field.patch inner with ⟨amended, _ | failure⟩
  · simp only [Option.map_none]
    rw [patch_skip notLater amended rest inside]
    rcases rest.patch late with ⟨others, outcome⟩
    constructor
    · intro ran
      rcases Prod.mk.inj ran with ⟨rfl, rfl⟩
      exact ⟨amended, others, rfl, rfl, rfl⟩
    · rintro ⟨_, _, ⟨⟩, ⟨⟩, rfl⟩
      rfl
  · simp

end Record

/-! ## Patching an attribute that is a record -/

namespace Field

variable {names : List String} {changes : List Change}

theorem patch_present (record : Record) (inside : ∀ change ∈ changes, change.Inside names) :
    (present record).patch changes = Patched.map .present (record.patch changes) := by
  induction changes generalizing record with
  | nil => rfl
  | cons change changes ih =>
    obtain ⟨⟨name, path, equal, _⟩, later⟩ := List.forall_mem_cons.1 inside
    have step : (present record).amend change change.path =
        (record.apply change).map .present id := by
      unfold Record.apply
      rw [equal, amend]
    rw [patch, Record.patch, step]
    cases record.apply change with
    | mk amended obstacle =>
      cases obstacle with
      | none => exact ih amended later
      | some obstacle => rfl

/-- An absent record is put in place by the first addition inside it. -/
theorem patch_absent (blank : Record) (inside : ∀ change ∈ changes, change.Inside names)
    (additions : ∀ change ∈ changes, change.kind ≠ .delete) (nonempty : changes ≠ []) :
    (absent blank).patch changes = Patched.map .present (blank.patch changes) := by
  cases changes with
  | nil => exact absurd rfl nonempty
  | cons change changes =>
    obtain ⟨⟨name, path, equal, _⟩, later⟩ := List.forall_mem_cons.1 inside
    have addition := additions change List.mem_cons_self
    have step : (absent blank).amend change change.path =
        (blank.apply change).map .present id := by
      unfold Record.apply
      rw [equal, amend, if_neg addition]
    rw [patch, Record.patch, step]
    cases blank.apply change with
    | mk amended obstacle =>
      cases obstacle with
      | none => exact patch_present amended later
      | some obstacle => rfl

end Field

end ServerInventory
