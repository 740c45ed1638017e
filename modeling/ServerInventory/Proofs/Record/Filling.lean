import ServerInventory.Proofs.Record.Layout
import ServerInventory.Proofs.Record.Patching

/-!
A record put in place where there was none. Adding all leaves of a record, one by one, to
its bare layout gives the record again, but for records inside it that have no leaves and
so are never put in place (`Record.patch_created`).
-/

namespace ServerInventory

mutual

/-- An attribute as its leaves alone bring it about. -/
def Field.filled : Field → Field
  | .scalar value => .scalar value
  | .texts entries => .texts entries
  | .flags entries => .flags entries
  | .absent blank => .absent blank
  | .present record =>
    if record.leaves.isEmpty then .absent record.layout else .present record.filled

/-- A record as its leaves alone bring it about. -/
def Record.filled : Record → Record
  | .nil => .nil
  | .cons name field rest => .cons name field.filled rest.filled

end

mutual

@[simp] theorem Field.leaves_filled : ∀ field : Field, field.filled.leaves = field.leaves
  | .scalar _ => rfl
  | .texts _ => rfl
  | .flags _ => rfl
  | .absent _ => rfl
  | .present record => by
    rw [Field.filled]
    split
    · rename_i empty
      exact (List.isEmpty_iff.1 empty).symm
    · exact Record.leaves_filled record

@[simp] theorem Record.leaves_filled : ∀ record : Record, record.filled.leaves = record.leaves
  | .nil => rfl
  | .cons name field rest => by
    rw [Record.filled, Record.leaves, Record.leaves, Field.leaves_filled field,
      Record.leaves_filled rest]

end

mutual

@[simp] theorem Field.layout_filled : ∀ field : Field, field.filled.layout = field.layout
  | .scalar _ => rfl
  | .texts _ => rfl
  | .flags _ => rfl
  | .absent _ => rfl
  | .present record => by
    rw [Field.filled]
    split
    · rfl
    · rw [Field.layout, Field.layout, Record.layout_filled record]

@[simp] theorem Record.layout_filled : ∀ record : Record, record.filled.layout = record.layout
  | .nil => rfl
  | .cons name field rest => by
    rw [Record.filled, Record.layout, Record.layout, Field.layout_filled field,
      Record.layout_filled rest]

end

@[simp] theorem Record.size_filled : ∀ record : Record, record.filled.size = record.size
  | .nil => rfl
  | .cons _ _ rest => congrArg (· + 1) (size_filled rest)

/-! ## Additions -/

theorem Leaf.inside_created {record : Record} {leaf : Leaf} (member : leaf ∈ record.leaves) :
    leaf.created.Inside record.names :=
  Record.path_of_mem_leaves member

theorem Record.inside_created (record : Record) :
    ∀ change ∈ record.leaves.map Leaf.created, change.Inside record.names := by
  intro change member
  obtain ⟨leaf, inside, rfl⟩ := List.mem_map.1 member
  exact Leaf.inside_created inside

theorem Record.not_delete_created (record : Record) :
    ∀ change ∈ record.leaves.map Leaf.created, change.kind ≠ .delete := by
  intro change member
  obtain ⟨leaf, _, rfl⟩ := List.mem_map.1 member
  exact nofun

/-- The leaves of the first attribute are added under its name. -/
theorem Record.map_created_cons (name : String) (field : Field) (rest : Record) :
    (Record.cons name field rest).leaves.map Leaf.created =
      (field.leaves.map Leaf.created).map (·.under name) ++ rest.leaves.map Leaf.created := by
  rw [Record.leaves, List.map_append, List.map_map, List.map_map]
  rfl

section

variable {α : Type} {wrap : α → Value} {hold : StringMap α → Field}

/-- `hold` keeps a map in an attribute: a change at a key that brings a value of the map's
own type puts it in. -/
def Field.Holds (wrap : α → Value) (hold : StringMap α → Field) : Prop :=
  ∀ (entries : StringMap α) (change : Change) (key : String) (value : α),
    change.kind ≠ .delete → change.after = some (wrap value) →
      (hold entries).amend change [key] = (hold (entries.insert key value), none)

theorem Field.holds_texts : Field.Holds .text .texts := by
  intro entries change key value addition after
  simp [Field.amend, StringMap.amendText, addition, after]

theorem Field.holds_flags : Field.Holds .flag .flags := by
  intro entries change key value addition after
  simp [Field.amend, StringMap.amendFlag, addition, after]

/-- `hold` keeps a map in an attribute: of the changes that are no removals it takes only
those that bring a value of the map's own type under a key. -/
def Field.Takes (wrap : α → Value) (hold : StringMap α → Field) : Prop :=
  ∀ (entries : StringMap α) (change : Change) (path : List String) (after : Field),
    change.kind ≠ .delete → (hold entries).amend change path = (after, none) →
      ∃ key value, path = [key] ∧ change.after = some (wrap value) ∧
        after = hold (entries.insert key value)

theorem Field.takes_texts : Field.Takes .text .texts := by
  intro entries change path after addition ran
  rcases path with _ | ⟨key, _ | ⟨second, rest⟩⟩
  · cases ran
  · have entryRan : (entries.amendText change key).map .texts id = (after, none) := ran
    rw [StringMap.amendText, if_neg addition] at entryRan
    split at entryRan
    · cases entryRan
    · rename_i value brought
      cases entryRan
      exact ⟨key, value, rfl, brought, rfl⟩
    · cases entryRan
  · cases ran

theorem Field.takes_flags : Field.Takes .flag .flags := by
  intro entries change path after addition ran
  rcases path with _ | ⟨key, _ | ⟨second, rest⟩⟩
  · cases ran
  · have entryRan : (entries.amendFlag change key).map .flags id = (after, none) := ran
    rw [StringMap.amendFlag, if_neg addition] at entryRan
    split at entryRan
    · cases entryRan
    · rename_i value brought
      cases entryRan
      exact ⟨key, value, rfl, brought, rfl⟩
    · cases entryRan
  · cases ran

/-- Adding the entries of a map one by one to the empty map gives the map. -/
theorem Field.Holds.patch_created (holds : Field.Holds wrap hold) (map : StringMap α) :
    (hold ∅).patch ((map.entries.map fun entry => ([entry.1], wrap entry.2)).map Leaf.created) =
      (hold map, none) := by
  have along : ∀ (pairs : List (String × α)) (start : StringMap α),
      (hold start).patch ((pairs.map fun entry => ([entry.1], wrap entry.2)).map Leaf.created) =
        (hold (pairs.foldl (fun map pair => map.insert pair.1 pair.2) start), none) := by
    intro pairs
    induction pairs with
    | nil => exact fun start => rfl
    | cons entry rest ih =>
      intro start
      have addition : (Leaf.created ([entry.1], wrap entry.2)).kind ≠ .delete := by
        simp [Leaf.created]
      rw [List.map_cons, List.map_cons, List.foldl_cons, ← ih]
      exact patch_cons_of_amend (holds start _ entry.1 entry.2 addition rfl) _
  rw [along map.entries ∅]
  exact congrArg (fun map => (hold map, none)) (StringMap.ofList_entries map)

end

mutual

theorem Field.patch_created : ∀ field : Field, field.layout.Distinct →
    field.layout.patch (field.leaves.map Leaf.created) = (field.filled, none)
  | .scalar value, _ => by
    have step : (Field.scalar (.blank value.kind)).amend (Leaf.created ([], value)) [] =
        (.scalar value, none) := by
      simp [Field.amend, Value.amend, Leaf.created]
    exact Field.patch_cons_of_amend step []
  | .texts entries, _ => Field.holds_texts.patch_created entries
  | .flags entries, _ => Field.holds_flags.patch_created entries
  | .absent _, _ => rfl
  | .present record, distinct => by
    rw [Field.layout, Field.leaves, Field.filled]
    split
    · rename_i empty
      rw [List.isEmpty_iff.1 empty]
      rfl
    · rename_i nonempty
      have additions : record.leaves.map Leaf.created ≠ [] := by
        simpa using nonempty
      rw [Field.patch_absent record.layout record.inside_created record.not_delete_created
        additions, Record.patch_created record distinct]
      rfl

/-- All leaves of a record added to its layout, where no name occurs twice at one level. -/
theorem Record.patch_created : ∀ record : Record, record.layout.Distinct →
    record.layout.patch (record.leaves.map Leaf.created) = (record.filled, none)
  | .nil, _ => rfl
  | .cons name field rest, distinct => by
    obtain ⟨other, fieldDistinct, restDistinct⟩ := distinct
    rw [Record.names_layout] at other
    rw [Record.map_created_cons]
    exact (Record.patch_parts_eq_iff other rest.inside_created).2
      ⟨field.filled, rest.filled, Field.patch_created field fieldDistinct,
        Record.patch_created rest restDistinct, rfl⟩

end

end ServerInventory
