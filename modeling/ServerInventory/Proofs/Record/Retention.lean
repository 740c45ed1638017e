import ServerInventory.Proofs.Record.Merging

/-!
Known data stays. `Record.Keeps` compares a record before and after some work: no scalar or
map entry is gone, what was known is unchanged, and the attributes that may be corrected
are known as before, if with another value. Every merge keeps what is known
(`keeps_combineFor`).
-/

namespace ServerInventory

/-! ## Data by its path -/

mutual

/-- The scalar or map entry of an attribute that a path leads to. -/
def Field.leaf? : Field → List String → Option Value
  | .scalar value, [] => some value
  | .texts entries, [key] => (entries.get? key).map .text
  | .flags entries, [key] => (entries.get? key).map .flag
  | .present record, path => record.leaf? path
  | _, _ => none

/-- The scalar or map entry of a record that a path leads to. -/
def Record.leaf? : Record → List String → Option Value
  | .cons name field rest, first :: path =>
    if first = name then field.leaf? path else rest.leaf? (first :: path)
  | _, _ => none

end

/-- The attributes of a record that may be corrected, by their paths. -/
def Change.corrections : List (List String) :=
  correctable.map fun name => [name]

/-- What was known of a value is known later on: it is the same value, or a known one of an
attribute that may be corrected. -/
def Value.KeptAt (path : List String) (before after : Value) : Prop :=
  before.isEmpty = false →
    after = before ∨ path ∈ Change.corrections ∧ after.isEmpty = false

/-- Nothing that is known before is lost: all data that was there is there, with what was
known of it, and every record that was present is present. -/
structure Record.Keeps (before after : Record) : Prop where
  leaf : ∀ path value, before.leaf? path = some value →
    ∃ later, after.leaf? path = some later ∧ value.KeptAt path later
  present : ∀ name, before.recordAt name ≠ none → after.recordAt name ≠ none

theorem Value.KeptAt.refl (path : List String) (value : Value) : value.KeptAt path value :=
  fun _ => .inl rfl

theorem Value.KeptAt.trans {path : List String} {first second third : Value}
    (early : first.KeptAt path second) (late : second.KeptAt path third) :
    first.KeptAt path third := by
  intro known
  rcases early known with rfl | ⟨correction, stillKnown⟩
  · exact late known
  · rcases late stillKnown with rfl | corrected
    · exact .inr ⟨correction, stillKnown⟩
    · exact .inr corrected

namespace Record

theorem recordAt_cons_self (name : String) (field : Field) (rest : Record) :
    (cons name field rest).recordAt name =
      match field with
      | .present inner => some inner
      | _ => none := by
  rw [recordAt, field?, if_pos rfl]
  cases field <;> rfl

theorem recordAt_cons_of_ne {first name : String} (different : first ≠ name) (field : Field)
    (rest : Record) : (cons first field rest).recordAt name = rest.recordAt name := by
  rw [recordAt, field?, if_neg different]
  rfl

end Record

namespace Record.Keeps

theorem refl (record : Record) : record.Keeps record :=
  ⟨fun path value found => ⟨value, found, .refl path value⟩, fun _ there => there⟩

theorem trans {first second third : Record} (early : first.Keeps second)
    (late : second.Keeps third) : first.Keeps third := by
  refine ⟨fun path value found => ?_, fun name there => ?_⟩
  · obtain ⟨middle, middleFound, earlyKept⟩ := early.leaf path value found
    obtain ⟨later, laterFound, lateKept⟩ := late.leaf path middle middleFound
    exact ⟨later, laterFound, earlyKept.trans lateKept⟩
  · exact late.present name (early.present name there)

/-- Attributes that come first may stay as they are. -/
theorem cons {rest other : Record} (kept : rest.Keeps other) (name : String) (field : Field) :
    (Record.cons name field rest).Keeps (.cons name field other) := by
  refine ⟨fun path value found => ?_, fun key there => ?_⟩
  · cases path with
    | nil => cases found
    | cons first path =>
      rw [leaf?] at found ⊢
      by_cases here : first = name
      · rw [if_pos here] at found ⊢
        exact ⟨value, found, .refl (first :: path) value⟩
      · rw [if_neg here] at found ⊢
        exact kept.leaf (first :: path) value found
  · by_cases here : name = key
    · subst here
      rw [recordAt_cons_self] at there ⊢
      exact there
    · rw [recordAt_cons_of_ne here] at there ⊢
      exact kept.present key there

/-- A value of which nothing is known may be replaced. -/
theorem of_unknown {before : Value} (unknown : before.isEmpty = true) (after : Value)
    (name : String) (rest : Record) :
    (Record.cons name (.scalar before) rest).Keeps (.cons name (.scalar after) rest) := by
  refine ⟨fun path value found => ?_, fun key there => ?_⟩
  · rcases path with _ | ⟨first, path⟩
    · cases found
    · rw [leaf?] at found ⊢
      by_cases here : first = name
      · rw [if_pos here] at found ⊢
        cases path with
        | nil =>
          obtain rfl := Option.some.inj found
          refine ⟨after, rfl, fun known => ?_⟩
          rw [unknown] at known
          cases known
        | cons => cases found
      · rw [if_neg here] at found ⊢
        exact ⟨value, found, .refl (first :: path) value⟩
  · by_cases here : name = key
    · subst here
      rw [recordAt_cons_self] at there
      exact absurd rfl there
    · rw [recordAt_cons_of_ne here] at there ⊢
      exact there

end Record.Keeps

/-! ## Merges -/

/-- An entry that is there stays, with its value or with one that the rule lets in. -/
theorem StringMap.leaf_settle {α : Type} [DecidableEq α] {wrap : α → Value}
    {accept : Acceptance} {left right : StringMap α} {key : String} {before : Value}
    (found : (left.get? key).map wrap = some before) :
    ∃ after, ((left.settle wrap accept right).get? key).map wrap = some after ∧
      (after = before ∨ accept ⟨.update, [key], some before, some after⟩ = true) := by
  obtain ⟨value, valueFound, rfl⟩ := Option.map_eq_some_iff.1 found
  rw [get?_settle, accepted?, valueFound]
  cases right.get? key with
  | none => exact ⟨wrap value, rfl, .inl rfl⟩
  | some other =>
    by_cases pass : value ≠ other ∧
        accept ⟨.update, [key], some (wrap value), some (wrap other)⟩ = true
    · exact ⟨wrap other, by simp [pass], .inr pass.2⟩
    · exact ⟨wrap value, by simp [pass], .inl rfl⟩

mutual

theorem Field.leaf?_settle {accept : Acceptance} {left right : Field} {path : List String}
    {before : Value} (found : left.leaf? path = some before) :
    ∃ after, (left.settle accept right).leaf? path = some after ∧
      (after = before ∨ accept ⟨.update, path, some before, some after⟩ = true) := by
  unfold Field.settle
  split
  · rename_i left right
    cases path with
    | nil =>
      obtain rfl := Option.some.inj found
      by_cases pass : accept ⟨.update, [], some left, some right⟩ = true
      · exact ⟨right, by simp [Value.settle, pass, Field.leaf?], .inr pass⟩
      · exact ⟨left, by simp [Value.settle, pass, Field.leaf?], .inl rfl⟩
    | cons first rest => cases found
  · rename_i left right
    rcases path with _ | ⟨key, _ | ⟨second, rest⟩⟩
    · cases found
    · exact StringMap.leaf_settle found
    · cases found
  · rename_i left right
    rcases path with _ | ⟨key, _ | ⟨second, rest⟩⟩
    · cases found
    · exact StringMap.leaf_settle found
    · cases found
  · cases found
  · rename_i left right
    exact Record.leaf?_settle found
  · exact ⟨before, found, .inl rfl⟩

/-- Data that is there stays, with its value or with one that the rule lets in. -/
theorem Record.leaf?_settle {accept : Acceptance} {left right : Record} {path : List String}
    {before : Value} (found : left.leaf? path = some before) :
    ∃ after, (left.settle accept right).leaf? path = some after ∧
      (after = before ∨ accept ⟨.update, path, some before, some after⟩ = true) := by
  unfold Record.settle
  split
  · rename_i name field rest _ other otherRest
    cases path with
    | nil => cases found
    | cons first path =>
      rw [Record.leaf?] at found ⊢
      by_cases here : first = name
      · subst here
        rw [if_pos rfl] at found ⊢
        exact Field.leaf?_settle found
      · rw [if_neg here] at found ⊢
        exact Record.leaf?_settle found
  · exact ⟨before, found, .inl rfl⟩

end

theorem Record.recordAt_settle {accept : Acceptance} (name : String) : ∀ {left right : Record},
    left.recordAt name ≠ none → (left.settle accept right).recordAt name ≠ none
  | .nil, _, there => there
  | .cons _ _ _, .nil, there => there
  | .cons first field rest, .cons _ other otherRest, there => by
    rw [settle]
    by_cases here : first = name
    · subst here
      rw [recordAt_cons_self] at there ⊢
      cases field with
      | present record => cases other <;> nofun
      | _ => exact absurd rfl there
    · rw [recordAt_cons_of_ne here] at there ⊢
      exact recordAt_settle name there

namespace Change

theorem isCorrection_iff {change : Change} :
    change.isCorrection = true ↔ change.path ∈ corrections := by
  obtain ⟨_, path, _, _⟩ := change
  rcases path with _ | ⟨name, _ | ⟨second, rest⟩⟩ <;> simp [isCorrection, corrections]

/-- A value that a merge lets in takes the place of an unknown one, or corrects it. -/
theorem keptAt_of_passes {field? : Option String} {path : List String} {before after : Value}
    (pass : passes field? ⟨.update, path, some before, some after⟩ = true) :
    before.KeptAt path after := by
  intro known
  have harmless := (Bool.and_eq_true_iff.1 pass).1
  change (_ && !after.isEmpty || before.isEmpty) = true at harmless
  rw [known, Bool.or_false, Bool.and_eq_true, isCorrection_iff, Bool.not_eq_true'] at harmless
  exact .inr harmless

/-- A merge of one attribute leaves the others alone. -/
theorem head?_of_passes {field : String} {change : Change}
    (pass : passes (some field) change = true) : change.path.head? = some field :=
  eq_of_beq (Bool.and_eq_true_iff.1 pass).2

end Change

/-- A settled record keeps what is known in the first one. -/
theorem Record.keeps_settle (field? : Option String) (left right : Record) :
    left.Keeps (left.settle (Change.passes field?) right) := by
  refine ⟨fun path value found => ?_, fun name there => recordAt_settle name there⟩
  obtain ⟨later, laterFound, same | pass⟩ := leaf?_settle found
  · exact ⟨later, laterFound, fun _ => .inl same⟩
  · exact ⟨later, laterFound, Change.keptAt_of_passes pass⟩

section

variable {α : Type} [Recordable α]

/-- Nothing that is known of a component before is lost. -/
def Keeps (before after : α) : Prop :=
  (Recordable.record before).Keeps (Recordable.record after)

theorem Keeps.refl (value : α) : Keeps value value :=
  Record.Keeps.refl (Recordable.record value)

theorem Keeps.trans {first second third : α} (early : Keeps first second)
    (late : Keeps second third) : Keeps first third :=
  Record.Keeps.trans early late

variable [LawfulRecordable α]

/-- A merge, of all attributes or of one, keeps what is known. -/
theorem keeps_combineFor (field? : Option String) (known collected : α) :
    Keeps known (combineFor field? known collected) := by
  unfold Keeps
  rw [record_combineFor]
  exact Record.keeps_settle field? (Recordable.record known) (Recordable.record collected)

/-- A series of merges keeps what is known. -/
theorem keeps_foldl_combine : ∀ (fragments : List α) (known : α),
    Keeps known (fragments.foldl combine known)
  | [], known => .refl known
  | fragment :: fragments, known =>
    (keeps_combineFor none known fragment).trans
      (keeps_foldl_combine fragments (combine known fragment))

end

end ServerInventory
