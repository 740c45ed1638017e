import ServerInventory.Record

/-!
The layout of a record: what is left of it without its data. A record that is absent is
known by its layout alone, so merging into it asks which layout it stands for.

* `Record.Distinct`: no name occurs twice at one level.
* `Record.Admits`: what the other record has in a place could stand there in this one.
* `Record.HasRoomFor`: records that only the other one has could be put in place in this one.
* `Record.Flat`: there are no records inside.

A record in which no name occurs twice is told by what stands under each name
(`Record.eq_of_field?_eq`).
-/

namespace ServerInventory

mutual

/-- An attribute without its data. -/
def Field.layout : Field → Field
  | .scalar value => .scalar (.blank value.kind)
  | .texts _ => .texts ∅
  | .flags _ => .flags ∅
  | .absent blank => .absent blank
  | .present record => .absent record.layout

/-- A record without its data. -/
def Record.layout : Record → Record
  | .nil => .nil
  | .cons name field rest => .cons name field.layout rest.layout

end

mutual

/-- No name occurs twice at one level of the attribute. -/
def Field.Distinct : Field → Prop
  | .scalar _ => True
  | .texts _ => True
  | .flags _ => True
  | .absent blank => blank.Distinct
  | .present record => record.Distinct

/-- No name occurs twice at one level of the record, in what is there or could be. -/
def Record.Distinct : Record → Prop
  | .nil => True
  | .cons name field rest => name ∉ rest.names ∧ field.Distinct ∧ rest.Distinct

end

mutual

/-- `Record.Admits` for two attributes. -/
def Field.Admits : Field → Field → Prop
  | .absent blank, .present record => blank = .nil ∨ blank = record.layout
  | .present left, .present right => left.Admits right
  | .texts _, .flags _ => False
  | .flags _, .texts _ => False
  | _, _ => True

/-- Maps in the same place hold values of one type, and wherever the first record lacks a
record that the second one has in its place, it lacks one of that layout, or one of which
no attribute is known. -/
def Record.Admits : Record → Record → Prop
  | .cons _ field rest, .cons _ other otherRest => field.Admits other ∧ rest.Admits otherRest
  | _, _ => True

end

mutual

/-- `Record.HasRoomFor` for two attributes. -/
def Field.HasRoomFor : Field → Field → Prop
  | .absent blank, .present record => blank = .nil ∨ blank = record.layout
  | .present left, .present right => left.HasRoomFor right
  | _, _ => True

/-- Wherever the first record lacks a record that the second one has in its place, it lacks
one of that layout, or one of which no attribute is known. -/
def Record.HasRoomFor : Record → Record → Prop
  | .cons _ field rest, .cons _ other otherRest =>
    field.HasRoomFor other ∧ rest.HasRoomFor otherRest
  | _, _ => True

end

namespace Record

/-- No attribute of the record is a record. -/
def Flat : Record → Prop
  | .nil => True
  | .cons _ field rest => field.shape ≠ .record ∧ rest.Flat

@[simp] theorem names_layout : ∀ record : Record, record.layout.names = record.names
  | .nil => rfl
  | .cons _ _ rest => by simp [layout, names, names_layout rest]

theorem append_nil : ∀ record : Record, record ++ Record.nil = record
  | .nil => rfl
  | .cons name field rest => congrArg (Record.cons name field) (append_nil rest)

theorem names_append : ∀ record after : Record,
    (record ++ after).names = record.names ++ after.names
  | .nil, _ => rfl
  | .cons name _ rest, after => congrArg (name :: ·) (names_append rest after)

theorem layout_append : ∀ record after : Record,
    (record ++ after).layout = record.layout ++ after.layout
  | .nil, _ => rfl
  | .cons name field rest, after =>
    congrArg (Record.cons name field.layout) (layout_append rest after)

end Record

theorem Field.layout_layout (field : Field) : field.layout.layout = field.layout := by
  cases field with
  | scalar value => rw [layout, layout, Value.kind_blank]
  | _ => rfl

theorem Record.layout_layout : ∀ record : Record, record.layout.layout = record.layout
  | .nil => rfl
  | .cons name field rest => by
    rw [layout, layout, field.layout_layout, layout_layout rest]

mutual

theorem Field.distinct_layout_iff : ∀ field : Field, field.layout.Distinct ↔ field.Distinct
  | .scalar _ => Iff.rfl
  | .texts _ => Iff.rfl
  | .flags _ => Iff.rfl
  | .absent _ => Iff.rfl
  | .present record => Record.distinct_layout_iff record

/-- Whether names are distinct is a matter of the layout. -/
theorem Record.distinct_layout_iff : ∀ record : Record,
    record.layout.Distinct ↔ record.Distinct
  | .nil => Iff.rfl
  | .cons name field rest => by
    rw [Record.layout, Record.Distinct, Record.Distinct, Record.names_layout,
      Field.distinct_layout_iff field, Record.distinct_layout_iff rest]

end

mutual

theorem Field.Admits.hasRoomFor {left right : Field} (admits : left.Admits right) :
    left.HasRoomFor right := by
  cases left with
  | absent blank =>
    cases right with
    | present record => exact admits
    | _ => trivial
  | present left =>
    cases right with
    | present right => exact Record.Admits.hasRoomFor admits
    | _ => trivial
  | _ => cases right <;> trivial

theorem Record.Admits.hasRoomFor : ∀ {left right : Record}, left.Admits right →
    left.HasRoomFor right
  | .nil, _, _ => trivial
  | .cons _ _ _, .nil, _ => trivial
  | .cons _ _ _, .cons _ _ _, ⟨fieldAdmits, restAdmits⟩ =>
    ⟨fieldAdmits.hasRoomFor, restAdmits.hasRoomFor⟩

end

/-! ## Attributes by name -/

namespace Record

theorem field?_cons (name first : String) (field : Field) (rest : Record) :
    (cons first field rest).field? name =
      if first = name then some field else rest.field? name := rfl

theorem field?_eq_none_iff {name : String} : ∀ {record : Record},
    record.field? name = none ↔ name ∉ record.names
  | .nil => by simp [field?, names]
  | .cons first field rest => by
    rw [field?_cons, names, List.mem_cons, not_or]
    by_cases here : first = name
    · simp [here]
    · rw [if_neg here, @field?_eq_none_iff name rest]
      simp [Ne.symm here]

theorem exists_field?_of_mem {name : String} {record : Record} (named : name ∈ record.names) :
    ∃ field, record.field? name = some field := by
  cases found : record.field? name with
  | none => exact absurd named (field?_eq_none_iff.1 found)
  | some field => exact ⟨field, rfl⟩

theorem Distinct.nodup_names : ∀ {record : Record}, record.Distinct → record.names.Nodup
  | .nil, _ => .nil
  | .cons _ _ _, ⟨notLater, _, restDistinct⟩ =>
    List.nodup_cons.2 ⟨notLater, restDistinct.nodup_names⟩

/-- A record without a repeated name is told by its names and what stands under each. -/
theorem eq_of_field?_eq : ∀ {left right : Record}, left.Distinct → left.names = right.names →
    (∀ name ∈ left.names, left.field? name = right.field? name) → left = right
  | .nil, .nil, _, _, _ => rfl
  | .cons first field rest, .cons otherFirst other otherRest, distinct, names, same => by
    obtain ⟨rfl, restNames⟩ := List.cons.inj names
    obtain ⟨notLater, _, restDistinct⟩ := distinct
    have fields : field = other := by
      have head := same first List.mem_cons_self
      rw [field?_cons, field?_cons, if_pos rfl, if_pos rfl] at head
      exact Option.some.inj head
    have rests : rest = otherRest := by
      refine eq_of_field?_eq restDistinct restNames fun name later => ?_
      have elsewhere : first ≠ name := fun here => notLater (here ▸ later)
      have tail := same name (List.mem_cons_of_mem first later)
      rw [field?_cons, field?_cons, if_neg elsewhere, if_neg elsewhere] at tail
      exact tail
    rw [fields, rests]

end Record

/-! ## Records of one layout -/

mutual

theorem Field.admits_of_layout_eq : ∀ {left right : Field},
    left.layout = right.layout → left.Admits right
  | .absent blank, .present record, same => .inr (by simpa [Field.layout] using same)
  | .present left, .present right, same =>
    Record.admits_of_layout_eq (by simpa [Field.layout] using same)
  | .scalar _, _, _ => trivial
  | .texts _, right, same => by
    cases right <;> simp [Field.layout, Field.Admits] at same ⊢
  | .flags _, right, same => by
    cases right <;> simp [Field.layout, Field.Admits] at same ⊢
  | .absent _, .scalar _, _ => trivial
  | .absent _, .texts _, _ => trivial
  | .absent _, .flags _, _ => trivial
  | .absent _, .absent _, _ => trivial
  | .present _, .scalar _, _ => trivial
  | .present _, .texts _, _ => trivial
  | .present _, .flags _, _ => trivial
  | .present _, .absent _, _ => trivial

theorem Record.admits_of_layout_eq : ∀ {left right : Record},
    left.layout = right.layout → left.Admits right
  | .nil, _, _ => trivial
  | .cons _ _ _, .nil, _ => trivial
  | .cons _ field rest, .cons _ other otherRest, same => by
    simp only [Record.layout, Record.cons.injEq] at same
    exact ⟨Field.admits_of_layout_eq same.2.1, Record.admits_of_layout_eq same.2.2⟩

end

end ServerInventory
