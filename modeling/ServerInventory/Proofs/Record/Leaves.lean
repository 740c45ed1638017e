import ServerInventory.Proofs.Record.Retention

/-!
What a record holds, seen through paths. A record is read by `Record.leaf?`, which follows a
path to a scalar or map entry, and `Record.leaves` lists what can be found in that way, each
path once (`Record.lists_leaves`), provided that no name occurs twice at one level. Where a
record cannot be there without a leaf, records of one layout are told by their leaves
(`Record.eq_of_leaf?_eq`).
-/

namespace ServerInventory

/-! ## Records in which a path leads to one place -/

mutual

/-- No name occurs twice at one level of what is there in the attribute. -/
def Field.Unambiguous : Field → Prop
  | .present record => record.Unambiguous
  | _ => True

/-- No name occurs twice at one level of what is there in the record. -/
def Record.Unambiguous : Record → Prop
  | .nil => True
  | .cons name field rest => name ∉ rest.names ∧ field.Unambiguous ∧ rest.Unambiguous

end

mutual

theorem Field.Distinct.unambiguous : ∀ {field : Field}, field.Distinct → field.Unambiguous
  | .scalar _, _ => trivial
  | .texts _, _ => trivial
  | .flags _, _ => trivial
  | .absent _, _ => trivial
  | .present _, distinct => Record.Distinct.unambiguous distinct

theorem Record.Distinct.unambiguous : ∀ {record : Record}, record.Distinct → record.Unambiguous
  | .nil, _ => trivial
  | .cons _ _ _, ⟨notLater, fieldDistinct, restDistinct⟩ =>
    ⟨notLater, fieldDistinct.unambiguous, restDistinct.unambiguous⟩

end

/-! ## Look-ups by path -/

/-- What is found along each path, if anything is. -/
abbrev Lookup := List String → Option Value

namespace Lookup

/-- The look-up in an attribute, under its name, and in the attributes that come after it. -/
def cons (name : String) (inner rest : Lookup) : Lookup
  | [] => rest []
  | first :: path => if first = name then inner path else rest (first :: path)

/-- Nothing is found under a name. -/
def Avoids (lookup : Lookup) (name : String) : Prop :=
  ∀ path, lookup (name :: path) = none

variable {name : String} {inner rest : Lookup}

@[simp] theorem cons_self (path : List String) :
    cons name inner rest (name :: path) = inner path :=
  if_pos rfl

theorem cons_of_ne {first : String} (different : first ≠ name) (path : List String) :
    cons name inner rest (first :: path) = rest (first :: path) :=
  if_neg different

theorem cons_inj {otherInner otherRest : Lookup} (apart : rest.Avoids name)
    (otherApart : otherRest.Avoids name)
    (same : cons name inner rest = cons name otherInner otherRest) :
    inner = otherInner ∧ rest = otherRest := by
  constructor
  · funext path
    simpa using congrFun same (name :: path)
  · funext path
    rcases path with _ | ⟨first, path⟩
    · exact congrFun same []
    · by_cases here : first = name
      · rw [here, apart path, otherApart path]
      · simpa [cons_of_ne here] using congrFun same (first :: path)

end Lookup

theorem Record.leaf?_cons (name : String) (field : Field) (rest : Record) :
    (Record.cons name field rest).leaf? = Lookup.cons name field.leaf? rest.leaf? := by
  funext path
  cases path with
  | nil => cases rest <;> rfl
  | cons first path => rfl

theorem Record.leaf?_nil (path : List String) : Record.nil.leaf? path = none := by
  cases path <;> rfl

/-- Nothing is found under a name that is not in the record. -/
theorem Record.avoids_of_notMem {name : String} : ∀ {record : Record},
    name ∉ record.names → Lookup.Avoids record.leaf? name
  | .nil, _, path => Record.leaf?_nil (name :: path)
  | .cons first field rest, outside, path => by
    obtain ⟨different, notLater⟩ := List.ne_and_not_mem_of_not_mem_cons outside
    rw [leaf?_cons, Lookup.cons_of_ne different]
    exact avoids_of_notMem notLater path

/-- What is found in a map: its entries, under their keys. -/
def StringMap.leaf? (map : StringMap Value) : Lookup
  | [key] => map.get? key
  | _ => none

theorem Field.leaf?_absent (blank : Record) : (Field.absent blank).leaf? = fun _ => none := by
  funext path
  cases path <;> rfl

theorem Field.leaf?_present (record : Record) : (Field.present record).leaf? = record.leaf? := by
  funext path
  cases path <;> rfl

theorem Field.leaf?_texts (entries : StringMap String) :
    (Field.texts entries).leaf? = (entries.map .text).leaf? := by
  funext path
  rcases path with _ | ⟨key, _ | ⟨second, path⟩⟩
  · rfl
  · exact (StringMap.get?_map Value.text entries key).symm
  · rfl

theorem Field.leaf?_flags (entries : StringMap Bool) :
    (Field.flags entries).leaf? = (entries.map .flag).leaf? := by
  funext path
  rcases path with _ | ⟨key, _ | ⟨second, path⟩⟩
  · rfl
  · exact (StringMap.get?_map Value.flag entries key).symm
  · rfl

/-! ## The leaves of a record -/

/-- The leaves are what is found by a look-up, each path once. -/
structure Lookup.Lists (lookup : Lookup) (leaves : List Leaf) : Prop where
  paths_nodup : (leaves.map Prod.fst).Nodup
  mem_iff : ∀ path value, (path, value) ∈ leaves ↔ lookup path = some value

namespace Lookup.Lists

variable {lookup : Lookup} {leaves : List Leaf}

theorem mem_paths_iff (listed : lookup.Lists leaves) (path : List String) :
    path ∈ leaves.map Prod.fst ↔ lookup path ≠ none := by
  rw [Option.ne_none_iff_exists']
  simp only [← listed.mem_iff, List.mem_map, Prod.exists]
  constructor
  · rintro ⟨_, value, member, rfl⟩
    exact ⟨value, member⟩
  · rintro ⟨value, member⟩
    exact ⟨path, value, member, rfl⟩

theorem none : Lookup.Lists (fun _ => none) [] :=
  ⟨List.nodup_nil, by simp⟩

theorem single (value : Value) : Lookup.Lists (Field.scalar value).leaf? [([], value)] := by
  refine ⟨List.nodup_singleton _, fun path other => ?_⟩
  cases path <;> simp [Field.leaf?, eq_comm]

theorem entries (map : StringMap Value) :
    map.leaf?.Lists (map.entries.map fun entry => ([entry.1], entry.2)) := by
  constructor
  · have keys : ((map.entries.map fun entry => ([entry.1], entry.2)).map Prod.fst) =
        map.keys.map fun key => [key] := by
      simp [StringMap.keys, Function.comp_def]
    rw [keys]
    refine List.Nodup.map (fun left right same => (List.cons.inj same).1) ?_
    exact map.pairwise_keys.imp String.ne_of_lt
  · intro path value
    rcases path with _ | ⟨key, _ | ⟨second, path⟩⟩
    · simp [StringMap.leaf?]
    · simp [StringMap.leaf?, StringMap.get?_eq_some_iff]
    · simp [StringMap.leaf?]

/-- The leaves of an attribute are listed under its name, in front of those of the others. -/
theorem cons {name : String} {inner rest : Lookup} {early late : List Leaf}
    (listed : inner.Lists early) (restListed : rest.Lists late) (apart : rest.Avoids name) :
    (Lookup.cons name inner rest).Lists
      (early.map (fun leaf => (name :: leaf.1, leaf.2)) ++ late) := by
  have outside : ∀ path value, (name :: path, value) ∉ late := by
    intro path value member
    rw [restListed.mem_iff, apart path] at member
    cases member
  constructor
  · rw [List.map_append, List.map_map, List.nodup_append]
    refine ⟨?_, restListed.paths_nodup, ?_⟩
    · have prefixed : Prod.fst ∘ (fun leaf : Leaf => (name :: leaf.1, leaf.2)) =
          (fun path => name :: path) ∘ Prod.fst := rfl
      rw [prefixed, ← List.map_map]
      exact listed.paths_nodup.map fun left right same => (List.cons.inj same).2
    · rintro path fromEarly other fromLate rfl
      obtain ⟨leaf, _, rfl⟩ := List.mem_map.1 fromEarly
      obtain ⟨⟨_, value⟩, member, rfl⟩ := List.mem_map.1 fromLate
      exact outside leaf.1 value member
  · rintro (_ | ⟨first, path⟩) value
    · rw [Lookup.cons, ← restListed.mem_iff]
      simp
    · by_cases here : first = name
      · subst here
        rw [cons_self, ← listed.mem_iff]
        simp [outside path value]
      · rw [cons_of_ne here, ← restListed.mem_iff]
        simp [Ne.symm here]

end Lookup.Lists

mutual

theorem Field.lists_leaves : ∀ {field : Field}, field.Unambiguous →
    Lookup.Lists field.leaf? field.leaves
  | .scalar value, _ => .single value
  | .texts entries, _ => by
    have listed := Lookup.Lists.entries (entries.map Value.text)
    rw [StringMap.map, List.map_map] at listed
    rw [Field.leaf?_texts]
    exact listed
  | .flags entries, _ => by
    have listed := Lookup.Lists.entries (entries.map Value.flag)
    rw [StringMap.map, List.map_map] at listed
    rw [Field.leaf?_flags]
    exact listed
  | .absent blank, _ => by
    rw [Field.leaf?_absent]
    exact .none
  | .present record, unambiguous => by
    rw [Field.leaf?_present]
    exact Record.lists_leaves unambiguous

/-- The leaves of a record are what a path in it leads to, each path once. -/
theorem Record.lists_leaves : ∀ {record : Record}, record.Unambiguous →
    Lookup.Lists record.leaf? record.leaves
  | .nil, _ => by
    have nothing : Record.nil.leaf? = fun _ => none := funext Record.leaf?_nil
    rw [nothing]
    exact .none
  | .cons name field rest, ⟨notLater, fieldUnambiguous, restUnambiguous⟩ => by
    rw [Record.leaf?_cons]
    exact (Field.lists_leaves fieldUnambiguous).cons (Record.lists_leaves restUnambiguous)
      (Record.avoids_of_notMem notLater)

end

/-! ## A record is told by its leaves -/

mutual

/-- A record that is absent from the attribute, or could be, has scalars of its own. -/
def Field.Substantial : Field → Prop
  | .absent blank => blank.leaves ≠ [] ∧ blank.Substantial
  | _ => True

/-- Every record inside that is absent has scalars of its own, so that it cannot be there
without a leaf. -/
def Record.Substantial : Record → Prop
  | .nil => True
  | .cons _ field rest => field.Substantial ∧ rest.Substantial

end

/-- The scalars of a layout are leaves of each record of the layout. -/
theorem Record.leaves_ne_nil_of_layout : ∀ {record : Record}, record.layout.leaves ≠ [] →
    record.leaves ≠ []
  | .nil, nonempty => nonempty
  | .cons name field rest, nonempty => by
    rw [layout, leaves] at nonempty
    rw [leaves]
    intro empty
    obtain ⟨fieldEmpty, restEmpty⟩ := List.append_eq_nil_iff.1 empty
    have restNone : rest.layout.leaves = [] := by
      by_contra restNonempty
      exact leaves_ne_nil_of_layout restNonempty restEmpty
    cases field with
    | scalar value => cases fieldEmpty
    | texts entries => exact nonempty (congrArg _ restNone)
    | flags entries => exact nonempty (congrArg _ restNone)
    | absent blank => exact nonempty (congrArg _ restNone)
    | present record => exact nonempty (congrArg _ restNone)

/-- Something is found in a record whose layout has scalars. -/
theorem Record.leaf?_ne_none {record : Record} (distinct : record.Distinct)
    (nonempty : record.layout.leaves ≠ []) : record.leaf? ≠ fun _ => none := by
  intro nothing
  obtain ⟨⟨path, value⟩, member⟩ :=
    List.exists_mem_of_ne_nil _ (leaves_ne_nil_of_layout nonempty)
  have found := ((lists_leaves distinct.unambiguous).mem_iff path value).1 member
  rw [nothing] at found
  cases found

mutual

theorem Field.eq_of_leaf?_eq : ∀ {left right : Field}, left.layout = right.layout →
    left.Distinct → left.layout.Substantial → left.leaf? = right.leaf? → left = right
  | .scalar left, .scalar right, _, _, _, same => by
    obtain rfl := Option.some.inj (congrFun same [])
    rfl
  | .texts left, .texts right, _, _, _, same => by
    refine congrArg Field.texts (StringMap.ext_get? fun key => ?_)
    exact Option.map_injective (fun _ _ => Value.text.inj) (congrFun same [key])
  | .flags left, .flags right, _, _, _, same => by
    refine congrArg Field.flags (StringMap.ext_get? fun key => ?_)
    exact Option.map_injective (fun _ _ => Value.flag.inj) (congrFun same [key])
  | .absent blank, .absent other, layout, _, _, _ => layout
  | .absent blank, .present record, layout, distinct, substantial, same => by
    obtain rfl := Field.absent.inj layout
    rw [Field.leaf?_absent, Field.leaf?_present] at same
    exact absurd same.symm (Record.leaf?_ne_none ((Record.distinct_layout_iff record).1 distinct)
      substantial.1)
  | .present record, .absent blank, layout, distinct, substantial, same => by
    rw [Field.leaf?_absent, Field.leaf?_present] at same
    exact absurd same (Record.leaf?_ne_none distinct substantial.1)
  | .present left, .present right, layout, distinct, substantial, same => by
    rw [Field.leaf?_present, Field.leaf?_present] at same
    rw [Record.eq_of_leaf?_eq (Field.absent.inj layout) distinct substantial.2 same]

/-- Two records of one layout in which the same is found along each path are equal. -/
theorem Record.eq_of_leaf?_eq : ∀ {left right : Record}, left.layout = right.layout →
    left.Distinct → left.layout.Substantial → left.leaf? = right.leaf? → left = right
  | .nil, .nil, _, _, _, _ => rfl
  | .cons name field rest, .cons _ other otherRest, layout, distinct, substantial, same => by
    obtain ⟨rfl, fieldLayout, restLayout⟩ := Record.cons.inj layout
    obtain ⟨notLater, fieldDistinct, restDistinct⟩ := distinct
    have names : rest.names = otherRest.names := by
      rw [← Record.names_layout rest, restLayout, Record.names_layout]
    rw [Record.leaf?_cons, Record.leaf?_cons] at same
    obtain ⟨fieldSame, restSame⟩ := Lookup.cons_inj (Record.avoids_of_notMem notLater)
      (Record.avoids_of_notMem (names ▸ notLater)) same
    rw [Field.eq_of_leaf?_eq fieldLayout fieldDistinct substantial.1 fieldSame,
      Record.eq_of_leaf?_eq restLayout restDistinct substantial.2 restSame]

end

end ServerInventory
