import ServerInventory.Proofs.Device.Lawful
import ServerInventory.Proofs.Record.Leaves

/-!
Differences leaf by leaf. The changes that lead from one record to another are those
between what is found along each path on either side, wherever this is not the same
(`ExactlyApart`). The differences of scalars and maps are of that kind, and so are those of
records, which are put together attribute by attribute (`ExactlyApart.cons`). Two components
of one type have no differences only if they are equal (`DiffersLeafwise`).
-/

namespace ServerInventory

/-! ## Differences -/

/-- The kind of a change by what is there before and after it. -/
def Change.Kind.ofSides : Option Value → Option Value → Change.Kind
  | none, _ => .create
  | some _, none => .delete
  | some _, some _ => .update

/-- The change, at a path, from what one look-up finds there to what another one finds. -/
def Change.between (left right : Lookup) (path : List String) : Change :=
  ⟨.ofSides (left path) (right path), path, left path, right path⟩

/-- The changes are those between what is found on either side, at each path at which this
is not the same, once. -/
structure ExactlyApart (left right : Lookup) (changes : List Change) : Prop where
  paths_nodup : (changes.map Change.path).Nodup
  mem_paths_iff : ∀ path, path ∈ changes.map Change.path ↔ left path ≠ right path
  eq_between : ∀ change ∈ changes, change = .between left right change.path

namespace ExactlyApart

variable {left right : Lookup} {changes : List Change} {leaves : List Leaf}

/-- There is no change exactly where the same is found everywhere. -/
theorem eq_nil_iff (apart : ExactlyApart left right changes) :
    changes = [] ↔ ∀ path, left path = right path := by
  rw [← @List.map_eq_nil_iff _ _ Change.path, List.eq_nil_iff_forall_not_mem]
  simp only [apart.mem_paths_iff, ne_eq, not_not]

theorem same (lookup : Lookup) : ExactlyApart lookup lookup [] :=
  ⟨List.nodup_nil, by simp, List.forall_mem_nil _⟩

/-- The changes at some paths, each once, among them all at which not the same is found. -/
theorem of_filter {α : Type} {places : List α} {path : α → List String}
    (nodup : (places.map path).Nodup)
    (support : ∀ place, left place ≠ right place → place ∈ places.map path) :
    ExactlyApart left right
      ((places.filter fun place => left (path place) ≠ right (path place)).map
        fun place => .between left right (path place)) := by
  have paths : ((places.filter fun place => left (path place) ≠ right (path place)).map
      fun place => Change.between left right (path place)).map Change.path =
      (places.map path).filter fun place => left place ≠ right place := by
    rw [List.map_map, List.filter_map]
    rfl
  refine ⟨paths ▸ nodup.filter _, fun place => ?_, fun change member => ?_⟩
  · rw [paths, List.mem_filter, decide_eq_true_iff]
    exact ⟨And.right, fun different => ⟨support place different, different⟩⟩
  · obtain ⟨place, _, rfl⟩ := List.mem_map.1 member
    rfl

/-- All that is listed is created where there was nothing. -/
theorem created (listed : right.Lists leaves) :
    ExactlyApart (fun _ => none) right (leaves.map Leaf.created) := by
  have paths : (leaves.map Leaf.created).map Change.path = leaves.map Prod.fst := by
    rw [List.map_map]
    rfl
  refine ⟨paths ▸ listed.paths_nodup, fun path => ?_, fun change member => ?_⟩
  · rw [paths, listed.mem_paths_iff, ne_comm]
  · obtain ⟨⟨path, value⟩, inside, rfl⟩ := List.mem_map.1 member
    have found : right path = some value := (listed.mem_iff path value).1 inside
    simp [Leaf.created, Change.between, Change.Kind.ofSides, found]

/-- All that is listed is deleted where there is nothing any more. -/
theorem deleted (listed : left.Lists leaves) :
    ExactlyApart left (fun _ => none) (leaves.map Leaf.deleted) := by
  have paths : (leaves.map Leaf.deleted).map Change.path = leaves.map Prod.fst := by
    rw [List.map_map]
    rfl
  refine ⟨paths ▸ listed.paths_nodup, fun path => ?_, fun change member => ?_⟩
  · rw [paths, listed.mem_paths_iff]
  · obtain ⟨⟨path, value⟩, inside, rfl⟩ := List.mem_map.1 member
    have found : left path = some value := (listed.mem_iff path value).1 inside
    simp [Leaf.deleted, Change.between, Change.Kind.ofSides, found]

/-- The changes of an attribute, under its name, in front of those of the others. -/
theorem cons {name : String} {inner otherInner rest otherRest : Lookup}
    {early late : List Change} (first : ExactlyApart inner otherInner early)
    (others : ExactlyApart rest otherRest late) (apart : rest.Avoids name)
    (otherApart : otherRest.Avoids name) :
    ExactlyApart (.cons name inner rest) (.cons name otherInner otherRest)
      (early.map (·.under name) ++ late) := by
  have paths : (early.map (·.under name) ++ late).map Change.path =
      (early.map Change.path).map (name :: ·) ++ late.map Change.path := by
    rw [List.map_append, List.map_map, List.map_map]
    rfl
  have notLate : ∀ path, name :: path ∉ late.map Change.path := by
    intro path
    rw [others.mem_paths_iff, apart path, otherApart path]
    exact not_not_intro rfl
  have notEarly : ∀ path, path ∈ late.map Change.path →
      Lookup.cons name inner rest path = rest path ∧
        Lookup.cons name otherInner otherRest path = otherRest path := by
    rintro (_ | ⟨key, path⟩) member
    · exact ⟨rfl, rfl⟩
    · have different : key ≠ name := fun same => notLate path (same ▸ member)
      exact ⟨Lookup.cons_of_ne different path, Lookup.cons_of_ne different path⟩
  constructor
  · rw [paths, List.nodup_append]
    refine ⟨first.paths_nodup.map fun left right same => (List.cons.inj same).2,
      others.paths_nodup, ?_⟩
    rintro path fromEarly other fromLate rfl
    obtain ⟨path, _, rfl⟩ := List.mem_map.1 fromEarly
    exact notLate path fromLate
  · intro path
    rw [paths, List.mem_append]
    rcases path with _ | ⟨key, path⟩
    · rw [others.mem_paths_iff]
      simp [Lookup.cons]
    · by_cases here : key = name
      · subst here
        rw [Lookup.cons_self, Lookup.cons_self, ← first.mem_paths_iff]
        simp [notLate path]
      · rw [Lookup.cons_of_ne here, Lookup.cons_of_ne here, ← others.mem_paths_iff]
        simp [Ne.symm here]
  · intro change member
    rcases List.mem_append.1 member with fromEarly | fromLate
    · obtain ⟨change, inside, rfl⟩ := List.mem_map.1 fromEarly
      have equal := congrArg (·.under name) (first.eq_between change inside)
      simpa [Change.under, Change.between] using equal
    · obtain ⟨same, otherSame⟩ := notEarly change.path (List.mem_map_of_mem fromLate)
      rw [Change.between, same, otherSame]
      exact others.eq_between change fromLate

end ExactlyApart

/-- At one key two maps differ by the change between what they hold there, if they do. -/
theorem StringMap.changesAt_eq_ite (left right : StringMap Value) (key : String) :
    left.changesAt right key =
      if left.get? key = right.get? key then [] else [.between left.leaf? right.leaf? [key]] := by
  have sides : Change.between left.leaf? right.leaf? [key] =
      ⟨.ofSides (left.get? key) (right.get? key), [key], left.get? key, right.get? key⟩ := rfl
  rw [sides]
  unfold changesAt
  cases left.get? key with
  | none => cases right.get? key <;> rfl
  | some before =>
    cases right.get? key with
    | none => rfl
    | some after => by_cases same : before = after <;> simp [same, Change.Kind.ofSides]

/-- The differences of two maps are exact. -/
theorem StringMap.exactlyApart {left right : StringMap Value} {changes : List Change}
    (differences : left.diff right = .ok changes) :
    ExactlyApart left.leaf? right.leaf? changes := by
  obtain ⟨_, rfl⟩ := diff_eq_ok_iff.1 differences
  have filtered : ∀ keys : List String, keys.flatMap (left.changesAt right) =
      (keys.filter fun key => left.leaf? [key] ≠ right.leaf? [key]).map
        fun key => .between left.leaf? right.leaf? [key] := by
    intro keys
    induction keys with
    | nil => rfl
    | cons key rest ih =>
      rw [List.flatMap_cons, changesAt_eq_ite, ih]
      by_cases same : left.get? key = right.get? key <;> simp [StringMap.leaf?, same]
  rw [filtered]
  refine .of_filter ?_ ?_
  · have nodup : (left.unionKeys right).Nodup :=
      (pairwise_unionKeys left right).imp String.ne_of_lt
    exact nodup.map fun left right same => (List.cons.inj same).1
  · rintro (_ | ⟨key, _ | ⟨second, path⟩⟩) different
    · exact absurd rfl different
    · refine List.mem_map_of_mem (mem_unionKeys.2 ?_)
      by_contra outside
      simp only [ne_eq, not_or, not_not] at outside
      exact different (outside.1.trans outside.2.symm)
    · exact absurd rfl different

theorem Value.exactlyApart {left right : Value} {changes : List Change}
    (differences : left.diff right = .ok changes) :
    ExactlyApart (Field.scalar left).leaf? (Field.scalar right).leaf? changes := by
  unfold diff at differences
  split at differences
  · obtain rfl := Except.ok.inj differences
    by_cases same : left = right
    · subst same
      rw [if_pos rfl]
      exact .same _
    · rw [if_neg same]
      refine ⟨List.nodup_singleton _, fun path => ?_, fun change member => ?_⟩
      · cases path <;> simp [Field.leaf?, same]
      · obtain rfl := List.mem_singleton.1 member
        rfl
  · cases differences

mutual

theorem Field.exactlyApart : ∀ {left right : Field} {changes : List Change},
    left.Unambiguous → right.Unambiguous → left.diff right = .ok changes →
    ExactlyApart left.leaf? right.leaf? changes
  | .scalar _, .scalar _, _, _, _, differences => Value.exactlyApart differences
  | .texts _, .texts _, _, _, _, differences => by
    rw [Field.leaf?_texts, Field.leaf?_texts]
    exact StringMap.exactlyApart differences
  | .texts _, .flags _, _, _, _, differences => by
    rw [Field.leaf?_texts, Field.leaf?_flags]
    exact StringMap.exactlyApart differences
  | .flags _, .texts _, _, _, _, differences => by
    rw [Field.leaf?_flags, Field.leaf?_texts]
    exact StringMap.exactlyApart differences
  | .flags _, .flags _, _, _, _, differences => by
    rw [Field.leaf?_flags, Field.leaf?_flags]
    exact StringMap.exactlyApart differences
  | .absent _, .absent _, _, _, _, differences => by
    rw [← Except.ok.inj differences, Field.leaf?_absent, Field.leaf?_absent]
    exact .same _
  | .absent _, .present record, _, _, unambiguous, differences => by
    rw [← Except.ok.inj differences, Field.leaf?_absent, Field.leaf?_present]
    exact .created (Record.lists_leaves unambiguous)
  | .present record, .absent _, _, unambiguous, _, differences => by
    rw [← Except.ok.inj differences, Field.leaf?_absent, Field.leaf?_present]
    exact .deleted (Record.lists_leaves unambiguous)
  | .present left, .present right, _, unambiguous, otherUnambiguous, differences => by
    obtain ⟨sizes, fields⟩ := Record.diff_eq_ok_iff.1 differences
    rw [Field.leaf?_present, Field.leaf?_present]
    exact Record.exactlyApart_diffFields unambiguous otherUnambiguous sizes fields

theorem Record.exactlyApart_diffFields : ∀ {left right : Record} {changes : List Change},
    left.Unambiguous → right.Unambiguous → left.size = right.size →
    left.diffFields right = .ok changes → ExactlyApart left.leaf? right.leaf? changes
  | .nil, .nil, changes, _, _, _, differences => by
    rw [← Except.ok.inj differences]
    exact .same _
  | .cons name field rest, .cons otherName other otherRest, changes,
      ⟨notLater, fieldUnambiguous, restUnambiguous⟩,
      ⟨otherNotLater, otherUnambiguous, othersUnambiguous⟩, sizes, differences => by
    obtain ⟨rfl, inner, late, fieldDiff, restDiff, rfl⟩ :=
      Record.diffFields_cons_eq_ok_iff.1 differences
    rw [Record.leaf?_cons, Record.leaf?_cons]
    exact (Field.exactlyApart fieldUnambiguous otherUnambiguous fieldDiff).cons
      (Record.exactlyApart_diffFields restUnambiguous othersUnambiguous
        (Nat.succ.inj sizes) restDiff)
      (Record.avoids_of_notMem notLater) (Record.avoids_of_notMem otherNotLater)

end

/-! ## Components -/

/-- Two components of a type always have differences, those at the leaves at which they are
not the same, and none only if they are equal. -/
def DiffersLeafwise (α : Type) [Recordable α] : Prop :=
  ∀ known collected : α, ∃ changes, diff known collected = .ok changes ∧
    ExactlyApart (Recordable.record known).leaf? (Recordable.record collected).leaf? changes ∧
    (changes = [] ↔ known = collected)

/-- The differences of two records, if they have any list of them, are exact. -/
theorem Record.exactlyApart {known collected : Record} {changes : List Change}
    (unambiguous : known.Unambiguous) (otherUnambiguous : collected.Unambiguous)
    (differences : known.diff collected = .ok changes) :
    ExactlyApart known.leaf? collected.leaf? changes := by
  obtain ⟨sizes, fields⟩ := diff_eq_ok_iff.1 differences
  exact exactlyApart_diffFields unambiguous otherUnambiguous sizes fields

section

variable {α : Type} [Recordable α]

theorem LawfulRecordable.differsLeafwise [LawfulRecordable α]
    (substantial : ∀ value : α, (Recordable.record value).layout.Substantial) :
    DiffersLeafwise α := by
  intro known collected
  have layout := LawfulRecordable.layout_record known collected
  have distinct : ∀ value : α, (Recordable.record value).Distinct :=
    LawfulRecordable.distinct_record
  obtain ⟨changes, differences⟩ := Record.exists_diff_of_layout_eq layout
  have apart := Record.exactlyApart (distinct known).unambiguous (distinct collected).unambiguous
    differences
  refine ⟨changes, diff_eq_ok_of_record differences, apart, ?_⟩
  rw [apart.eq_nil_iff]
  constructor
  · intro same
    exact eq_of_record_eq (Record.eq_of_leaf?_eq layout (distinct known) (substantial known)
      (funext same))
  · rintro rfl path
    rfl

end

theorem Record.substantial_append : ∀ {left right : Record}, left.Substantial →
    right.Substantial → (left ++ right).Substantial
  | .nil, _, _, rightSubstantial => rightSubstantial
  | .cons _ _ _, _, ⟨fieldSubstantial, restSubstantial⟩, rightSubstantial =>
    ⟨fieldSubstantial, substantial_append restSubstantial rightSubstantial⟩

theorem Firmware.substantial (firmware : Firmware) :
    (Recordable.record firmware).layout.Substantial :=
  ⟨trivial, trivial, trivial, trivial⟩

theorem Identity.substantial (identity : Identity) :
    (Recordable.record identity).layout.Substantial := by
  change identity.record.layout.Substantial
  rw [identity.layout_record]
  simp [Record.ofList, Record.Substantial, Field.Substantial, Firmware.record, Record.leaves,
    Field.leaves]

theorem ExtendsIdentity.substantial {α : Type} [Recordable α] {own : Record}
    (parts : ExtendsIdentity α own) (ownSubstantial : own.Substantial) (value : α) :
    (Recordable.record value).layout.Substantial := by
  rw [parts.layout_eq]
  exact Record.substantial_append (Identity.substantial {}) ownSubstantial

/-- The differences of two records are, path by path, the leaves at which they are not the
same, each once and with what is there on either side. Two components of one type always
have differences, and none only if they are equal. -/
theorem diff_leafwise :
    (∀ (known collected : Record) (changes : List Change), known.Unambiguous →
      collected.Unambiguous → diff known collected = .ok changes →
      ExactlyApart known.leaf? collected.leaf? changes) ∧
      DiffersLeafwise Identity ∧ DiffersLeafwise Firmware ∧ DiffersLeafwise Drive ∧
      DiffersLeafwise Nic ∧ DiffersLeafwise Bmc ∧ DiffersLeafwise Bios ∧
      DiffersLeafwise Cpld ∧ DiffersLeafwise StorageController := by
  refine ⟨fun known collected changes unambiguous otherUnambiguous differences => ?_,
    LawfulRecordable.differsLeafwise Identity.substantial,
    LawfulRecordable.differsLeafwise Firmware.substantial, ?_, ?_, ?_, ?_, ?_, ?_⟩
  · exact Record.exactlyApart unambiguous otherUnambiguous (record_diff_of_eq_ok differences)
  · refine LawfulRecordable.differsLeafwise (Drive.extendsIdentity.substantial ?_)
    simp [Record.ofList, Record.Substantial, Field.Substantial]
  · refine LawfulRecordable.differsLeafwise (Nic.extendsIdentity.substantial ?_)
    simp [Record.ofList, Record.Substantial, Field.Substantial]
  · refine LawfulRecordable.differsLeafwise (Bmc.extendsIdentity.substantial ?_)
    simp [Record.ofList, Record.Substantial, Field.Substantial]
  · refine LawfulRecordable.differsLeafwise (Bios.extendsIdentity.substantial ?_)
    simp [Record.ofList, Record.Substantial, Field.Substantial]
  · exact LawfulRecordable.differsLeafwise (Cpld.extendsIdentity.substantial trivial)
  · refine LawfulRecordable.differsLeafwise (StorageController.extendsIdentity.substantial ?_)
    simp [Record.ofList, Record.Substantial, Field.Substantial]

/-- A record that is on one side only, an entry that is gone and one that is new. -/
theorem diff_leafwise_nested :
    let known : Record := .ofList [
      ("Name", .scalar (.text "disk")),
      ("Slot", .absent .nil),
      ("Tags", .texts (.ofList [("rack", "7"), ("state", "spare")]))]
    let collected : Record := .ofList [
      ("Name", .scalar (.text "disk")),
      ("Slot", .present (.ofList [("Bay", .scalar (.text "4")), ("Row", .scalar (.text ""))])),
      ("Tags", .texts (.ofList [("owner", "lab"), ("state", "used")]))]
    known.Unambiguous ∧ collected.Unambiguous ∧
      ∃ changes, diff known collected = .ok changes ∧ changes.length = 5 ∧
        ExactlyApart known.leaf? collected.leaf? changes := by
  intro known collected
  have unambiguous : known.Unambiguous := by
    simp [known, Record.ofList, Record.Unambiguous, Field.Unambiguous, Record.names]
  have otherUnambiguous : collected.Unambiguous := by
    simp [collected, Record.ofList, Record.Unambiguous, Field.Unambiguous, Record.names]
  have differences : diff known collected = .ok [
      ⟨.create, ["Slot", "Bay"], none, some (.text "4")⟩,
      ⟨.create, ["Slot", "Row"], none, some (.text "")⟩,
      ⟨.create, ["Tags", "owner"], none, some (.text "lab")⟩,
      ⟨.delete, ["Tags", "rack"], some (.text "7"), none⟩,
      ⟨.update, ["Tags", "state"], some (.text "spare"), some (.text "used")⟩] := by
    decide +kernel
  exact ⟨unambiguous, otherUnambiguous, _, differences, rfl,
    diff_leafwise.1 known collected _ unambiguous otherUnambiguous differences⟩

end ServerInventory
