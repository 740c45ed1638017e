import Mathlib
import ServerInventory.Proofs.Device.Lawful

/-!
Merges of one attribute. Such a merge takes the part of a whole merge that lies in the
attribute and leaves all other attributes alone (`takesFrom_combineFor`), and the changes that
it takes there do not depend on the other attributes (`Record.filter_passes`). So the merges of
all attributes, one after the other and in any order, come to the whole merge, and their counts
add up to its count (`merge_fieldwise`).
-/

namespace ServerInventory

/-! ## Attributes where nothing passes -/

/-- The rule under which no change passes. -/
def Acceptance.none : Acceptance := fun _ => false

theorem Acceptance.none_under (name : String) : Acceptance.none.under name = none := rfl

theorem Acceptance.filter_none (changes : List Change) : changes.filter Acceptance.none = [] :=
  List.filter_false changes

theorem StringMap.settle_none {α : Type} [DecidableEq α] (wrap : α → Value)
    (left right : StringMap α) : left.settle wrap .none right = left := by
  refine ext_get? fun key => ?_
  have nothing : left.accepted? wrap .none right key = Option.none := by
    unfold accepted? Acceptance.none
    cases left.get? key <;> cases right.get? key <;> simp
  rw [get?_settle, nothing, Option.none_or]

mutual

theorem Field.settle_none : ∀ left right : Field, left.settle .none right = left
  | .scalar _, right => by cases right <;> rfl
  | .texts left, right => by
    cases right with
    | texts right => exact congrArg Field.texts (left.settle_none .text right)
    | _ => rfl
  | .flags left, right => by
    cases right with
    | flags right => exact congrArg Field.flags (left.settle_none .flag right)
    | _ => rfl
  | .absent blank, right => by
    cases right with
    | present record =>
      have refused : ¬ (record.leaves.any fun leaf => Acceptance.none leaf.created) = true := by
        intro pass
        obtain ⟨leaf, _, passes⟩ := List.any_eq_true.1 pass
        cases passes
      exact if_neg refused
    | _ => rfl
  | .present left, right => by
    cases right with
    | present right => exact congrArg Field.present (Record.settle_none left right)
    | _ => rfl

theorem Record.settle_none : ∀ left right : Record, left.settle .none right = left
  | .nil, _ => rfl
  | .cons _ _ _, .nil => rfl
  | .cons name field rest, .cons _ other otherRest => by
    rw [Record.settle, Acceptance.none_under, Field.settle_none, Record.settle_none]

end

namespace Change

/-- In a merge of one attribute nothing passes in any other. -/
theorem passes_under_of_ne {field name : String} (other : name ≠ field) :
    Acceptance.under (passes (some field)) name = .none := by
  funext change
  have elsewhere : (some name == some field) = false := beq_false_of_ne (by simpa using other)
  change (isHarmless (change.under name) && (some name == some field)) = false
  rw [elsewhere, Bool.and_false]

/-- In the attribute itself passes what passes in a merge of all of them. -/
theorem passes_under_self (field : String) :
    Acceptance.under (passes (some field)) field = Acceptance.under isHarmless field := by
  funext change
  change (isHarmless (change.under field) && (some field == some field)) = _
  rw [beq_self_eq_true, Bool.and_true]
  rfl

end Change

/-! ## Settled attributes -/

namespace Record

/-- What stands under a name in the settled record is settled on its own. -/
theorem field?_settle {accept : Acceptance} {name : String} : ∀ {left right : Record},
    left.names = right.names →
    (left.settle accept right).field? name =
      Option.map₂ (Field.settle (accept.under name)) (left.field? name) (right.field? name)
  | .nil, .nil, _ => rfl
  | .cons first field rest, .cons otherFirst other otherRest, names => by
    obtain ⟨rfl, restNames⟩ := List.cons.inj names
    rw [settle, field?_cons, field?_cons, field?_cons]
    by_cases here : first = name
    · rw [if_pos here, if_pos here, if_pos here, here]
      rfl
    · rw [if_neg here, if_neg here, if_neg here]
      exact field?_settle restNames

/-- Where nothing passes, the settled record has what the first one has. -/
theorem field?_settle_of_none {accept : Acceptance} {name : String}
    (nothing : accept.under name = .none) : ∀ {left right : Record},
    (left.settle accept right).field? name = left.field? name
  | .nil, _ => rfl
  | .cons _ _ _, .nil => rfl
  | .cons first field rest, .cons _ other otherRest => by
    rw [settle, field?_cons, field?_cons]
    by_cases here : first = name
    · rw [if_pos here, if_pos here, here, nothing, Field.settle_none]
    · rw [if_neg here, if_neg here]
      exact field?_settle_of_none nothing

/-- In a merge of an attribute that a record does not have nothing passes. -/
theorem filter_passes_of_notMem {name : String} {left right : Record} {changes : List Change}
    (unknown : name ∉ left.names) (differences : left.diffFields right = .ok changes) :
    changes.filter (Change.passes (some name)) = [] := by
  refine List.filter_eq_nil_iff.2 fun change member pass => ?_
  obtain ⟨first, path, equal, named⟩ := path_of_mem_diffFields differences change member
  have here : first = name := (by simpa [Change.passes, equal] using pass : _ ∧ _).2
  exact unknown (here ▸ named)

/-- Of the differences of two records those pass in a merge of one attribute that are harmless
differences of that attribute. -/
theorem filter_passes {name : String} {field other : Field} : ∀ {left right : Record}
    {changes : List Change}, left.Distinct → left.field? name = some field →
    right.field? name = some other → left.diffFields right = .ok changes →
    ∃ inner, field.diff other = .ok inner ∧
      changes.filter (Change.passes (some name)) =
        (inner.filter (Acceptance.under Change.isHarmless name)).map (·.under name)
  | .nil, _, _, _, found, _, _ => by cases found
  | .cons _ _ _, .nil, _, _, _, otherFound, _ => by cases otherFound
  | .cons first leftField rest, .cons otherFirst rightField otherRest, changes, distinct, found,
      otherFound, differences => by
    obtain ⟨rfl, inner, late, fieldDiff, restDiff, rfl⟩ := diffFields_cons_eq_ok_iff.1 differences
    obtain ⟨notLater, _, restDistinct⟩ := distinct
    rw [List.filter_append, Acceptance.filter_map_under]
    rw [field?_cons] at found otherFound
    by_cases here : first = name
    · rw [if_pos here] at found otherFound
      subst here
      refine ⟨inner, ?_, ?_⟩
      · rw [← Option.some.inj found, ← Option.some.inj otherFound]
        exact fieldDiff
      · rw [filter_passes_of_notMem notLater restDiff, Change.passes_under_self, List.append_nil]
    · rw [if_neg here] at found otherFound
      rw [Change.passes_under_of_ne here, Acceptance.filter_none, List.map_nil, List.nil_append]
      exact filter_passes restDistinct found otherFound restDiff

end Record

/-! ## Counts -/

namespace Change

/-- How many of some changes a merge of one attribute takes. -/
def countFor (changes : List Change) (field : String) : Nat :=
  (changes.filter (passes (some field))).length

/-- The changes inside one attribute do not count for another. -/
theorem countFor_filter_of_ne {field other : String} (different : other ≠ field)
    (changes : List Change) :
    countFor (changes.filter fun change => !(change.path.head? == some field)) other =
      countFor changes other := by
  unfold countFor
  rw [List.filter_filter]
  congr 2
  funext change
  by_cases there : change.path.head? = some other
  · simp [passes, there, different]
  · simp [passes, there]

/-- Of changes inside some attributes, each harmless one counts for one of the attributes. -/
theorem sum_countFor : ∀ {fields : List String} {changes : List Change}, fields.Nodup →
    (∀ change ∈ changes, change.Inside fields) →
    (fields.map (countFor changes)).sum = (harmless changes).length
  | [], changes, _, inside => by
    cases changes with
    | nil => rfl
    | cons change changes =>
      obtain ⟨name, path, _, named⟩ := inside change List.mem_cons_self
      cases named
  | field :: fields, changes, distinct, inside => by
    obtain ⟨notLater, restDistinct⟩ := List.nodup_cons.1 distinct
    let here (change : Change) : Bool := change.path.head? == some field
    let others := changes.filter fun change => !here change
    have othersInside : ∀ change ∈ others, change.Inside fields := by
      intro change member
      obtain ⟨found, elsewhere⟩ := List.mem_filter.1 member
      obtain ⟨name, path, equal, named⟩ := inside change found
      rcases List.mem_cons.1 named with rfl | later
      · simp [here, equal] at elsewhere
      · exact ⟨name, path, equal, later⟩
    have unaffected : fields.map (countFor others) = fields.map (countFor changes) := by
      refine List.map_congr_left fun other member => ?_
      have different : other ≠ field := fun same => notLater (same ▸ member)
      exact countFor_filter_of_ne different changes
    have counted : countFor changes field = (harmless (changes.filter here)).length := by
      rw [harmless_filter]
      rfl
    have parts : (harmless (changes.filter here)).length + (harmless others).length =
        (harmless changes).length := by
      unfold harmless
      rw [← List.countP_eq_length_filter, ← List.countP_eq_length_filter,
        ← List.countP_eq_length_filter]
      exact (List.countP_eq_countP_filter_add changes isHarmless here).symm
    calc ((field :: fields).map (countFor changes)).sum
      _ = countFor changes field + (fields.map (countFor changes)).sum := List.sum_cons
      _ = (harmless (changes.filter here)).length + (harmless others).length := by
        rw [counted, ← unaffected, sum_countFor restDistinct othersInside]
      _ = (harmless changes).length := parts

end Change

/-! ## Merges of one attribute -/

section

variable {α : Type} [Recordable α]

/-- A component with one attribute after the other of a collected one merged in, and the changes
of all these merges. The first merge that fails ends the series. -/
def mergeFields (known collected : α) : List String → Except Error (Merged α)
  | [] => .ok ⟨known, 0⟩
  | field :: fields => do
    let merged ← mergeField known collected field
    let rest ← mergeFields merged.record collected fields
    return ⟨rest.record, merged.applied + rest.applied⟩

/-- A component has some of its attributes from one component and the others from another. -/
def TakesFrom (taken known part : α) (fields : List String) : Prop :=
  ∀ name, (Recordable.record part).field? name =
    if name ∈ fields then (Recordable.record taken).field? name
    else (Recordable.record known).field? name

section

variable {taken known next last : α} {field name : String} {fields : List String}

theorem TakesFrom.of_mem (part : TakesFrom taken known next fields) (member : name ∈ fields) :
    (Recordable.record next).field? name = (Recordable.record taken).field? name := by
  rw [part, if_pos member]

theorem TakesFrom.of_notMem (part : TakesFrom taken known next fields)
    (outside : name ∉ fields) :
    (Recordable.record next).field? name = (Recordable.record known).field? name := by
  rw [part, if_neg outside]

/-- One attribute and then some others are taken. -/
theorem TakesFrom.cons (first : TakesFrom taken known next [field])
    (rest : TakesFrom taken next last fields) : TakesFrom taken known last (field :: fields) := by
  intro name
  by_cases later : name ∈ fields
  · rw [if_pos (List.mem_cons_of_mem field later), rest.of_mem later]
  · rw [rest.of_notMem later]
    by_cases here : name = field
    · have inside : name ∈ field :: fields := here ▸ List.mem_cons_self
      rw [if_pos inside, first.of_mem (List.mem_singleton.2 here)]
    · have outside : name ∉ field :: fields := by simp [here, later]
      rw [if_neg outside, first.of_notMem (mt List.mem_singleton.1 here)]

end

variable [LawfulRecordable α]

theorem LawfulRecordable.names_record (value other : α) :
    (Recordable.record value).names = (Recordable.record other).names := by
  rw [← Record.names_layout, layout_record value other, Record.names_layout]

/-- What a merge makes of an attribute depends on that attribute alone. -/
theorem field?_combineFor (field? : Option String) (known collected : α) (name : String) :
    (Recordable.record (combineFor field? known collected)).field? name =
      Option.map₂ (Field.settle (Acceptance.under (Change.passes field?) name))
        ((Recordable.record known).field? name) ((Recordable.record collected).field? name) := by
  rw [record_combineFor]
  exact Record.field?_settle (LawfulRecordable.names_record known collected)

/-- A merge of one attribute gives it what a whole merge gives it, and leaves the others alone,
also when other attributes have been merged before. -/
theorem takesFrom_combineFor {known current : α} (collected : α) {field : String}
    (same : (Recordable.record current).field? field = (Recordable.record known).field? field) :
    TakesFrom (combine known collected) current (combineFor (some field) current collected)
      [field] := by
  intro name
  by_cases here : name = field
  · rw [if_pos (List.mem_singleton.2 here), here, combine, field?_combineFor, field?_combineFor,
      same, Change.passes_under_self, Change.passes_none]
  · rw [if_neg (mt List.mem_singleton.1 here), record_combineFor]
    exact Record.field?_settle_of_none (Change.passes_under_of_ne here)

/-- A merge of an attribute that there is not does nothing. -/
theorem mergeField_unknown (known collected : α) {field : String}
    (unknown : field ∉ (Recordable.record known).names) :
    mergeField known collected field = .ok ⟨known, 0⟩ := by
  refine mergeChanges_of_idle (eq_of_record_eq ?_)
  refine Record.eq_of_field?_eq (LawfulRecordable.distinct_record _)
    (LawfulRecordable.names_record _ known) fun name named => ?_
  rw [LawfulRecordable.names_record _ known] at named
  have different : name ≠ field := fun here => unknown (here ▸ named)
  exact (takesFrom_combineFor collected rfl).of_notMem (mt List.mem_singleton.1 different)

/-- A merge of one attribute counts the changes that a whole merge takes there, also when other
attributes have been merged before. -/
theorem mergeField_eq {known current collected : α} {changes : List Change} {field : String}
    (differences : (Recordable.record known).diff (Recordable.record collected) = .ok changes)
    (named : field ∈ (Recordable.record known).names)
    (same : (Recordable.record current).field? field = (Recordable.record known).field? field) :
    mergeField current collected field =
      .ok ⟨combineFor (some field) current collected, Change.countFor changes field⟩ := by
  obtain ⟨own, found⟩ := Record.exists_field?_of_mem named
  obtain ⟨other, otherFound⟩ := Record.exists_field?_of_mem
    (LawfulRecordable.names_record known collected ▸ named)
  obtain ⟨inner, fieldDiff, taken⟩ := Record.filter_passes
    (LawfulRecordable.distinct_record known) found otherFound
    (Record.diff_eq_ok_iff.1 differences).2
  obtain ⟨later, laterDifferences, merged, _⟩ := mergeChanges_eq (some field) current collected
  have laterFields := (Record.diff_eq_ok_iff.1 (record_diff_of_eq_ok laterDifferences)).2
  obtain ⟨laterInner, laterFieldDiff, laterTaken⟩ := Record.filter_passes
    (LawfulRecordable.distinct_record current) (same.trans found) otherFound laterFields
  have inners : laterInner = inner := Except.ok.inj (laterFieldDiff.symm.trans fieldDiff)
  rw [mergeField, merged, laterTaken, inners, ← taken]
  rfl

/-- Merges of distinct attributes, one after the other, give each of them what a whole merge
gives it. -/
theorem mergeFields_eq {known collected : α} {changes : List Change}
    (differences : (Recordable.record known).diff (Recordable.record collected) = .ok changes) :
    ∀ {fields : List String} {current : α}, fields.Nodup →
    (∀ field ∈ fields, field ∈ (Recordable.record known).names ∧
      (Recordable.record current).field? field = (Recordable.record known).field? field) →
    ∃ last, mergeFields current collected fields =
        .ok ⟨last, (fields.map (Change.countFor changes)).sum⟩ ∧
      TakesFrom (combine known collected) current last fields
  | [], current, _, _ => ⟨current, rfl, fun name => rfl⟩
  | field :: fields, current, distinct, untouched => by
    obtain ⟨notLater, restDistinct⟩ := List.nodup_cons.1 distinct
    obtain ⟨⟨named, same⟩, restUntouched⟩ := List.forall_mem_cons.1 untouched
    let next := combineFor (some field) current collected
    have step : TakesFrom (combine known collected) current next [field] :=
      takesFrom_combineFor collected same
    have stillUntouched : ∀ other ∈ fields, other ∈ (Recordable.record known).names ∧
        (Recordable.record next).field? other = (Recordable.record known).field? other := by
      intro other later
      have different : other ≠ field := fun equal => notLater (equal ▸ later)
      obtain ⟨otherNamed, otherSame⟩ := restUntouched other later
      exact ⟨otherNamed, (step.of_notMem (mt List.mem_singleton.1 different)).trans otherSame⟩
    obtain ⟨last, series, taken⟩ := mergeFields_eq differences restDistinct stillUntouched
    refine ⟨last, ?_, step.cons taken⟩
    rw [mergeFields, mergeField_eq differences named same]
    change (do let rest ← mergeFields next collected fields; _) = _
    rw [series]
    rfl

end

/-- Merges of single attributes are the parts of a whole merge. Each of them succeeds, gives its
attribute what the whole merge gives it, leaves the others alone, and does nothing where there is
no attribute of the name; one for each attribute, in any order, come to the whole merge. -/
def MergesFieldwise (α : Type) [Recordable α] : Prop :=
  ∀ known collected : α, ∃ whole, merge known collected = .ok whole ∧
    (∀ field, ∃ part, mergeField known collected field = .ok part ∧
      TakesFrom whole.record known part.record [field] ∧
      (field ∉ (Recordable.record known).names → part = ⟨known, 0⟩)) ∧
    ∀ order : List String, order.Perm (Recordable.record known).names →
      mergeFields known collected order = .ok whole

theorem LawfulRecordable.mergesFieldwise {α : Type} [Recordable α] [LawfulRecordable α] :
    MergesFieldwise α := by
  intro known collected
  obtain ⟨changes, differences, merged, _⟩ := mergeChanges_eq none known collected
  have recordDifferences := record_diff_of_eq_ok differences
  have distinct := distinct_record known
  rw [Change.passes_none] at merged
  refine ⟨_, merged, fun field => ?_, fun order permuted => ?_⟩
  · obtain ⟨inField, _, part, _⟩ := mergeChanges_eq (some field) known collected
    refine ⟨_, part, takesFrom_combineFor collected rfl, fun unknown => ?_⟩
    have idle := mergeField_unknown known collected unknown
    exact Except.ok.inj (part.symm.trans idle)
  · have orderDistinct : order.Nodup := permuted.nodup_iff.2 distinct.nodup_names
    have named : ∀ field ∈ order, field ∈ (Recordable.record known).names ∧
        (Recordable.record known).field? field = (Recordable.record known).field? field :=
      fun field member => ⟨permuted.mem_iff.1 member, rfl⟩
    obtain ⟨last, series, taken⟩ := mergeFields_eq recordDifferences orderDistinct named
    have whole : last = combine known collected := by
      refine eq_of_record_eq (Record.eq_of_field?_eq (distinct_record last)
        (names_record last (combine known collected)) fun name member => ?_)
      rw [names_record last known] at member
      exact taken.of_mem (permuted.mem_iff.2 member)
    have inside : ∀ change ∈ changes, change.Inside order := fun change member =>
      (Record.path_of_mem_diffFields (Record.diff_eq_ok_iff.1 recordDifferences).2 change
        member).mono permuted.symm.subset
    have count := Change.sum_countFor orderDistinct inside
    rw [series, whole, count]
    rfl

/-- A merge of one attribute of two components is the part of their whole merge that lies in
this attribute, and the merges of all attributes, in whatever order, add up to the whole. -/
theorem merge_fieldwise :
    MergesFieldwise Identity ∧ MergesFieldwise Firmware ∧ MergesFieldwise Drive ∧
      MergesFieldwise Nic ∧ MergesFieldwise Bmc ∧ MergesFieldwise Bios ∧
      MergesFieldwise Cpld ∧ MergesFieldwise StorageController := by
  refine ⟨?_, ?_, ?_, ?_, ?_, ?_, ?_, ?_⟩
  all_goals exact LawfulRecordable.mergesFieldwise

end ServerInventory
