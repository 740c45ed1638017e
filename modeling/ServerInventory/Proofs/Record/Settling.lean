import ServerInventory.Proofs.Record.Filling

/-!
What a merge makes of two records. `Record.settle` gives, attribute by attribute, the record
that comes of carrying out those differences that a rule lets pass, provided that the rule
lets no removal pass and treats all additions inside one attribute alike.

* `Record.patch_settle`: carrying the changes out one by one leads to the settled record, or
  fails, which it never does for records of one layout.
* `Record.diffFields_settle`: the settled record differs from the first one by exactly the
  changes that pass.
-/

namespace ServerInventory

/-- A rule that says which changes pass. -/
abbrev Acceptance := Change → Bool

namespace Acceptance

/-- The rule as it looks from inside the attribute of a name. -/
def under (accept : Acceptance) (name : String) : Acceptance :=
  fun change => accept (change.under name)

/-- No removal passes, and either all additions pass or none does. -/
structure Uniform (accept : Acceptance) : Prop where
  removal : ∀ change : Change, change.kind = .delete → accept change = false
  addition : ∀ change other : Change, change.kind = .create → other.kind = .create →
    accept change = accept other

theorem Uniform.under {accept : Acceptance} (uniform : accept.Uniform) (name : String) :
    (accept.under name).Uniform :=
  ⟨fun change removal => uniform.removal (change.under name) removal,
    fun change other creation otherCreation =>
      uniform.addition (change.under name) (other.under name) creation otherCreation⟩

/-- Of changes seen from outside the attribute those pass that do so from the inside. -/
theorem filter_map_under (accept : Acceptance) (name : String) (changes : List Change) :
    (changes.map (·.under name)).filter accept =
      (changes.filter (accept.under name)).map (·.under name) :=
  List.filter_map

end Acceptance

/-! ## Scalars and maps -/

theorem Value.blank_inj {kind other : Kind} (same : blank kind = blank other) : kind = other := by
  rw [← kind_blank kind, same, kind_blank]

/-- A value, or the other one where the rule lets it take the place. -/
def Value.settle (accept : Acceptance) (left right : Value) : Value :=
  if accept ⟨.update, [], some left, some right⟩ then right else left

namespace StringMap

section

variable {α : Type} [DecidableEq α]

/-- The value that the rule lets in under a key, if there is one: additions, and values in
place of others. -/
def accepted? (wrap : α → Value) (accept : Acceptance) (left right : StringMap α)
    (key : String) : Option α :=
  match left.get? key, right.get? key with
  | _, none => none
  | none, some after =>
    if accept ⟨.create, [key], none, some (wrap after)⟩ then some after else none
  | some before, some after =>
    if before ≠ after ∧ accept ⟨.update, [key], some (wrap before), some (wrap after)⟩ then
      some after
    else none

/-- The map with a value under a key, if there is one to put there. -/
def insert? (map : StringMap α) (key : String) : Option α → StringMap α
  | none => map
  | some value => map.insert key value

/-- A map with the values of another one that the rule lets in. -/
def settle (wrap : α → Value) (accept : Acceptance) (left right : StringMap α) :
    StringMap α :=
  (left.unionKeys right).foldl
    (fun map key => map.insert? key (left.accepted? wrap accept right key)) left

variable {wrap : α → Value} {accept : Acceptance} {left right : StringMap α}

theorem accepted?_eq_none_of_notMem {key : String} (outside : key ∉ left.unionKeys right) :
    left.accepted? wrap accept right key = none := by
  have none : right.get? key = none := by
    by_contra found
    exact outside (mem_unionKeys.2 (.inr found))
  unfold accepted?
  rw [none]

/-- A look-up in the settled map. -/
theorem get?_settle (key : String) :
    (left.settle wrap accept right).get? key =
      (left.accepted? wrap accept right key).or (left.get? key) := by
  have along : ∀ (keys : List String) (start : StringMap α),
      (keys.foldl (fun map key => map.insert? key (left.accepted? wrap accept right key))
        start).get? key =
      if key ∈ keys then (left.accepted? wrap accept right key).or (start.get? key)
      else start.get? key := by
    intro keys
    induction keys with
    | nil => simp
    | cons first rest ih =>
      intro start
      rw [List.foldl_cons, ih]
      simp only [List.mem_cons]
      by_cases here : key = first
      · subst here
        cases left.accepted? wrap accept right key <;> simp [insert?]
      · cases left.accepted? wrap accept right first <;> simp [insert?, here]
  unfold settle
  rw [along]
  split
  · rfl
  · rename_i outside
    rw [accepted?_eq_none_of_notMem outside, Option.none_or]

/-- The change that brings an accepted value. -/
def replacement (wrap : α → Value) (left : StringMap α) (key : String) (value : α) : Change :=
  match left.get? key with
  | none => ⟨.create, [key], none, some (wrap value)⟩
  | some before => ⟨.update, [key], some (wrap before), some (wrap value)⟩

/-- What passes at a key is the change that brings the accepted value. -/
theorem filter_changesAt (injective : wrap.Injective) (uniform : accept.Uniform)
    (key : String) :
    ((left.map wrap).changesAt (right.map wrap) key).filter accept =
      (left.accepted? wrap accept right key).toList.map (left.replacement wrap key) := by
  unfold changesAt accepted? replacement
  rw [get?_map, get?_map]
  cases left.get? key with
  | none =>
    cases right.get? key with
    | none => rfl
    | some after =>
      by_cases pass : accept ⟨.create, [key], none, some (wrap after)⟩ <;> simp [pass]
  | some before =>
    cases right.get? key with
    | none => simp [uniform.removal]
    | some after =>
      by_cases same : before = after
      · simp [same]
      · have different : wrap before ≠ wrap after := fun equal => same (injective equal)
        by_cases pass : accept ⟨.update, [key], some (wrap before), some (wrap after)⟩ <;>
          simp [same, different, pass]

/-- The settled map differs from the first one, at each key, by what passes there. -/
theorem changesAt_settle (injective : wrap.Injective) (uniform : accept.Uniform)
    (key : String) :
    (left.map wrap).changesAt ((left.settle wrap accept right).map wrap) key =
      ((left.map wrap).changesAt (right.map wrap) key).filter accept := by
  have unchanged : ∀ before ∈ left.get? key,
      left.accepted? wrap accept right key ≠ some before := by
    intro before found equal
    unfold accepted? at equal
    rw [Option.mem_def.1 found] at equal
    cases other : right.get? key with
    | none => simp [other] at equal
    | some after =>
      simp only [other, ne_eq, Option.ite_none_right_eq_some, Option.some.injEq] at equal
      exact equal.1.1 equal.2.symm
  rw [filter_changesAt injective uniform]
  unfold changesAt replacement
  rw [get?_map, get?_map, get?_settle]
  cases found : left.get? key with
  | none => cases left.accepted? wrap accept right key <;> simp
  | some before =>
    cases accepted : left.accepted? wrap accept right key with
    | none => simp
    | some after =>
      have different : wrap before ≠ wrap after := fun equal =>
        unchanged before found (injective equal ▸ accepted)
      simp [different]

/-- The settled map differs from the first one by exactly what passes. -/
theorem diff_settle (injective : wrap.Injective)
    (kind : ∀ value other, (wrap value).kind = (wrap other).kind)
    (uniform : accept.Uniform) {changes : List Change}
    (differences : (left.map wrap).diff (right.map wrap) = .ok changes) :
    (left.map wrap).diff ((left.settle wrap accept right).map wrap) =
      .ok (changes.filter accept) := by
  obtain ⟨_, rfl⟩ := diff_eq_ok_iff.1 differences
  refine diff_eq_ok_iff.2 ⟨fun key before found after foundAfter => ?_, ?_⟩
  · exact kind_of_get?_map kind found foundAfter
  · rw [List.filter_flatMap]
    have along : (fun key => ((left.map wrap).changesAt (right.map wrap) key).filter accept) =
        (left.map wrap).changesAt ((left.settle wrap accept right).map wrap) :=
      funext fun key => (changesAt_settle injective uniform key).symm
    rw [along]
    refine flatMap_eq_of_support (pairwise_unionKeys _ _) (pairwise_unionKeys _ _) ?_
    intro key nonempty
    refine iff_of_true (mem_unionKeys_of_changesAt ?_) (mem_unionKeys_of_changesAt nonempty)
    rw [changesAt_settle injective uniform] at nonempty
    exact fun empty => nonempty (by rw [empty, List.filter_nil])

end

end StringMap

/-- Carrying out what passes leads from the map to the settled map. -/
theorem Field.Holds.patch_settle {α : Type} [DecidableEq α] {wrap : α → Value}
    {hold : StringMap α → Field} (holds : Field.Holds wrap hold) (injective : wrap.Injective)
    {accept : Acceptance} (uniform : accept.Uniform) {left right : StringMap α}
    {changes : List Change}
    (differences : (left.map wrap).diff (right.map wrap) = .ok changes) :
    (hold left).patch (changes.filter accept) =
      (hold (left.settle wrap accept right), none) := by
  have along : ∀ (keys : List String) (start : StringMap α),
      (hold start).patch
          (keys.flatMap fun key =>
            ((left.map wrap).changesAt (right.map wrap) key).filter accept) =
        (hold (keys.foldl
          (fun map key => map.insert? key (left.accepted? wrap accept right key)) start),
          none) := by
    intro keys
    induction keys with
    | nil => exact fun start => rfl
    | cons key rest ih =>
      intro start
      rw [List.flatMap_cons, List.foldl_cons, StringMap.filter_changesAt injective uniform]
      cases left.accepted? wrap accept right key with
      | none => exact ih start
      | some value =>
        have step : (hold start).amend (left.replacement wrap key value)
            (left.replacement wrap key value).path = (hold (start.insert key value), none) := by
          unfold StringMap.replacement
          cases left.get? key <;> exact holds start _ key value (by simp) rfl
        rw [Option.toList_some, List.map_singleton, List.singleton_append,
          patch_cons_of_amend step]
        exact ih _
  obtain ⟨_, rfl⟩ := StringMap.diff_eq_ok_iff.1 differences
  rw [List.filter_flatMap, StringMap.unionKeys_map]
  exact along _ left

/-! ## Records -/

mutual

/-- An attribute with the changes that lead to another one carried out as far as they pass. -/
def Field.settle (accept : Acceptance) : Field → Field → Field
  | .scalar left, .scalar right => .scalar (left.settle accept right)
  | .texts left, .texts right => .texts (left.settle .text accept right)
  | .flags left, .flags right => .flags (left.settle .flag accept right)
  | .absent blank, .present record =>
    if record.leaves.any fun leaf => accept leaf.created then .present record.filled
    else .absent blank
  | .present left, .present right => .present (left.settle accept right)
  | left, _ => left

/-- A record with the changes that lead to another one carried out as far as they pass. -/
def Record.settle (accept : Acceptance) : Record → Record → Record
  | .cons name field rest, .cons _ other otherRest =>
    .cons name (field.settle (accept.under name) other) (rest.settle accept otherRest)
  | left, _ => left

end

@[simp] theorem Record.size_settle (accept : Acceptance) : ∀ left right : Record,
    (left.settle accept right).size = left.size
  | .nil, _ => rfl
  | .cons _ _ _, .nil => rfl
  | .cons _ _ rest, .cons _ _ otherRest => by
    rw [settle, size, size, size_settle accept rest otherRest]

/-! ## What the settled record differs by -/

theorem Value.diff_self (value : Value) : value.diff value = .ok [] := by
  simp [Value.diff]

theorem StringMap.diff_self (map : StringMap Value) : map.diff map = .ok [] := by
  refine diff_eq_ok_iff.2 ⟨fun key before found after foundAfter => ?_, ?_⟩
  · rw [Option.mem_unique found foundAfter]
  · refine (List.flatMap_eq_nil_iff.2 fun key _ => ?_).symm
    unfold changesAt
    cases map.get? key <;> simp

mutual

theorem Field.diff_self : ∀ field : Field, field.diff field = .ok []
  | .scalar value => value.diff_self
  | .texts entries => StringMap.diff_self (entries.map Value.text)
  | .flags entries => StringMap.diff_self (entries.map Value.flag)
  | .absent _ => rfl
  | .present record => Record.diff_eq_ok_iff.2 ⟨rfl, Record.diffFields_self record⟩

theorem Record.diffFields_self : ∀ record : Record, record.diffFields record = .ok []
  | .nil => rfl
  | .cons _ field rest => Record.diffFields_cons_eq_ok_iff.2
    ⟨rfl, [], [], Field.diff_self field, Record.diffFields_self rest, rfl⟩

end

/-- Additions of leaves pass all alike. -/
theorem Acceptance.Uniform.filter_created {accept : Acceptance} (uniform : accept.Uniform)
    (leaves : List Leaf) :
    (leaves.map Leaf.created).filter accept =
      if leaves.any fun leaf => accept leaf.created then leaves.map Leaf.created else [] := by
  split
  · rename_i some
    obtain ⟨leaf, _, pass⟩ := List.any_eq_true.1 some
    refine List.filter_eq_self.2 fun change member => ?_
    obtain ⟨other, _, rfl⟩ := List.mem_map.1 member
    rw [uniform.addition other.created leaf.created rfl rfl]
    exact pass
  · rename_i none
    refine List.filter_eq_nil_iff.2 fun change member pass => none ?_
    obtain ⟨leaf, inside, rfl⟩ := List.mem_map.1 member
    exact List.any_eq_true.2 ⟨leaf, inside, pass⟩

/-- Removals of leaves do not pass. -/
theorem Acceptance.Uniform.filter_deleted {accept : Acceptance} (uniform : accept.Uniform)
    (leaves : List Leaf) : (leaves.map Leaf.deleted).filter accept = [] := by
  refine List.filter_eq_nil_iff.2 fun change member => ?_
  obtain ⟨leaf, _, rfl⟩ := List.mem_map.1 member
  simp [uniform.removal leaf.deleted rfl]

theorem Value.diff_settle {accept : Acceptance} {left right : Value} {changes : List Change}
    (differences : left.diff right = .ok changes) :
    left.diff (left.settle accept right) = .ok (changes.filter accept) := by
  unfold Value.diff at differences
  split at differences
  · rename_i kind
    rw [← Except.ok.inj differences]
    unfold settle
    by_cases same : left = right
    · subst same
      simp [Value.diff_self]
    · by_cases pass : accept ⟨.update, [], some left, some right⟩ <;>
        simp [same, pass, kind, Value.diff]
  · cases differences

mutual

theorem Field.diff_settle : ∀ {accept : Acceptance} {left right : Field}
    {changes : List Change}, accept.Uniform → left.Admits right →
    left.diff right = .ok changes →
    left.diff (left.settle accept right) = .ok (changes.filter accept)
  | _, .scalar _, .scalar _, _, _, _, differences => Value.diff_settle differences
  | _, .texts _, .texts _, _, uniform, _, differences =>
    StringMap.diff_settle (fun _ _ => Value.text.inj) (fun _ _ => rfl) uniform differences
  | _, .flags _, .flags _, _, uniform, _, differences =>
    StringMap.diff_settle (fun _ _ => Value.flag.inj) (fun _ _ => rfl) uniform differences
  | accept, .absent blank, .present record, changes, uniform, _, differences => by
    rw [← Except.ok.inj differences, uniform.filter_created, Field.settle]
    split
    · rw [Field.diff, Record.leaves_filled]
    · rfl
  | accept, .present record, .absent blank, changes, uniform, _, differences => by
    rw [← Except.ok.inj differences, uniform.filter_deleted]
    exact Field.diff_self (.present record)
  | accept, .absent blank, .absent other, changes, _, _, differences => by
    rw [← Except.ok.inj differences]
    rfl
  | accept, .present left, .present right, changes, uniform, admits, differences => by
    obtain ⟨_, fields⟩ := Record.diff_eq_ok_iff.1 differences
    exact Record.diff_eq_ok_iff.2 ⟨(Record.size_settle accept left right).symm,
      Record.diffFields_settle uniform.under admits fields⟩
  | _, .texts _, .flags _, _, _, admits, _ => admits.elim
  | _, .flags _, .texts _, _, _, admits, _ => admits.elim

theorem Record.diffFields_settle : ∀ {accept : Acceptance} {left right : Record}
    {changes : List Change}, (∀ name, (accept.under name).Uniform) → left.Admits right →
    left.diffFields right = .ok changes →
    left.diffFields (left.settle accept right) = .ok (changes.filter accept)
  | accept, .nil, _, changes, _, _, differences => by
    rw [Record.eq_nil_of_diffFields (.inl rfl) differences]
    rfl
  | accept, .cons name field rest, .nil, changes, _, _, differences => by
    rw [Record.eq_nil_of_diffFields (.inr rfl) differences]
    exact Record.diffFields_self (.cons name field rest)
  | accept, .cons name field rest, .cons otherName other otherRest, changes, uniform, admits,
      differences => by
    obtain ⟨rfl, inner, late, fieldDiff, restDiff, rfl⟩ :=
      Record.diffFields_cons_eq_ok_iff.1 differences
    refine Record.diffFields_cons_eq_ok_iff.2 ⟨rfl, inner.filter (accept.under name),
      late.filter accept, Field.diff_settle (uniform name) admits.1 fieldDiff,
      Record.diffFields_settle uniform admits.2 restDiff, ?_⟩
    rw [List.filter_append, Acceptance.filter_map_under]

end

/-- The settled record differs from the first one by exactly the changes that pass. -/
theorem Record.diff_settle {accept : Acceptance} {left right : Record} {changes : List Change}
    (uniform : ∀ name, (accept.under name).Uniform) (admits : left.Admits right)
    (differences : left.diff right = .ok changes) :
    left.diff (left.settle accept right) = .ok (changes.filter accept) := by
  obtain ⟨_, fields⟩ := diff_eq_ok_iff.1 differences
  exact diff_eq_ok_iff.2 ⟨(size_settle accept left right).symm,
    diffFields_settle uniform admits fields⟩

/-! ## Carrying the changes out -/

/-- The changes that pass are inside the attributes of the record. -/
theorem Record.inside_filter (accept : Acceptance) {left right : Record} {changes : List Change}
    (differences : left.diffFields right = .ok changes) :
    ∀ change ∈ changes.filter accept, change.Inside left.names :=
  fun change member => path_of_mem_diffFields differences change (List.mem_of_mem_filter member)

theorem Value.patch_settle {accept : Acceptance} {left right : Value} {changes : List Change}
    (differences : left.diff right = .ok changes) :
    (Field.scalar left).patch (changes.filter accept) =
      (.scalar (left.settle accept right), none) := by
  unfold Value.diff at differences
  split at differences
  · rename_i kind
    rw [← Except.ok.inj differences]
    unfold settle
    by_cases same : left = right
    · subst same
      simp
    · by_cases pass : accept ⟨.update, [], some left, some right⟩
      · simp [same, pass, kind, Field.patch, Field.amend, Value.amend]
      · simp [same, pass]
  · cases differences

/-- A change in a map brings a value that is found in the other one, unless it is a removal. -/
theorem StringMap.exists_after_of_mem_changesAt {left right : StringMap Value} {key : String}
    {change : Change} (member : change ∈ left.changesAt right key)
    (addition : change.kind ≠ .delete) :
    ∃ value ∈ right.get? key, change.after = some value := by
  unfold changesAt at member
  split at member
  · cases member
  · rename_i value _ found
    rcases List.mem_singleton.1 member with rfl
    exact ⟨value, found, rfl⟩
  · rcases List.mem_singleton.1 member with rfl
    exact absurd rfl addition
  · rename_i before value _ found
    rcases List.mem_ite_nil_left.1 member with ⟨_, inside⟩
    rcases List.mem_singleton.1 inside with rfl
    exact ⟨value, found, rfl⟩

/-- Nothing can be carried out on a map that comes from a map of values of another type. -/
theorem Field.Takes.patch_crossed {α β : Type} {wrap : α → Value} {otherWrap : β → Value}
    {hold : StringMap α → Field} (takes : Field.Takes wrap hold)
    (apart : ∀ value other, wrap value ≠ otherWrap other) {accept : Acceptance}
    (uniform : accept.Uniform) {left : StringMap α} {right : StringMap β} {changes : List Change}
    (differences : (left.map wrap).diff (right.map otherWrap) = .ok changes) :
    changes.filter accept = [] ∨ ((hold left).patch (changes.filter accept)).2 ≠ none := by
  cases passing : changes.filter accept with
  | nil => exact .inl rfl
  | cons change later =>
    have member : change ∈ changes.filter accept := passing ▸ List.mem_cons_self
    rcases List.mem_filter.1 member with ⟨found, pass⟩
    have addition : change.kind ≠ .delete := by
      intro removal
      rw [uniform.removal change removal] at pass
      cases pass
    rcases StringMap.diff_eq_ok_iff.1 differences with ⟨_, rfl⟩
    rcases List.mem_flatMap.1 found with ⟨key, _, here⟩
    rcases StringMap.exists_after_of_mem_changesAt here addition with ⟨_, inRight, brought⟩
    rw [StringMap.get?_map, Option.mem_def, Option.map_eq_some_iff] at inRight
    rcases inRight with ⟨other, _, rfl⟩
    refine .inr fun done => ?_
    rw [Field.patch] at done
    split at done
    · rename_i amended ran
      rcases takes left change change.path amended addition ran with ⟨_, value, _, taken, _⟩
      exact apart value other (Option.some.inj (taken.symm.trans brought))
    · cases done

mutual

theorem Field.patch_settle : ∀ {accept : Acceptance} {left right : Field}
    {changes : List Change}, accept.Uniform → left.Distinct → left.HasRoomFor right →
    left.diff right = .ok changes →
    left.patch (changes.filter accept) = (left.settle accept right, none) ∨
      left.layout ≠ right.layout ∧ (left.patch (changes.filter accept)).2 ≠ none
  | _, .scalar _, .scalar _, _, _, _, _, differences => .inl (Value.patch_settle differences)
  | _, .texts _, .texts _, _, uniform, _, _, differences =>
    .inl (Field.holds_texts.patch_settle (fun _ _ => Value.text.inj) uniform differences)
  | _, .flags _, .flags _, _, uniform, _, _, differences =>
    .inl (Field.holds_flags.patch_settle (fun _ _ => Value.flag.inj) uniform differences)
  | accept, .texts left, .flags right, changes, uniform, _, _, differences => by
    rcases Field.takes_texts.patch_crossed (fun _ _ same => by cases same) uniform differences with
      nothing | failed
    · exact .inl (by rw [nothing]; rfl)
    · exact .inr ⟨nofun, failed⟩
  | accept, .flags left, .texts right, changes, uniform, _, _, differences => by
    rcases Field.takes_flags.patch_crossed (fun _ _ same => by cases same) uniform differences with
      nothing | failed
    · exact .inl (by rw [nothing]; rfl)
    · exact .inr ⟨nofun, failed⟩
  | accept, .absent blank, .present record, changes, uniform, distinct, room, differences => by
    rw [← Except.ok.inj differences, uniform.filter_created, Field.settle]
    split
    · rename_i some
      obtain ⟨leaf, member, _⟩ := List.any_eq_true.1 some
      have additions : record.leaves.map Leaf.created ≠ [] :=
        List.ne_nil_of_mem (List.mem_map_of_mem member)
      rw [Field.patch_absent blank record.inside_created record.not_delete_created additions]
      rcases room with rfl | rfl
      · -- nothing can be added to a record of which no attribute is known
        obtain ⟨name, path, _, named⟩ := Record.path_of_mem_leaves member
        refine .inr ⟨fun same => ?_, ?_⟩
        · have empty : record.names = [] := by
            rw [← Record.names_layout, ← Field.absent.inj same]
            rfl
          rw [empty] at named
          cases named
        · cases leaves : record.leaves with
          | nil => rw [leaves] at member; cases member
          | cons first others =>
            obtain ⟨firstName, firstPath, equal, _⟩ :=
              Record.path_of_mem_leaves (leaves ▸ List.mem_cons_self : first ∈ record.leaves)
            simp [Patched.map, Record.patch, Record.apply, Leaf.created, equal, Record.amendAt]
      · rw [Record.patch_created record distinct]
        exact .inl rfl
    · exact .inl rfl
  | accept, .present record, .absent blank, changes, uniform, _, _, differences => by
    rw [← Except.ok.inj differences, uniform.filter_deleted]
    exact .inl rfl
  | accept, .absent blank, .absent other, changes, _, _, _, differences => by
    rw [← Except.ok.inj differences]
    exact .inl rfl
  | accept, .present left, .present right, changes, uniform, distinct, room, differences => by
    obtain ⟨_, fields⟩ := Record.diff_eq_ok_iff.1 differences
    rw [Field.patch_present left (Record.inside_filter accept fields)]
    rcases Record.patch_settle uniform.under distinct room fields with done | ⟨layout, failed⟩
    · exact .inl (by rw [done]; rfl)
    · exact .inr ⟨fun same => layout (Field.absent.inj same), failed⟩

/-- Carrying out what passes leads to the settled record, or fails; the latter only for
records of different layouts. -/
theorem Record.patch_settle : ∀ {accept : Acceptance} {left right : Record}
    {changes : List Change}, (∀ name, (accept.under name).Uniform) → left.Distinct →
    left.HasRoomFor right → left.diffFields right = .ok changes →
    left.patch (changes.filter accept) = (left.settle accept right, none) ∨
      left.layout ≠ right.layout ∧ (left.patch (changes.filter accept)).2 ≠ none
  | accept, .nil, _, changes, _, _, _, differences => by
    rw [Record.eq_nil_of_diffFields (.inl rfl) differences]
    exact .inl rfl
  | accept, .cons name field rest, .nil, changes, _, _, _, differences => by
    rw [Record.eq_nil_of_diffFields (.inr rfl) differences]
    exact .inl rfl
  | accept, .cons name field rest, .cons otherName other otherRest, changes, uniform, distinct,
      room, differences => by
    obtain ⟨rfl, inner, late, fieldDiff, restDiff, rfl⟩ :=
      Record.diffFields_cons_eq_ok_iff.1 differences
    obtain ⟨notLater, fieldDistinct, restDistinct⟩ := distinct
    have inside := Record.inside_filter accept restDiff
    rw [List.filter_append, Acceptance.filter_map_under]
    rcases Field.patch_settle (uniform name) fieldDistinct room.1 fieldDiff with
      done | ⟨layout, failed⟩
    · rcases Record.patch_settle uniform restDistinct room.2 restDiff with
        restDone | ⟨layout, failed⟩
      · exact .inl ((Record.patch_parts_eq_iff notLater inside).2 ⟨_, _, done, restDone, rfl⟩)
      · refine .inr ⟨fun same => layout (Record.cons.inj same).2.2, fun whole => failed ?_⟩
        obtain ⟨_, _, _, restDone, _⟩ :=
          (Record.patch_parts_eq_iff notLater inside).1 (Prod.ext rfl whole)
        rw [restDone]
    · refine .inr ⟨fun same => layout (Record.cons.inj same).2.1, fun whole => failed ?_⟩
      obtain ⟨_, _, done, _, _⟩ :=
        (Record.patch_parts_eq_iff notLater inside).1 (Prod.ext rfl whole)
      rw [done]

end

/-! ## Records of one layout -/

mutual

theorem Field.exists_diff_of_layout_eq : ∀ {left right : Field}, left.layout = right.layout →
    ∃ changes, left.diff right = .ok changes
  | .scalar left, .scalar right, same => by
    exact ⟨_, if_pos (Value.blank_inj (Field.scalar.inj same))⟩
  | .texts left, .texts right, _ => by
    refine ⟨_, StringMap.diff_eq_ok_iff.2 ⟨fun key before found after foundAfter => ?_, rfl⟩⟩
    exact StringMap.kind_of_get?_map (fun _ _ => rfl) found foundAfter
  | .flags left, .flags right, _ => by
    refine ⟨_, StringMap.diff_eq_ok_iff.2 ⟨fun key before found after foundAfter => ?_, rfl⟩⟩
    exact StringMap.kind_of_get?_map (fun _ _ => rfl) found foundAfter
  | .absent _, .absent _, _ => ⟨_, rfl⟩
  | .absent _, .present _, _ => ⟨_, rfl⟩
  | .present _, .absent _, _ => ⟨_, rfl⟩
  | .present left, .present right, same => Record.exists_diff_of_layout_eq (Field.absent.inj same)

theorem Record.exists_diff_of_layout_eq : ∀ {left right : Record}, left.layout = right.layout →
    ∃ changes, left.diff right = .ok changes
  | .nil, .nil, _ => ⟨_, rfl⟩
  | .cons name field rest, .cons otherName other otherRest, same => by
    obtain ⟨names, fields, rests⟩ := Record.cons.inj same
    obtain ⟨inner, fieldDiff⟩ := Field.exists_diff_of_layout_eq fields
    obtain ⟨late, restDiff⟩ := Record.exists_diff_of_layout_eq rests
    obtain ⟨sizes, restFields⟩ := Record.diff_eq_ok_iff.1 restDiff
    refine ⟨inner.map (·.under name) ++ late, Record.diff_eq_ok_iff.2 ⟨?_, ?_⟩⟩
    · exact congrArg (· + 1) sizes
    · exact Record.diffFields_cons_eq_ok_iff.2 ⟨names, inner, late, fieldDiff, restFields, rfl⟩

end

mutual

theorem Field.layout_settle (accept : Acceptance) : ∀ {left right : Field},
    left.layout = right.layout → (left.settle accept right).layout = left.layout
  | .scalar left, .scalar right, same => by
    rw [Field.settle, Value.settle]
    split
    · exact same.symm
    · rfl
  | .texts _, .texts _, _ => rfl
  | .flags _, .flags _, _ => rfl
  | .absent _, .absent _, _ => rfl
  | .absent blank, .present record, same => by
    rw [Field.settle]
    split
    · exact (congrArg Field.absent (Record.layout_filled record)).trans same.symm
    · rfl
  | .present _, .absent _, _ => rfl
  | .present left, .present right, same => by
    rw [Field.settle, Field.layout, Field.layout,
      Record.layout_settle accept (Field.absent.inj same)]

/-- The settled record is of the layout of the two records. -/
theorem Record.layout_settle (accept : Acceptance) : ∀ {left right : Record},
    left.layout = right.layout → (left.settle accept right).layout = left.layout
  | .nil, .nil, _ => rfl
  | .cons name field rest, .cons _ other otherRest, same => by
    obtain ⟨_, fields, rests⟩ := Record.cons.inj same
    rw [Record.settle, Record.layout, Record.layout,
      Field.layout_settle (accept.under name) fields, Record.layout_settle accept rests]

end

end ServerInventory
