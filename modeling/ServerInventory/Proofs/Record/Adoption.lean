import ServerInventory.Proofs.Device.Lawful

/-!
All differences carried out, removals among them. Of two records of one layout the first one
then holds what the second one does, but a record inside it that the second one lacks is
only cleared, not taken away (`Record.adopt`, `Record.patch_diffFields`). The one record
inside a component is its firmware, so a component becomes the other one but for firmware
that is there without any data (`Identity.adopting`).
-/

namespace ServerInventory

/-! ## Maps -/

namespace StringMap

variable {α : Type}

/-- The map with a value under a key, or without the key. -/
def withAt (map : StringMap α) (key : String) : Option α → StringMap α
  | none => map.erase key
  | some value => map.insert key value

@[simp] theorem get?_withAt (map : StringMap α) (key other : String) (value? : Option α) :
    (map.withAt key value?).get? other = if other = key then value? else map.get? other := by
  cases value? with
  | none => exact get?_erase map key other
  | some value => exact get?_insert map key other value

theorem withAt_self (map : StringMap α) (key : String) : map.withAt key (map.get? key) = map := by
  refine ext_get? fun other => ?_
  rw [get?_withAt]
  split
  · rename_i here
    rw [here]
  · rfl

/-- A look-up after another map was taken over at some keys. -/
theorem get?_foldl_withAt (right : StringMap α) (keys : List String) (start : StringMap α)
    (key : String) :
    (keys.foldl (fun map key => map.withAt key (right.get? key)) start).get? key =
      if key ∈ keys then right.get? key else start.get? key := by
  induction keys generalizing start with
  | nil => simp
  | cons first rest ih =>
    rw [List.foldl_cons, ih, get?_withAt]
    by_cases later : key ∈ rest
    · simp [later]
    · by_cases here : key = first <;> simp [later, here]

/-- A map becomes another one if that is taken over at all keys of the two. -/
theorem foldl_withAt_unionKeys (left right : StringMap α) :
    (left.unionKeys right).foldl (fun map key => map.withAt key (right.get? key)) left =
      right := by
  refine ext_get? fun key => ?_
  rw [get?_foldl_withAt]
  split
  · rfl
  · rename_i outside
    simp only [mem_unionKeys, ne_eq, not_or, not_not] at outside
    rw [outside.1, outside.2]

end StringMap

section

variable {α : Type} {wrap : α → Value} {hold : StringMap α → Field}

/-- `hold` keeps a map in an attribute from which a removal at a key takes the entry. -/
def Field.Sheds (hold : StringMap α → Field) : Prop :=
  ∀ (entries : StringMap α) (change : Change) (key : String), change.kind = .delete →
    (hold entries).amend change [key] = (hold (entries.erase key), none)

theorem Field.sheds_texts : Field.Sheds .texts := by
  intro entries change key removal
  simp [Field.amend, StringMap.amendText, removal]

theorem Field.sheds_flags : Field.Sheds .flags := by
  intro entries change key removal
  simp [Field.amend, StringMap.amendFlag, removal]

/-- The changes at one key take over what the other map holds there. -/
theorem Field.Holds.patch_changesAt (holds : Field.Holds wrap hold) (sheds : Field.Sheds hold)
    {left right start : StringMap α} {key : String} (injective : wrap.Injective)
    (untouched : start.get? key = left.get? key) :
    (hold start).patch ((left.map wrap).changesAt (right.map wrap) key) =
      (hold (start.withAt key (right.get? key)), none) := by
  have kept : ∀ value?, left.get? key = value? → start.withAt key value? = start := by
    rintro _ rfl
    rw [← untouched, StringMap.withAt_self]
  unfold StringMap.changesAt
  rw [StringMap.get?_map, StringMap.get?_map]
  cases before : left.get? key with
  | none =>
    cases right.get? key with
    | none =>
      rw [kept none before]
      rfl
    | some value => exact patch_cons_of_amend (holds start _ key value (by simp) rfl) []
  | some value =>
    cases right.get? key with
    | none => exact patch_cons_of_amend (sheds start _ key rfl) []
    | some other =>
      by_cases same : value = other
      · rw [← same, kept (some value) before]
        simp
      · have different : wrap value ≠ wrap other := fun equal => same (injective equal)
        simp only [Option.map_some, if_neg different]
        exact patch_cons_of_amend (holds start _ key other (by simp) rfl) []

/-- Carrying out the differences of two maps leads from the one to the other. -/
theorem Field.Holds.patch_diff (holds : Field.Holds wrap hold) (sheds : Field.Sheds hold)
    (injective : wrap.Injective) {left right : StringMap α} {changes : List Change}
    (differences : (left.map wrap).diff (right.map wrap) = .ok changes) :
    (hold left).patch changes = (hold right, none) := by
  have along : ∀ (keys : List String) (start : StringMap α), keys.Nodup →
      (∀ key ∈ keys, start.get? key = left.get? key) →
      (hold start).patch (keys.flatMap ((left.map wrap).changesAt (right.map wrap))) =
        (hold (keys.foldl (fun map key => map.withAt key (right.get? key)) start), none) := by
    intro keys
    induction keys with
    | nil => exact fun start _ _ => rfl
    | cons key rest ih =>
      intro start nodup untouched
      obtain ⟨notLater, restNodup⟩ := List.nodup_cons.1 nodup
      obtain ⟨here, later⟩ := List.forall_mem_cons.1 untouched
      rw [List.flatMap_cons, List.foldl_cons, patch_append,
        holds.patch_changesAt sheds injective here]
      refine ih _ restNodup fun other member => ?_
      have different : other ≠ key := fun same => notLater (same ▸ member)
      rw [StringMap.get?_withAt, if_neg different, later other member]
  obtain ⟨_, rfl⟩ := StringMap.diff_eq_ok_iff.1 differences
  rw [StringMap.unionKeys_map]
  have nodup : (left.unionKeys right).Nodup :=
    (StringMap.pairwise_unionKeys left right).imp String.ne_of_lt
  rw [along _ left nodup fun _ _ => rfl, StringMap.foldl_withAt_unionKeys]

/-- Taking the entries of a map away one by one leaves the empty map. -/
theorem Field.Sheds.patch_deleted (sheds : Field.Sheds hold) (map : StringMap α) :
    (hold map).patch ((map.entries.map fun entry => ([entry.1], wrap entry.2)).map Leaf.deleted) =
      (hold ∅, none) := by
  have along : ∀ (pairs : List (String × α)) (start : StringMap α),
      (hold start).patch ((pairs.map fun entry => ([entry.1], wrap entry.2)).map Leaf.deleted) =
        (hold ((pairs.map Prod.fst).foldl
          (fun map key => map.withAt key ((∅ : StringMap α).get? key)) start), none) := by
    intro pairs
    induction pairs with
    | nil => exact fun start => rfl
    | cons entry rest ih =>
      intro start
      rw [List.map_cons, List.map_cons, List.map_cons, List.foldl_cons, ← ih]
      exact patch_cons_of_amend (sheds start _ entry.1 rfl) _
  rw [along map.entries map]
  refine congrArg (fun map => (hold map, none)) (StringMap.ext_get? fun key => ?_)
  rw [StringMap.get?_foldl_withAt]
  split
  · rfl
  · rename_i outside
    exact not_not.1 fun found => outside (StringMap.mem_keys.2 found)

end

/-! ## Records that are taken away -/

mutual

/-- An attribute without what is in it. -/
def Field.emptied : Field → Field
  | .scalar value => .scalar (.blank value.kind)
  | .texts _ => .texts ∅
  | .flags _ => .flags ∅
  | .absent blank => .absent blank
  | .present record => .present record.emptied

/-- A record without its data, but with all the records inside it that are there. -/
def Record.emptied : Record → Record
  | .nil => .nil
  | .cons name field rest => .cons name field.emptied rest.emptied

end

/-- The removals of all leaves of a record are inside its attributes. -/
theorem Record.inside_deleted (record : Record) :
    ∀ change ∈ record.leaves.map Leaf.deleted, change.Inside record.names := by
  intro change member
  obtain ⟨leaf, inside, rfl⟩ := List.mem_map.1 member
  exact path_of_mem_leaves inside

/-- The leaves of the first attribute are taken away under its name. -/
theorem Record.map_deleted_cons (name : String) (field : Field) (rest : Record) :
    (Record.cons name field rest).leaves.map Leaf.deleted =
      (field.leaves.map Leaf.deleted).map (·.under name) ++ rest.leaves.map Leaf.deleted := by
  rw [Record.leaves, List.map_append, List.map_map, List.map_map]
  rfl

mutual

theorem Field.patch_deleted : ∀ field : Field, field.Distinct →
    field.patch (field.leaves.map Leaf.deleted) = (field.emptied, none)
  | .scalar _, _ => rfl
  | .texts entries, _ => Field.sheds_texts.patch_deleted entries
  | .flags entries, _ => Field.sheds_flags.patch_deleted entries
  | .absent _, _ => rfl
  | .present record, distinct => by
    rw [Field.leaves, Field.patch_present record record.inside_deleted,
      Record.patch_deleted record distinct]
    rfl

/-- All leaves of a record taken away, where no name occurs twice at one level. -/
theorem Record.patch_deleted : ∀ record : Record, record.Distinct →
    record.patch (record.leaves.map Leaf.deleted) = (record.emptied, none)
  | .nil, _ => rfl
  | .cons name field rest, ⟨notLater, fieldDistinct, restDistinct⟩ => by
    rw [Record.map_deleted_cons]
    exact (Record.patch_parts_eq_iff notLater rest.inside_deleted).2
      ⟨field.emptied, rest.emptied, Field.patch_deleted field fieldDistinct,
        Record.patch_deleted rest restDistinct, rfl⟩

end

/-! ## All differences carried out -/

mutual

/-- An attribute with all changes that lead to another one carried out. -/
def Field.adopt : Field → Field → Field
  | .present record, .absent _ => .present record.emptied
  | .present left, .present right => .present (left.adopt right)
  | .absent blank, .present record =>
    if record.leaves.isEmpty then .absent blank else .present record.filled
  | _, right => right

/-- A record with all changes that lead to another one carried out: what the other one has,
but that a record inside is not taken away again and is not put in place without a leaf. -/
def Record.adopt : Record → Record → Record
  | .cons name field rest, .cons _ other otherRest =>
    .cons name (field.adopt other) (rest.adopt otherRest)
  | left, _ => left

end

theorem Value.patch_diff {left right : Value} {changes : List Change}
    (differences : left.diff right = .ok changes) :
    (Field.scalar left).patch changes = (.scalar right, none) := by
  unfold diff at differences
  split at differences
  · rename_i kind
    obtain rfl := Except.ok.inj differences
    by_cases same : left = right
    · rw [if_pos same, same]
      rfl
    · rw [if_neg same]
      refine Field.patch_cons_of_amend ?_ []
      simp [Field.amend, Value.amend, kind]
  · cases differences

mutual

theorem Field.patch_diff : ∀ {left right : Field} {changes : List Change},
    left.layout = right.layout → left.Distinct → left.diff right = .ok changes →
    left.patch changes = (left.adopt right, none)
  | .scalar _, .scalar _, _, _, _, differences => Value.patch_diff differences
  | .texts _, .texts _, _, _, _, differences =>
    Field.holds_texts.patch_diff Field.sheds_texts (fun _ _ => Value.text.inj) differences
  | .flags _, .flags _, _, _, _, differences =>
    Field.holds_flags.patch_diff Field.sheds_flags (fun _ _ => Value.flag.inj) differences
  | .absent blank, .absent other, _, layout, _, differences => by
    obtain rfl := Field.absent.inj layout
    rw [← Except.ok.inj differences]
    rfl
  | .absent blank, .present record, _, layout, distinct, differences => by
    have created := Field.patch_created (.present record) (layout ▸ distinct)
    rw [← layout] at created
    rw [← Except.ok.inj differences]
    refine created.trans ?_
    rw [Field.adopt, Field.filled, ← Field.absent.inj layout]
  | .present record, .absent _, _, _, distinct, differences => by
    rw [← Except.ok.inj differences]
    exact Field.patch_deleted (.present record) distinct
  | .present left, .present right, changes, layout, distinct, differences => by
    obtain ⟨_, fields⟩ := Record.diff_eq_ok_iff.1 differences
    rw [Field.patch_present left (Record.path_of_mem_diffFields fields),
      Record.patch_diffFields (Field.absent.inj layout) distinct fields]
    rfl

/-- All differences of two records of one layout can be carried out. -/
theorem Record.patch_diffFields : ∀ {left right : Record} {changes : List Change},
    left.layout = right.layout → left.Distinct → left.diffFields right = .ok changes →
    left.patch changes = (left.adopt right, none)
  | .nil, .nil, _, _, _, differences => by
    rw [← Except.ok.inj differences]
    rfl
  | .cons name field rest, .cons otherName other otherRest, _, layout,
      ⟨notLater, fieldDistinct, restDistinct⟩, differences => by
    obtain ⟨_, fieldLayout, restLayout⟩ := Record.cons.inj layout
    obtain ⟨rfl, inner, late, fieldDiff, restDiff, rfl⟩ :=
      Record.diffFields_cons_eq_ok_iff.1 differences
    have inside := Record.path_of_mem_diffFields restDiff
    exact (Record.patch_parts_eq_iff notLater inside).2
      ⟨field.adopt other, rest.adopt otherRest,
        Field.patch_diff fieldLayout fieldDistinct fieldDiff,
        Record.patch_diffFields restLayout restDistinct restDiff, rfl⟩

end

namespace Record

theorem adopt_append : ∀ {left right rest otherRest : Record}, left.layout = right.layout →
    (left ++ rest).adopt (right ++ otherRest) = left.adopt right ++ rest.adopt otherRest
  | .nil, .nil, _, _, _ => rfl
  | .cons name field _, .cons _ other _, _, _, layout =>
    congrArg (Record.cons name (field.adopt other))
      (adopt_append (Record.cons.inj layout).2.2)

/-- Without records inside, a record becomes the other one. -/
theorem adopt_eq_of_flat : ∀ {left right : Record}, left.layout = right.layout → right.Flat →
    left.adopt right = right
  | .nil, .nil, _, _ => rfl
  | .cons name field rest, .cons otherName other otherRest, layout, ⟨plain, restFlat⟩ => by
    obtain ⟨rfl, _, restLayout⟩ := Record.cons.inj layout
    have here : field.adopt other = other := by
      cases other with
      | absent blank => exact absurd rfl plain
      | present record => exact absurd rfl plain
      | _ => cases field <;> rfl
    rw [adopt, here, adopt_eq_of_flat restLayout restFlat]

end Record

/-! ## Components -/

/-- The differences of two components, carried out one by one on the first of them, lead to
the third. -/
def LeadsTo {α : Type} [Recordable α] (known collected after : α) : Prop :=
  ∃ changes, diff known collected = .ok changes ∧ patch known changes = (after, none)

theorem LawfulRecordable.leadsTo {α : Type} [Recordable α] [LawfulRecordable α]
    {known collected after : α}
    (adopted : (Recordable.record known).adopt (Recordable.record collected) =
      Recordable.record after) : LeadsTo known collected after := by
  have layout := LawfulRecordable.layout_record known collected
  obtain ⟨changes, differences⟩ := Record.exists_diff_of_layout_eq layout
  have patched := Record.patch_diffFields layout (LawfulRecordable.distinct_record known)
    (Record.diff_eq_ok_iff.1 differences).2
  refine ⟨changes, diff_eq_ok_of_record differences, ?_⟩
  unfold patch
  rw [patched, adopted]
  exact congrArg (·, none) (LawfulRecordable.ofRecord_record after)

/-- The second identity, with the first one's firmware, cleared, where it has none. -/
def Identity.adopting (known collected : Identity) : Identity :=
  { collected with firmware := collected.firmware.or (known.firmware.map fun _ => {}) }

theorem Identity.adopt_record (known collected : Identity) :
    known.record.adopt collected.record = (known.adopting collected).record := by
  obtain ⟨_, _, _, _, _, _, firmware, _⟩ := known
  obtain ⟨_, _, _, _, _, _, other, _⟩ := collected
  cases firmware <;> cases other <;> rfl

/-- An identity becomes the other one unless it has firmware and the other one has none. -/
theorem Identity.adopting_eq_iff (known collected : Identity) :
    known.adopting collected = collected ↔
      known.firmware = none ∨ collected.firmware ≠ none := by
  obtain ⟨_, _, _, _, _, _, firmware, _⟩ := known
  obtain ⟨_, _, _, _, _, _, other, _⟩ := collected
  cases firmware <;> cases other <;> simp [adopting]

theorem LeadsTo.of_parts {α : Type} [Recordable α] [LawfulRecordable α]
    {known collected after : α} {identity other : Identity} {rest otherRest : Record}
    (knownParts : Recordable.record known = identity.record ++ rest)
    (collectedParts : Recordable.record collected = other.record ++ otherRest)
    (afterParts : Recordable.record after = (identity.adopting other).record ++ otherRest)
    (layout : rest.layout = otherRest.layout) (flat : otherRest.Flat) :
    LeadsTo known collected after := by
  have identities : identity.record.layout = other.record.layout :=
    LawfulRecordable.layout_record identity other
  refine LawfulRecordable.leadsTo ?_
  rw [knownParts, collectedParts, afterParts, Record.adopt_append identities,
    identity.adopt_record other, Record.adopt_eq_of_flat layout flat]

/-- The differences of two components of one type can always be carried out. They lead to the
second one, exactly if it has firmware or the first one has none: otherwise the first one's
firmware is cleared and stays. -/
theorem patch_diff_adopts (known collected : Identity) :
    LeadsTo known collected (known.adopting collected) ∧
      (∀ drive other : Drive,
        LeadsTo { drive with toIdentity := known } { other with toIdentity := collected }
          { other with toIdentity := known.adopting collected }) ∧
      (∀ nic other : Nic,
        LeadsTo { nic with toIdentity := known } { other with toIdentity := collected }
          { other with toIdentity := known.adopting collected }) ∧
      (∀ bmc other : Bmc,
        LeadsTo { bmc with toIdentity := known } { other with toIdentity := collected }
          { other with toIdentity := known.adopting collected }) ∧
      (∀ bios other : Bios,
        LeadsTo { bios with toIdentity := known } { other with toIdentity := collected }
          { other with toIdentity := known.adopting collected }) ∧
      LeadsTo (⟨known⟩ : Cpld) ⟨collected⟩ ⟨known.adopting collected⟩ ∧
      (∀ controller other : StorageController,
        LeadsTo { controller with toIdentity := known } { other with toIdentity := collected }
          { other with toIdentity := known.adopting collected }) ∧
      (∀ firmware other : Firmware, LeadsTo firmware other other) ∧
      (known.adopting collected = collected ↔
        known.firmware = none ∨ collected.firmware ≠ none) := by
  refine ⟨LawfulRecordable.leadsTo (known.adopt_record collected),
    fun drive other => .of_parts rfl rfl rfl rfl ?_, fun nic other => .of_parts rfl rfl rfl rfl ?_,
    fun bmc other => .of_parts rfl rfl rfl rfl ?_, fun bios other => .of_parts rfl rfl rfl rfl ?_,
    LawfulRecordable.leadsTo (known.adopt_record collected),
    fun controller other => .of_parts rfl rfl rfl rfl ?_,
    fun firmware other => LawfulRecordable.leadsTo
      (Record.adopt_eq_of_flat (LawfulRecordable.layout_record firmware other) ?_),
    known.adopting_eq_iff collected⟩
  all_goals simp [Recordable.record, Firmware.record, Record.ofList, Record.Flat, Field.shape]

/-- The running version is taken away, but not the firmware. -/
theorem firmware_stays :
    let known : Drive := { firmware := some (.ofInstalled "1.0") }
    ∃ changes, diff known {} = .ok changes ∧
      patch known changes = ({ firmware := some {} }, none) ∧
      patch known changes ≠ ({}, none) := by
  refine ⟨[⟨.delete, ["Firmware", "Installed"], some (.text "1.0"), none⟩,
    ⟨.delete, ["Firmware", "Available"], some (.text ""), none⟩], ?_, ?_, ?_⟩
  all_goals decide +kernel

end ServerInventory
