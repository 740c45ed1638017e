import ServerInventory.Proofs.Record.Adoption

/-!
What a change that cannot be carried out leaves behind. It brings no data and takes none
away, but a creation or replacement has by then put in place the absent records on its path
(`Record.openedBy`). So of a list of changes that fails, the record has those in front of
the failing one carried out, and that trace of the failing one (`Record.patch_failed`). In a
component the trace can only be firmware without any data (`Identity.openedBy`).
-/

namespace ServerInventory

/-! ## Records along a path -/

mutual

/-- An attribute with the absent records put in place that `path` leads through. -/
def Field.opened (path : List String) : Field → Field
  | .absent blank =>
    match path with
    | [] => .absent blank
    | name :: rest => .present (blank.openedAt name rest)
  | .present record =>
    match path with
    | [] => .present record
    | name :: rest => .present (record.openedAt name rest)
  | field => field

/-- A record with the absent records put in place that `path` leads through inside its first
attribute called `name`. -/
def Record.openedAt (name : String) (path : List String) : Record → Record
  | .nil => .nil
  | .cons first field rest =>
    if first = name then .cons first (field.opened path) rest
    else .cons first field (rest.openedAt name path)

end

@[simp] theorem Field.opened_nil (field : Field) : field.opened [] = field := by
  cases field <;> rfl

/-- An attribute itself is not put in place. -/
@[simp] theorem Record.openedAt_nil : ∀ (name : String) (record : Record),
    record.openedAt name [] = record
  | _, .nil => rfl
  | name, .cons first field rest => by
    rw [openedAt, Field.opened_nil, openedAt_nil name rest, ite_self]

/-- The trace of a change that was not carried out. -/
def Record.openedBy (change : Change) (record : Record) : Record :=
  if change.kind = .delete then record
  else match change.path with
    | [] => record
    | name :: path => record.openedAt name path

/-! ## One change -/

/-- What failed before anything was changed left everything as it was. -/
theorem Value.amend_failed {change : Change} {value after : Value} {obstacle : Obstacle}
    (failed : value.amend change = (after, some obstacle)) : after = value := by
  unfold amend at failed
  split at failed
  · cases failed
  · split at failed
    · exact (Prod.mk.inj failed).1.symm
    · split at failed
      · cases failed
      · exact (Prod.mk.inj failed).1.symm

theorem StringMap.amendText_failed {change : Change} {key : String}
    {entries after : StringMap String} {obstacle : Obstacle}
    (failed : entries.amendText change key = (after, some obstacle)) : after = entries := by
  unfold amendText at failed
  split at failed
  · cases failed
  · split at failed
    · exact (Prod.mk.inj failed).1.symm
    · cases failed
    · exact (Prod.mk.inj failed).1.symm

theorem StringMap.amendFlag_failed {change : Change} {key : String}
    {entries after : StringMap Bool} {obstacle : Obstacle}
    (failed : entries.amendFlag change key = (after, some obstacle)) : after = entries := by
  unfold amendFlag at failed
  split at failed
  · cases failed
  · split at failed
    · exact (Prod.mk.inj failed).1.symm
    · cases failed
    · exact (Prod.mk.inj failed).1.symm

mutual

theorem Field.amend_failed {change : Change} {obstacle : Obstacle} : ∀ {field after : Field}
    {path : List String}, field.amend change path = (after, some obstacle) →
    after = if change.kind = .delete then field else field.opened path
  | .scalar value, after, path, failed => by
    have same : (Field.scalar value).opened path = .scalar value := rfl
    rw [same, ite_self]
    cases path with
    | nil =>
      obtain ⟨part, partFailed, rfl⟩ := Attempt.map_eq_iff.1 failed
      rw [Value.amend_failed partFailed]
    | cons name rest => exact (Prod.mk.inj failed).1.symm
  | .texts entries, after, path, failed => by
    have same : (Field.texts entries).opened path = .texts entries := rfl
    rw [same, ite_self]
    rcases path with _ | ⟨key, _ | ⟨second, rest⟩⟩
    · exact (Prod.mk.inj failed).1.symm
    · obtain ⟨part, partFailed, rfl⟩ := Attempt.map_eq_iff.1 failed
      rw [StringMap.amendText_failed partFailed]
    · exact (Prod.mk.inj failed).1.symm
  | .flags entries, after, path, failed => by
    have same : (Field.flags entries).opened path = .flags entries := rfl
    rw [same, ite_self]
    rcases path with _ | ⟨key, _ | ⟨second, rest⟩⟩
    · exact (Prod.mk.inj failed).1.symm
    · obtain ⟨part, partFailed, rfl⟩ := Attempt.map_eq_iff.1 failed
      rw [StringMap.amendFlag_failed partFailed]
    · exact (Prod.mk.inj failed).1.symm
  | .absent blank, after, [], failed => by
    rw [← (Prod.mk.inj failed).1]
    exact (ite_self _).symm
  | .absent blank, after, name :: rest, failed => by
    rw [Field.amend] at failed
    split at failed
    · cases failed
    · rename_i kept
      obtain ⟨part, partFailed, rfl⟩ := Attempt.map_eq_iff.1 failed
      rw [Record.amendAt_failed partFailed, if_neg kept, if_neg kept]
      rfl
  | .present record, after, [], failed => by
    rw [← (Prod.mk.inj failed).1]
    exact (ite_self _).symm
  | .present record, after, name :: rest, failed => by
    obtain ⟨part, partFailed, rfl⟩ := Attempt.map_eq_iff.1 failed
    rw [Record.amendAt_failed partFailed, apply_ite Field.present]
    rfl

theorem Record.amendAt_failed {change : Change} {obstacle : Obstacle} :
    ∀ {record after : Record} {name : String} {path : List String},
    record.amendAt change name path = (after, some obstacle) →
    after = if change.kind = .delete then record else record.openedAt name path
  | .nil, after, name, path, failed => by
    rw [← (Prod.mk.inj failed).1]
    exact (ite_self _).symm
  | .cons first field rest, after, name, path, failed => by
    rw [Record.openedAt]
    rcases Record.amendAt_cons_eq_iff.1 failed with
      ⟨here, part, partFailed, rfl⟩ | ⟨elsewhere, part, partFailed, rfl⟩
    · rw [if_pos here, Field.amend_failed partFailed, apply_ite (Record.cons first · rest)]
    · rw [if_neg elsewhere, Record.amendAt_failed partFailed, apply_ite (Record.cons first field ·)]

end

/-- A change that cannot be carried out leaves its trace alone. -/
theorem Record.apply_failed {record after : Record} {change : Change} {obstacle : Obstacle}
    (failed : record.apply change = (after, some obstacle)) :
    after = record.openedBy change := by
  unfold apply at failed
  unfold openedBy
  cases path : change.path with
  | nil =>
    rw [path] at failed
    rw [← (Prod.mk.inj failed).1]
    exact (ite_self _).symm
  | cons name rest =>
    rw [path] at failed
    exact amendAt_failed failed

/-! ## A list of changes -/

/-- A list of changes that fails is carried out up to the change that fails, and of that
change there is the trace. -/
theorem Record.patch_failed {record after : Record} {changes : List Change}
    {failure : PatchFailure} (failed : record.patch changes = (after, some failure)) :
    ∃ done later before, changes = done ++ failure.change :: later ∧
      record.patch done = (before, none) ∧ after = before.openedBy failure.change := by
  induction changes generalizing record with
  | nil => cases failed
  | cons change changes ih =>
    rw [patch] at failed
    split at failed
    · rename_i amended carriedOut
      obtain ⟨done, later, before, rfl, doneRun, trace⟩ := ih failed
      refine ⟨change :: done, later, before, rfl, ?_, trace⟩
      rw [patch, carriedOut]
      exact doneRun
    · rename_i amended obstacle stopped
      obtain ⟨rfl, same⟩ := Prod.mk.inj failed
      obtain rfl := Option.some.inj same
      exact ⟨[], changes, record, rfl, rfl, apply_failed stopped⟩

/-! ## Changes keep the layout -/

mutual

/-- A record that is absent from the attribute would be put in place without any data. -/
def Field.Bare : Field → Prop
  | .absent blank => blank.layout = blank ∧ blank.Bare
  | .present record => record.Bare
  | _ => True

/-- Every record inside that is absent would be put in place without any data. -/
def Record.Bare : Record → Prop
  | .nil => True
  | .cons _ field rest => field.Bare ∧ rest.Bare

end

mutual

theorem Field.bare_layout_iff : ∀ field : Field, field.layout.Bare ↔ field.Bare
  | .scalar _ => Iff.rfl
  | .texts _ => Iff.rfl
  | .flags _ => Iff.rfl
  | .absent _ => Iff.rfl
  | .present record =>
    (and_iff_right record.layout_layout).trans (Record.bare_layout_iff record)

/-- Whether absent records are without data is a matter of the layout. -/
theorem Record.bare_layout_iff : ∀ record : Record, record.layout.Bare ↔ record.Bare
  | .nil => Iff.rfl
  | .cons _ field rest =>
    and_congr (Field.bare_layout_iff field) (Record.bare_layout_iff rest)

end

theorem Record.bare_append : ∀ {left right : Record}, left.Bare → right.Bare →
    (left ++ right).Bare
  | .nil, _, _, rightBare => rightBare
  | .cons _ _ _, _, ⟨fieldBare, restBare⟩, rightBare =>
    ⟨fieldBare, bare_append restBare rightBare⟩

theorem Value.kind_amend (change : Change) (value : Value) :
    (value.amend change).1.kind = value.kind := by
  unfold amend
  split
  · exact kind_blank value.kind
  · split
    · rfl
    · split
      · rename_i same
        exact same
      · rfl

mutual

theorem Field.layout_amend (change : Change) : ∀ {field : Field} (path : List String),
    field.Bare → (field.amend change path).1.layout = field.layout
  | .scalar value, [], _ =>
    congrArg (fun kind => Field.scalar (.blank kind)) (value.kind_amend change)
  | .scalar _, _ :: _, _ => rfl
  | .texts _, [], _ => rfl
  | .texts _, [_], _ => rfl
  | .texts _, _ :: _ :: _, _ => rfl
  | .flags _, [], _ => rfl
  | .flags _, [_], _ => rfl
  | .flags _, _ :: _ :: _, _ => rfl
  | .absent _, [], _ => rfl
  | .absent blank, name :: rest, ⟨without, bare⟩ => by
    rw [Field.amend]
    split
    · rfl
    · change Field.absent (blank.amendAt change name rest).1.layout = .absent blank
      rw [Record.layout_amendAt change name rest bare, without]
  | .present _, [], _ => rfl
  | .present _, name :: rest, bare =>
    congrArg Field.absent (Record.layout_amendAt change name rest bare)

theorem Record.layout_amendAt (change : Change) (name : String) (path : List String) :
    ∀ {record : Record}, record.Bare → (record.amendAt change name path).1.layout = record.layout
  | .nil, _ => rfl
  | .cons first field rest, ⟨fieldBare, restBare⟩ => by
    rw [Record.amendAt]
    split
    · exact congrArg (Record.cons first · rest.layout) (Field.layout_amend change path fieldBare)
    · exact congrArg (Record.cons first field.layout)
        (Record.layout_amendAt change name path restBare)

end

theorem Record.layout_apply {record : Record} (change : Change) (bare : record.Bare) :
    (record.apply change).1.layout = record.layout := by
  unfold apply
  split
  · rfl
  · exact layout_amendAt change _ _ bare

/-- Changes, carried out as far as they go, keep the layout of a record. -/
theorem Record.layout_patch (changes : List Change) : ∀ {record : Record}, record.Bare →
    (record.patch changes).1.layout = record.layout := by
  induction changes with
  | nil => exact fun _ => rfl
  | cons change changes ih =>
    intro record bare
    have kept := layout_apply change bare
    rw [patch]
    split
    · rename_i amended carriedOut
      rw [carriedOut] at kept
      have amendedBare : amended.Bare :=
        (bare_layout_iff amended).1 (kept ▸ (bare_layout_iff record).2 bare)
      exact (ih amendedBare).trans kept
    · rename_i amended obstacle stopped
      rw [stopped] at kept
      exact kept

/-! ## Components -/

/-- If the changes of a component fail, they are carried out up to the one that fails, and
of that one there is the trace. -/
def PatchesUpTo (α : Type) [Recordable α] (changes : List Change) (trace : Change → α → α) :
    Prop :=
  ∀ (known after : α) (error : Error), patch known changes = (after, some error) →
    ∃ (done : List Change) (failure : PatchFailure) (later : List Change) (before : α),
      changes = done ++ failure.change :: later ∧ failure.error = error ∧
      patch known done = (before, none) ∧ after = trace failure.change before

theorem LawfulRecordable.patchesUpTo {α : Type} [Recordable α] [LawfulRecordable α]
    {changes : List Change} {trace : Change → α → α}
    (bare : ∀ value : α, (Recordable.record value).layout.Bare)
    (opens : ∀ change value, (Recordable.record value).openedBy change =
      Recordable.record (trace change value)) : PatchesUpTo α changes trace := by
  intro known after error failed
  unfold patch at failed
  cases run : (Recordable.record known).patch changes with
  | mk reached failure? =>
    rw [run] at failed
    obtain ⟨rfl, outcome⟩ := Prod.mk.inj failed
    obtain ⟨failure, rfl, rfl⟩ := Option.map_eq_some_iff.1 outcome
    obtain ⟨done, later, before, rfl, doneRun, rfl⟩ := Record.patch_failed run
    have kept := Record.layout_patch done
      ((Record.bare_layout_iff (Recordable.record known)).1 (bare known))
    rw [doneRun] at kept
    obtain ⟨value, rfl⟩ := LawfulRecordable.exists_record known before kept
    refine ⟨done, failure, later, value, rfl, rfl, ?_, ?_⟩
    · unfold patch
      rw [doneRun]
      exact congrArg (·, none) (LawfulRecordable.ofRecord_record value)
    · rw [opens, LawfulRecordable.ofRecord_record]

namespace Record

/-- In a record without records inside there is nothing to put in place. -/
theorem openedAt_of_flat (name : String) (path : List String) : ∀ {record : Record},
    record.Flat → record.openedAt name path = record
  | .nil, _ => rfl
  | .cons first field rest, ⟨plain, restFlat⟩ => by
    have here : field.opened path = field := by
      cases field with
      | absent blank => exact absurd rfl plain
      | present record => exact absurd rfl plain
      | _ => rfl
    rw [openedAt, here, openedAt_of_flat name path restFlat, ite_self]

theorem openedBy_of_flat (change : Change) {record : Record} (flat : record.Flat) :
    record.openedBy change = record := by
  unfold openedBy
  split
  · rfl
  · split
    · rfl
    · exact openedAt_of_flat _ _ flat

theorem openedAt_append (name : String) (path : List String) : ∀ {left right : Record},
    right.Flat → (left ++ right).openedAt name path = left.openedAt name path ++ right
  | .nil, _, flat => openedAt_of_flat name path flat
  | .cons first field rest, right, flat => by
    change (Record.cons first field (rest ++ right)).openedAt name path = _
    rw [openedAt, openedAt, openedAt_append name path flat]
    split <;> rfl

theorem openedBy_append (change : Change) {left right : Record} (flat : right.Flat) :
    (left ++ right).openedBy change = left.openedBy change ++ right := by
  unfold openedBy
  split
  · rfl
  · split
    · rfl
    · exact openedAt_append _ _ flat

end Record

/-- Whether a change brings something into the firmware of a component. -/
def Change.entersFirmware (change : Change) : Bool :=
  change.kind ≠ .delete && match change.path with
    | first :: _ :: _ => first == "Firmware"
    | _ => false

/-- The identity with firmware put in place that the change enters. -/
def Identity.openedBy (change : Change) (identity : Identity) : Identity :=
  { identity with
    firmware :=
      if change.entersFirmware then some (identity.firmware.getD {}) else identity.firmware }

theorem Identity.openedBy_record (change : Change) (identity : Identity) :
    identity.record.openedBy change = (identity.openedBy change).record := by
  unfold Record.openedBy openedBy Change.entersFirmware
  by_cases removal : change.kind = .delete
  · simp [removal]
  · rcases change.path with _ | ⟨first, _ | ⟨second, path⟩⟩
    · simp [removal]
    · simp [removal]
    · by_cases here : first = "Firmware"
      · subst here
        cases firmware : identity.firmware <;>
          simp [removal, record, Record.ofList, Record.openedAt, Field.opened, firmwareField,
            firmware, Firmware.record]
      · simp [removal, here, record, Record.ofList, Record.openedAt, Field.opened, Ne.symm here]

/-- An identity stays as it was unless the change enters firmware that is not there. -/
theorem Identity.openedBy_eq_iff (change : Change) (identity : Identity) :
    identity.openedBy change = identity ↔
      (change.entersFirmware = true → identity.firmware ≠ none) := by
  obtain ⟨_, _, _, _, _, _, firmware, _⟩ := identity
  cases firmware <;> simp [openedBy]

theorem Identity.bare (identity : Identity) : (Recordable.record identity).layout.Bare := by
  change identity.record.layout.Bare
  rw [identity.layout_record]
  simp [Record.ofList, Record.Bare, Field.Bare, Firmware.record, Record.layout, Field.layout,
    Value.blank, Value.kind]

theorem PatchesUpTo.of_parts {α : Type} [Recordable α] [LawfulRecordable α] {own : Record}
    (parts : ExtendsIdentity α own) (bare : own.Bare) {changes : List Change}
    {trace : Change → α → α}
    (opens : ∀ change value, ∃ identity rest,
      Recordable.record value = Identity.record identity ++ rest ∧ rest.Flat ∧
      Recordable.record (trace change value) = (identity.openedBy change).record ++ rest) :
    PatchesUpTo α changes trace := by
  refine LawfulRecordable.patchesUpTo (fun value => ?_) fun change value => ?_
  · rw [parts.layout_eq]
    exact Record.bare_append (Identity.bare {}) bare
  · obtain ⟨identity, rest, valueParts, flat, traceParts⟩ := opens change value
    rw [valueParts, traceParts, Record.openedBy_append change flat, Identity.openedBy_record]

/-- Changes of a component that fail are carried out up to the one that fails. That one
brings no data and leaves the component as it was, unless it would have created or changed
something in firmware that is not there: then there is firmware afterwards, without any
data. -/
theorem patch_fails_upTo (changes : List Change) :
    PatchesUpTo Identity changes Identity.openedBy ∧
      PatchesUpTo Firmware changes (fun _ firmware => firmware) ∧
      PatchesUpTo Drive changes (fun change drive =>
        { drive with toIdentity := drive.toIdentity.openedBy change }) ∧
      PatchesUpTo Nic changes (fun change nic =>
        { nic with toIdentity := nic.toIdentity.openedBy change }) ∧
      PatchesUpTo Bmc changes (fun change bmc =>
        { bmc with toIdentity := bmc.toIdentity.openedBy change }) ∧
      PatchesUpTo Bios changes (fun change bios =>
        { bios with toIdentity := bios.toIdentity.openedBy change }) ∧
      PatchesUpTo Cpld changes (fun change cpld =>
        { cpld with toIdentity := cpld.toIdentity.openedBy change }) ∧
      PatchesUpTo StorageController changes (fun change controller =>
        { controller with toIdentity := controller.toIdentity.openedBy change }) ∧
      ∀ (change : Change) (identity : Identity), identity.openedBy change = identity ↔
        (change.entersFirmware = true → identity.firmware ≠ none) := by
  have firmwareFlat : ∀ firmware : Firmware, firmware.record.Flat := by
    simp [Firmware.record, Record.ofList, Record.Flat, Field.shape]
  refine ⟨LawfulRecordable.patchesUpTo Identity.bare Identity.openedBy_record,
    LawfulRecordable.patchesUpTo (fun _ => ⟨trivial, trivial, trivial, trivial⟩)
      fun change firmware => Record.openedBy_of_flat change (firmwareFlat firmware),
    .of_parts Drive.extendsIdentity ?_ fun change drive =>
      ⟨drive.toIdentity, _, rfl, ?_, rfl⟩,
    .of_parts Nic.extendsIdentity ?_ fun change nic => ⟨nic.toIdentity, _, rfl, ?_, rfl⟩,
    .of_parts Bmc.extendsIdentity ?_ fun change bmc => ⟨bmc.toIdentity, _, rfl, ?_, rfl⟩,
    .of_parts Bios.extendsIdentity ?_ fun change bios => ⟨bios.toIdentity, _, rfl, ?_, rfl⟩,
    .of_parts Cpld.extendsIdentity trivial fun change cpld =>
      ⟨cpld.toIdentity, .nil, (Record.append_nil _).symm, trivial, (Record.append_nil _).symm⟩,
    .of_parts StorageController.extendsIdentity ?_ fun change controller =>
      ⟨controller.toIdentity, _, rfl, ?_, rfl⟩,
    Identity.openedBy_eq_iff⟩
  all_goals simp [Record.ofList, Record.Bare, Field.Bare, Record.Flat, Field.shape]

/-- A vendor that is added in front of a change to an attribute that firmware does not have,
and a model behind it. -/
theorem patch_fails_upTo_unknownField :
    let change : Change := ⟨.create, ["Firmware", "Nope"], none, some (.text "x")⟩
    let changes : List Change := [⟨.create, ["Vendor"], none, some (.text "Acme")⟩, change,
      ⟨.create, ["Model"], none, some (.text "X1")⟩]
    let error : Error := .patch "Firmware.Nope" "unknown field 'Nope'"
    let after : Drive := { vendor := "Acme", firmware := some {} }
    patch {} changes = (after, some error) ∧
      ∃ (done : List Change) (failure : PatchFailure) (later : List Change) (before : Drive),
        changes = done ++ failure.change :: later ∧ failure.error = error ∧
        patch {} done = (before, none) ∧
        after = { before with toIdentity := before.toIdentity.openedBy failure.change } := by
  intro change changes error after
  have failed : patch {} changes = (after, some error) := by decide +kernel
  exact ⟨failed, (patch_fails_upTo changes).2.2.1 {} after error failed⟩

/-- A change that fails inside absent firmware does not leave the drive as it was. -/
theorem failing_change_leaves_firmware :
    let change : Change := ⟨.create, ["Firmware", "Nope"], none, some (.text "x")⟩
    let after : Drive := { firmware := some {} }
    patch {} [change] = (after, some (.patch "Firmware.Nope" "unknown field 'Nope'")) ∧
      patch ({} : Drive) [] = ({}, none) ∧ after ≠ {} := by
  decide +kernel

end ServerInventory
