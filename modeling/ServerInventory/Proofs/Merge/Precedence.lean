import ServerInventory.Proofs.Device.Lawful
import ServerInventory.Proofs.Merge.Choice

/-!
Which of several reports counts. When fragments are merged into a component one after the
other, each attribute of the result is told by the values that the attribute had in the
component and the fragments, in this order: the first that is known, or the last one where
utilities may correct each other (`Identity.overall` and its like).

* `Drive.combine_eq` and its like: a merge of two components gives what the two say together.
* `mergeEach_overall`: a series of merges gives what all of them say together.
-/

namespace ServerInventory

/-! ## What all the reports say together -/

/-- The firmware versions according to all the reports. -/
def Firmware.overall (all : List Firmware) : Firmware :=
  { installed := firstKnown "" (all.map (·.installed))
    available := firstKnown "" (all.map (·.available))
    metadata := .gather (firstKnown "") (all.map (·.metadata)) }

/-- The identity according to all the reports. Vendor and model follow the last report that
knows them, and whether a utility of the vendor made it is told by the last report. -/
def Identity.overall (all : List Identity) : Identity :=
  { vendor := lastKnown "" (all.map (·.vendor))
    model := lastKnown "" (all.map (·.model))
    serial := firstKnown "" (all.map (·.serial))
    description := firstKnown "" (all.map (·.description))
    productName := firstKnown "" (all.map (·.productName))
    oem := (all.map (·.oem)).getLastD false
    firmware := amongPresent Firmware.overall (all.map (·.firmware))
    metadata := .gather (firstKnown "") (all.map (·.metadata)) }

/-- The drive according to all the reports. Each feature follows the last report of it. -/
def Drive.overall (all : List Drive) : Drive :=
  { toIdentity := .overall (all.map (·.toIdentity))
    protocol := firstKnown "" (all.map (·.protocol))
    driveType := firstKnown "" (all.map (·.driveType))
    logicalName := firstKnown "" (all.map (·.logicalName))
    capacityBytes := firstKnown 0 (all.map (·.capacityBytes))
    blockSizeBytes := firstKnown 0 (all.map (·.blockSizeBytes))
    wwn := firstKnown "" (all.map (·.wwn))
    smartStatus := firstKnown "" (all.map (·.smartStatus))
    storageController := firstKnown "" (all.map (·.storageController))
    capabilities := .gather (·.getLastD false) (all.map (·.capabilities)) }

def Nic.overall (all : List Nic) : Nic :=
  { toIdentity := .overall (all.map (·.toIdentity))
    pciAddress := firstKnown "" (all.map (·.pciAddress))
    speedBits := firstKnown 0 (all.map (·.speedBits))
    physicalId := firstKnown "" (all.map (·.physicalId)) }

def Bmc.overall (all : List Bmc) : Bmc :=
  { toIdentity := .overall (all.map (·.toIdentity))
    id := firstKnown "" (all.map (·.id))
    ipmiVersion := firstKnown "" (all.map (·.ipmiVersion)) }

def Bios.overall (all : List Bios) : Bios :=
  { toIdentity := .overall (all.map (·.toIdentity))
    releaseDate := firstKnown "" (all.map (·.releaseDate))
    sizeBytes := firstKnown 0 (all.map (·.sizeBytes))
    capacityBytes := firstKnown 0 (all.map (·.capacityBytes)) }

def Cpld.overall (all : List Cpld) : Cpld :=
  { toIdentity := .overall (all.map (·.toIdentity)) }

def StorageController.overall (all : List StorageController) : StorageController :=
  { toIdentity := .overall (all.map (·.toIdentity))
    pciAddress := firstKnown "" (all.map (·.pciAddress))
    supportedRaid := firstKnown "" (all.map (·.supportedRaid))
    hostBus := firstKnown "" (all.map (·.hostBus))
    physicalId := firstKnown "" (all.map (·.physicalId))
    maxPhysicalDisks := firstKnown 0 (all.map (·.maxPhysicalDisks)) }

/-! ## Reports taken one by one -/

theorem Firmware.overall_collapses : Collapses {} overall := by
  have texts := firstKnown_collapses ""
  constructor <;> intros <;>
    simp only [overall, List.map_cons, List.map_nil, texts.single, texts.pair, texts.start,
      texts.gather.single, texts.gather.pair, texts.gather.start]

theorem Identity.overall_collapses : Collapses {} overall := by
  have texts := firstKnown_collapses ""
  have corrected := lastKnown_collapses ""
  have firmware := Firmware.overall_collapses.amongPresent
  constructor <;> intros <;>
    simp only [overall, List.map_cons, List.map_nil, texts.single, texts.pair, texts.start,
      texts.gather.single, texts.gather.pair, texts.gather.start, corrected.single,
      corrected.pair, corrected.start, firmware.single, firmware.pair, firmware.start] <;> rfl

theorem Drive.overall_collapses : Collapses {} overall := by
  have texts := firstKnown_collapses ""
  have numbers := firstKnown_collapses (0 : Int64)
  have flags := (getLastD_collapses false).gather
  have identity := Identity.overall_collapses
  constructor <;> intros <;>
    simp only [overall, List.map_cons, List.map_nil, texts.single, texts.pair, texts.start,
      numbers.single, numbers.pair, numbers.start, flags.single, flags.pair, flags.start,
      identity.single, identity.pair, identity.start]

theorem Nic.overall_collapses : Collapses {} overall := by
  have texts := firstKnown_collapses ""
  have numbers := firstKnown_collapses (0 : Int64)
  have identity := Identity.overall_collapses
  constructor <;> intros <;>
    simp only [overall, List.map_cons, List.map_nil, texts.single, texts.pair, texts.start,
      numbers.single, numbers.pair, numbers.start, identity.single, identity.pair,
      identity.start]

theorem Bmc.overall_collapses : Collapses {} overall := by
  have texts := firstKnown_collapses ""
  have identity := Identity.overall_collapses
  constructor <;> intros <;>
    simp only [overall, List.map_cons, List.map_nil, texts.single, texts.pair, texts.start,
      identity.single, identity.pair, identity.start]

theorem Bios.overall_collapses : Collapses {} overall := by
  have texts := firstKnown_collapses ""
  have numbers := firstKnown_collapses (0 : Int64)
  have identity := Identity.overall_collapses
  constructor <;> intros <;>
    simp only [overall, List.map_cons, List.map_nil, texts.single, texts.pair, texts.start,
      numbers.single, numbers.pair, numbers.start, identity.single, identity.pair,
      identity.start]

theorem Cpld.overall_collapses : Collapses {} overall := by
  have identity := Identity.overall_collapses
  constructor <;> intros <;>
    simp only [overall, List.map_cons, List.map_nil, identity.single, identity.pair,
      identity.start]

theorem StorageController.overall_collapses : Collapses {} overall := by
  have texts := firstKnown_collapses ""
  have numbers := firstKnown_collapses (0 : Int32)
  have identity := Identity.overall_collapses
  constructor <;> intros <;>
    simp only [overall, List.map_cons, List.map_nil, texts.single, texts.pair, texts.start,
      numbers.single, numbers.pair, numbers.start, identity.single, identity.pair,
      identity.start]

/-! ## What a merge does in each place -/

/-- The rule under which nothing known is replaced: only additions pass, and values in place
of empty ones. -/
def Acceptance.cautious : Acceptance := fun change =>
  match change.kind with
  | .create => true
  | .delete => false
  | .update => change.before.all Value.isEmpty

/-- In an attribute that is not to be corrected nothing known is replaced. -/
theorem Change.isHarmless_under {name : String} (fixed : name ∉ correctable) :
    Acceptance.under isHarmless name = Acceptance.cautious := by
  have correction : ∀ change : Change, (change.under name).isCorrection = false := by
    rintro ⟨kind, path, before, after⟩
    cases path with
    | nil => simpa [isCorrection, under] using fixed
    | cons => rfl
  funext change
  change isHarmless (change.under name) = _
  rw [isHarmless, correction, Bool.false_and, Bool.false_or]
  rfl

theorem Acceptance.cautious_under (name : String) : cautious.under name = cautious := rfl

section

variable {α : Type} [DecidableEq α] {wrap : α → Value} {blank : α}

/-- The first known value stays. -/
theorem Value.settle_cautious (empty : ∀ value, (wrap value).isEmpty = true ↔ value = blank)
    (left right : α) :
    (wrap left).settle .cautious (wrap right) = wrap (firstKnown blank [left, right]) := by
  have accepted : Acceptance.cautious ⟨.update, [], some (wrap left), some (wrap right)⟩ =
      (wrap left).isEmpty := rfl
  rw [settle, accepted, firstKnown_cons, (firstKnown_collapses blank).single]
  by_cases unknown : left = blank
  · rw [if_pos ((empty left).2 unknown), if_pos unknown]
  · rw [if_neg fun isEmpty => unknown ((empty left).1 isEmpty), if_neg unknown]

/-- The last known value stays where corrections are due. -/
theorem Value.settle_correctable {name : String} (due : name ∈ Change.correctable)
    (empty : ∀ value, (wrap value).isEmpty = true ↔ value = blank) (left right : α) :
    (wrap left).settle (Acceptance.under Change.isHarmless name) (wrap right) =
      wrap (lastKnown blank [left, right]) := by
  have accepted : Acceptance.under Change.isHarmless name
      ⟨.update, [], some (wrap left), some (wrap right)⟩ =
      (!(wrap right).isEmpty || (wrap left).isEmpty) := by
    simp [Acceptance.under, Change.isHarmless, Change.under, Change.isCorrection, due]
  rw [settle, accepted, lastKnown_cons, (lastKnown_collapses blank).single]
  by_cases unknown : right = blank
  · rw [if_pos unknown, (empty right).2 unknown]
    by_cases nothing : left = blank
    · rw [if_pos (by simp [(empty left).2 nothing]), unknown, nothing]
    · rw [if_neg fun isEmpty => nothing ((empty left).1 (by simpa using isEmpty))]
  · have told : (wrap right).isEmpty = false :=
      Bool.eq_false_iff.2 fun isEmpty => unknown ((empty right).1 isEmpty)
    rw [if_neg unknown, if_pos (by simp [told])]

/-- Maps hold the entries of both, with the values of an entry settled on their own. -/
theorem StringMap.settle_cautious {choose : List α → α} (single : ∀ value, choose [value] = value)
    (pair : ∀ left right, choose [left, right] =
      if (wrap left).isEmpty then right else left) (left right : StringMap α) :
    left.settle wrap .cautious right = gather choose [left, right] := by
  refine ext_get? fun key => ?_
  rw [get?_settle, get?_gather, accepted?, List.map_cons, List.map_cons, List.map_nil]
  cases left.get? key with
  | none =>
    cases right.get? key with
    | none => rfl
    | some after => exact congrArg some (single after).symm
  | some before =>
    cases right.get? key with
    | none => exact congrArg some (single before).symm
    | some after =>
      change _ = some (choose [before, after])
      rw [pair]
      by_cases same : before = after
      · simp [same]
      · by_cases unknown : (wrap before).isEmpty <;>
          simp [same, unknown, Acceptance.cautious]

end

theorem Value.text_isEmpty_iff (value : String) :
    (Value.text value).isEmpty = true ↔ value = "" :=
  String.isEmpty_iff

theorem Value.int64_isEmpty_iff (value : Int64) :
    (Value.int64 value).isEmpty = true ↔ value = 0 :=
  beq_iff_eq

theorem Value.int32_isEmpty_iff (value : Int32) :
    (Value.int32 value).isEmpty = true ↔ value = 0 :=
  beq_iff_eq

namespace Field

theorem settle_text (left right : String) :
    (scalar (.text left)).settle .cautious (.scalar (.text right)) =
      .scalar (.text (firstKnown "" [left, right])) :=
  congrArg scalar (Value.settle_cautious Value.text_isEmpty_iff left right)

theorem settle_int64 (left right : Int64) :
    (scalar (.int64 left)).settle .cautious (.scalar (.int64 right)) =
      .scalar (.int64 (firstKnown 0 [left, right])) :=
  congrArg scalar (Value.settle_cautious Value.int64_isEmpty_iff left right)

theorem settle_int32 (left right : Int32) :
    (scalar (.int32 left)).settle .cautious (.scalar (.int32 right)) =
      .scalar (.int32 (firstKnown 0 [left, right])) :=
  congrArg scalar (Value.settle_cautious Value.int32_isEmpty_iff left right)

/-- A flag never protects what is known. -/
theorem settle_flag (left right : Bool) :
    (scalar (.flag left)).settle .cautious (.scalar (.flag right)) =
      .scalar (.flag ([left, right].getLastD false)) :=
  rfl

theorem settle_texts (left right : StringMap String) :
    (texts left).settle .cautious (.texts right) =
      .texts (.gather (firstKnown "") [left, right]) := by
  refine congrArg texts (StringMap.settle_cautious (firstKnown_collapses "").single ?_ left right)
  intro left right
  rw [firstKnown_cons, (firstKnown_collapses "").single]
  simp only [Value.text_isEmpty_iff]

theorem settle_flags (left right : StringMap Bool) :
    (flags left).settle .cautious (.flags right) =
      .flags (.gather (·.getLastD false) [left, right]) :=
  congrArg flags (StringMap.settle_cautious (getLastD_collapses false).single
    (fun _ _ => rfl) left right)

theorem settle_correctable {name : String} (due : name ∈ Change.correctable)
    (left right : String) :
    (scalar (.text left)).settle (Acceptance.under Change.isHarmless name)
      (.scalar (.text right)) = .scalar (.text (lastKnown "" [left, right])) :=
  congrArg scalar (Value.settle_correctable due Value.text_isEmpty_iff left right)

end Field

/-- The rule looks at each attribute on its own. -/
theorem Record.settle_append (accept : Acceptance) : ∀ {early other : Record},
    early.size = other.size → ∀ late otherLate : Record,
    (early ++ late).settle accept (other ++ otherLate) =
      early.settle accept other ++ late.settle accept otherLate
  | .nil, .nil, _, _, _ => rfl
  | .cons name field rest, .cons _ other otherRest, same, late, otherLate => by
    have sizes : rest.size = otherRest.size := Nat.succ.inj same
    exact congrArg (Record.cons name (field.settle (accept.under name) other))
      (settle_append accept sizes late otherLate)

/-! ## Merges of two components -/

theorem Firmware.record_settle (left right : Firmware) :
    (record left).settle .cautious (record right) = record (overall [left, right]) := by
  simp only [record, Record.ofList, Record.settle, Acceptance.cautious_under, Field.settle_text,
    Field.settle_texts]
  rfl

theorem Identity.firmwareField_settle (left right : Option Firmware) :
    (firmwareField left).settle .cautious (firmwareField right) =
      firmwareField (amongPresent Firmware.overall [left, right]) := by
  have collapses := Firmware.overall_collapses
  cases left with
  | none =>
    cases right with
    | none => rfl
    | some right =>
      change firmwareField (some right) = firmwareField (some (Firmware.overall [right]))
      rw [collapses.single]
  | some left =>
    cases right with
    | none =>
      change firmwareField (some left) = firmwareField (some (Firmware.overall [left]))
      rw [collapses.single]
    | some right => exact congrArg Field.present (Firmware.record_settle left right)

/-- A merge of two identities follows the rules for two reports, in whatever record the
identities come first. -/
theorem Identity.record_settle (left right : Identity) :
    (record left).settle Change.isHarmless (record right) = record (overall [left, right]) := by
  simp (disch := decide) only [record, Record.ofList, Record.settle, Field.settle_correctable,
    Change.isHarmless_under, Field.settle_text, Field.settle_flag, firmwareField_settle,
    Field.settle_texts]
  rfl

theorem Identity.record_settle_append (left right : Identity) (own otherOwn : Record) :
    (left.record ++ own).settle Change.isHarmless (right.record ++ otherOwn) =
      (overall [left, right]).record ++ own.settle Change.isHarmless otherOwn := by
  rw [Record.settle_append, record_settle]
  rfl

theorem combine_eq_of_settle {α : Type} [Recordable α] [LawfulRecordable α]
    {left right merged : α}
    (settled : (Recordable.record left).settle Change.isHarmless (Recordable.record right) =
      Recordable.record merged) : combine left right = merged := by
  refine eq_of_record_eq ?_
  rw [combine, record_combineFor, Change.passes_none, settled]

theorem Firmware.combine_eq (left right : Firmware) :
    combine left right = overall [left, right] := by
  refine combine_eq_of_settle ?_
  change (record left).settle Change.isHarmless (record right) = record (overall [left, right])
  simp (disch := decide) only [record, Record.ofList, Record.settle, Change.isHarmless_under,
    Field.settle_text, Field.settle_texts]
  rfl

theorem Identity.combine_eq (left right : Identity) :
    combine left right = overall [left, right] :=
  combine_eq_of_settle (Identity.record_settle left right)

theorem Drive.combine_eq (left right : Drive) :
    combine left right = overall [left, right] := by
  refine combine_eq_of_settle ?_
  change (record left).settle Change.isHarmless (record right) = record (overall [left, right])
  simp (disch := decide) only [record, Identity.record_settle_append, Record.ofList,
    Record.settle, Change.isHarmless_under, Field.settle_text, Field.settle_int64,
    Field.settle_flags]
  rfl

theorem Nic.combine_eq (left right : Nic) :
    combine left right = overall [left, right] := by
  refine combine_eq_of_settle ?_
  change (record left).settle Change.isHarmless (record right) = record (overall [left, right])
  simp (disch := decide) only [record, Identity.record_settle_append, Record.ofList,
    Record.settle, Change.isHarmless_under, Field.settle_text, Field.settle_int64]
  rfl

theorem Bmc.combine_eq (left right : Bmc) :
    combine left right = overall [left, right] := by
  refine combine_eq_of_settle ?_
  change (record left).settle Change.isHarmless (record right) = record (overall [left, right])
  simp (disch := decide) only [record, Identity.record_settle_append, Record.ofList,
    Record.settle, Change.isHarmless_under, Field.settle_text]
  rfl

theorem Bios.combine_eq (left right : Bios) :
    combine left right = overall [left, right] := by
  refine combine_eq_of_settle ?_
  change (record left).settle Change.isHarmless (record right) = record (overall [left, right])
  simp (disch := decide) only [record, Identity.record_settle_append, Record.ofList,
    Record.settle, Change.isHarmless_under, Field.settle_text, Field.settle_int64]
  rfl

theorem Cpld.combine_eq (left right : Cpld) :
    combine left right = overall [left, right] :=
  combine_eq_of_settle (Identity.record_settle left.toIdentity right.toIdentity)

theorem StorageController.combine_eq (left right : StorageController) :
    combine left right = overall [left, right] := by
  refine combine_eq_of_settle ?_
  change (record left).settle Change.isHarmless (record right) = record (overall [left, right])
  simp (disch := decide) only [record, Identity.record_settle_append, Record.ofList,
    Record.settle, Change.isHarmless_under, Field.settle_text, Field.settle_int32]
  rfl

/-! ## Series of merges -/

/-- A series of merges never fails and leads to what all the reports say together; a report
merged into nothing is taken as it is. -/
def FollowsReports (α : Type) [Recordable α] [Inhabited α] (overall : List α → α) : Prop :=
  (∀ (known : α) (fragments : List α), ∃ applied,
      mergeEach known fragments = .ok ⟨overall (known :: fragments), applied⟩) ∧
    ∀ collected : α, ∃ applied, merge default collected = .ok ⟨collected, applied⟩

/-- A series of merges leads to what all the reports say together. -/
theorem foldl_combine_eq {α : Type} [Recordable α] {blank : α} {overall : List α → α}
    (collapses : Collapses blank overall)
    (pair : ∀ left right : α, combine left right = overall [left, right])
    (fragments : List α) (known : α) :
    fragments.foldl combine known = overall (known :: fragments) := by
  induction fragments generalizing known with
  | nil => exact (collapses.single known).symm
  | cons fragment fragments ih => rw [List.foldl_cons, ih, pair, collapses.pair]

theorem followsReports {α : Type} [Recordable α] [LawfulRecordable α] [Inhabited α]
    {overall : List α → α} (collapses : Collapses default overall)
    (pair : ∀ left right : α, combine left right = overall [left, right]) :
    FollowsReports α overall := by
  refine ⟨fun known fragments => ?_, fun collected => ?_⟩
  · refine ⟨seriesCount known fragments, ?_⟩
    rw [mergeEach_eq, foldl_combine_eq collapses pair]
  · refine ⟨changeCount default collected, ?_⟩
    rw [merge_eq, pair, collapses.start]

/-- A series of merges into a component of any type leads to what the component and the
fragments say together. -/
theorem mergeEach_overall :
    FollowsReports Identity Identity.overall ∧
      FollowsReports Firmware Firmware.overall ∧
      FollowsReports Drive Drive.overall ∧
      FollowsReports Nic Nic.overall ∧
      FollowsReports Bmc Bmc.overall ∧
      FollowsReports Bios Bios.overall ∧
      FollowsReports Cpld Cpld.overall ∧
      FollowsReports StorageController StorageController.overall :=
  ⟨followsReports Identity.overall_collapses Identity.combine_eq,
    followsReports Firmware.overall_collapses Firmware.combine_eq,
    followsReports Drive.overall_collapses Drive.combine_eq,
    followsReports Nic.overall_collapses Nic.combine_eq,
    followsReports Bmc.overall_collapses Bmc.combine_eq,
    followsReports Bios.overall_collapses Bios.combine_eq,
    followsReports Cpld.overall_collapses Cpld.combine_eq,
    followsReports StorageController.overall_collapses StorageController.combine_eq⟩

end ServerInventory
