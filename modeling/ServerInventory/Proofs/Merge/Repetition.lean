import ServerInventory.Proofs.Merge.Join

/-!
Reports that come in again. A rule that says which of several values counts stays with its
verdict when the values that came in last are repeated (`IgnoresEcho`). So a component into
which some fragments were merged is left as it is when the same fragments are merged into it
once more (`Repeatable`), and a part is settled (`Settled`) when the last that was merged into
it is all that some reports say of it.
-/

namespace ServerInventory

/-! ## Rules and repeated values -/

section

variable {α : Type} {choose : List α → α} {all echo : List α}

/-- A repetition of the values that came in last does not change what counts. -/
def IgnoresEcho (choose : List α → α) : Prop :=
  ∀ all echo : List α, echo <:+ all → choose (all ++ echo) = choose all

theorem firstKnown_ignoresEcho [DecidableEq α] (blank : α) : IgnoresEcho (firstKnown blank) := by
  intro all echo suffix
  unfold firstKnown
  rw [List.find?_append]
  cases found : all.find? (· ≠ blank) with
  | some value => rfl
  | none =>
    have nothing : echo.find? (· ≠ blank) = none := by
      rw [List.find?_eq_none] at found ⊢
      exact fun value member => found value (suffix.subset member)
    rw [nothing]
    rfl

theorem lastKnown_ignoresEcho [DecidableEq α] (blank : α) : IgnoresEcho (lastKnown blank) := by
  intro all echo suffix
  obtain ⟨before, rfl⟩ := suffix
  unfold lastKnown firstKnown
  rw [List.reverse_append, List.reverse_append, List.find?_append, List.find?_append]
  cases echo.reverse.find? (· ≠ blank) <;> rfl

theorem getLastD_ignoresEcho (blank : α) :
    IgnoresEcho fun values : List α => values.getLastD blank := by
  intro all echo suffix
  obtain ⟨before, rfl⟩ := suffix
  rcases List.eq_nil_or_concat echo with rfl | ⟨early, last, rfl⟩
  · rw [List.append_nil, List.append_nil]
  · dsimp only
    rw [List.concat_eq_append, ← List.append_assoc, ← List.append_assoc, List.getLastD_concat,
      List.getLastD_concat]

theorem IgnoresEcho.amongPresent (ignores : IgnoresEcho choose) :
    IgnoresEcho (amongPresent choose) := by
  intro all echo suffix
  have present : echo.filterMap id <:+ all.filterMap id := suffix.filterMap id
  unfold ServerInventory.amongPresent
  rw [List.filterMap_append]
  cases values : all.filterMap id with
  | nil =>
    rw [values, List.suffix_nil] at present
    rw [present]
    rfl
  | cons first rest =>
    rw [values] at present
    exact congrArg some (ignores (first :: rest) (echo.filterMap id) present)

theorem IgnoresEcho.gather (ignores : IgnoresEcho choose) :
    IgnoresEcho (StringMap.gather choose) := by
  intro all echo suffix
  refine StringMap.ext_get? fun key => ?_
  rw [StringMap.get?_gather, StringMap.get?_gather, List.map_append]
  exact ignores.amongPresent _ _ (suffix.map (·.get? key))

end

/-! ## Components -/

theorem Firmware.overall_ignoresEcho : IgnoresEcho overall := by
  intro all echo suffix
  have texts := firstKnown_ignoresEcho ""
  unfold overall
  simp only [List.map_append]
  rw [texts _ _ (suffix.map _), texts _ _ (suffix.map _), texts.gather _ _ (suffix.map _)]

theorem Identity.overall_ignoresEcho : IgnoresEcho overall := by
  intro all echo suffix
  have texts := firstKnown_ignoresEcho ""
  have corrected := lastKnown_ignoresEcho ""
  have oem : (all.map (·.oem) ++ echo.map (·.oem)).getLastD false =
      (all.map (·.oem)).getLastD false :=
    getLastD_ignoresEcho false _ _ (suffix.map (·.oem))
  have firmware := Firmware.overall_ignoresEcho.amongPresent
  unfold overall
  simp only [List.map_append]
  rw [corrected _ _ (suffix.map _), corrected _ _ (suffix.map _), texts _ _ (suffix.map _),
    texts _ _ (suffix.map _), texts _ _ (suffix.map _), oem, firmware _ _ (suffix.map _),
    texts.gather _ _ (suffix.map _)]

theorem Drive.overall_ignoresEcho : IgnoresEcho overall := by
  intro all echo suffix
  have identity := Identity.overall_ignoresEcho
  have texts := firstKnown_ignoresEcho ""
  have numbers := firstKnown_ignoresEcho (0 : Int64)
  have flags := (getLastD_ignoresEcho false).gather
  unfold overall
  simp only [List.map_append]
  rw [identity _ _ (suffix.map _), texts _ _ (suffix.map _), texts _ _ (suffix.map _),
    texts _ _ (suffix.map _), numbers _ _ (suffix.map _), numbers _ _ (suffix.map _),
    texts _ _ (suffix.map _), texts _ _ (suffix.map _), texts _ _ (suffix.map _),
    flags _ _ (suffix.map _)]

theorem Nic.overall_ignoresEcho : IgnoresEcho overall := by
  intro all echo suffix
  have identity := Identity.overall_ignoresEcho
  have texts := firstKnown_ignoresEcho ""
  have numbers := firstKnown_ignoresEcho (0 : Int64)
  unfold overall
  simp only [List.map_append]
  rw [identity _ _ (suffix.map _), texts _ _ (suffix.map _), numbers _ _ (suffix.map _),
    texts _ _ (suffix.map _)]

theorem Bmc.overall_ignoresEcho : IgnoresEcho overall := by
  intro all echo suffix
  have identity := Identity.overall_ignoresEcho
  have texts := firstKnown_ignoresEcho ""
  unfold overall
  simp only [List.map_append]
  rw [identity _ _ (suffix.map _), texts _ _ (suffix.map _), texts _ _ (suffix.map _)]

theorem Bios.overall_ignoresEcho : IgnoresEcho overall := by
  intro all echo suffix
  have identity := Identity.overall_ignoresEcho
  have texts := firstKnown_ignoresEcho ""
  have numbers := firstKnown_ignoresEcho (0 : Int64)
  unfold overall
  simp only [List.map_append]
  rw [identity _ _ (suffix.map _), texts _ _ (suffix.map _), numbers _ _ (suffix.map _),
    numbers _ _ (suffix.map _)]

theorem Cpld.overall_ignoresEcho : IgnoresEcho overall := by
  intro all echo suffix
  have identity := Identity.overall_ignoresEcho
  unfold overall
  simp only [List.map_append]
  rw [identity _ _ (suffix.map _)]

theorem StorageController.overall_ignoresEcho : IgnoresEcho overall := by
  intro all echo suffix
  have identity := Identity.overall_ignoresEcho
  have texts := firstKnown_ignoresEcho ""
  have numbers := firstKnown_ignoresEcho (0 : Int32)
  unfold overall
  simp only [List.map_append]
  rw [identity _ _ (suffix.map _), texts _ _ (suffix.map _), texts _ _ (suffix.map _),
    texts _ _ (suffix.map _), texts _ _ (suffix.map _), numbers _ _ (suffix.map _)]

/-- A type of components into which fragments may be merged once more without a change. A
fragment merged into nothing is taken as it is. -/
class Repeatable (α : Type) [Recordable α] [Inhabited α] : Prop where
  again (fragments : List α) (known : α) :
    fragments.foldl combine (fragments.foldl combine known) = fragments.foldl combine known
  start (collected : α) : combine default collected = collected

theorem repeatable {α : Type} [Recordable α] [Inhabited α] {overall : List α → α}
    (collapses : Collapses default overall)
    (pair : ∀ left right : α, combine left right = overall [left, right])
    (ignores : IgnoresEcho overall) : Repeatable α := by
  have series := foldl_combine_eq collapses pair
  refine ⟨fun fragments known => ?_, fun collected => ?_⟩
  · rw [← List.foldl_append, series, series, ← List.cons_append]
    exact ignores (known :: fragments) fragments (List.suffix_cons known fragments)
  · rw [pair, collapses.start]

instance : Repeatable Identity :=
  repeatable Identity.overall_collapses Identity.combine_eq Identity.overall_ignoresEcho

instance : Repeatable Drive :=
  repeatable Drive.overall_collapses Drive.combine_eq Drive.overall_ignoresEcho

instance : Repeatable Nic :=
  repeatable Nic.overall_collapses Nic.combine_eq Nic.overall_ignoresEcho

instance : Repeatable Bmc :=
  repeatable Bmc.overall_collapses Bmc.combine_eq Bmc.overall_ignoresEcho

instance : Repeatable Bios :=
  repeatable Bios.overall_collapses Bios.combine_eq Bios.overall_ignoresEcho

instance : Repeatable Cpld :=
  repeatable Cpld.overall_collapses Cpld.combine_eq Cpld.overall_ignoresEcho

instance : Repeatable StorageController :=
  repeatable StorageController.overall_collapses StorageController.combine_eq
    StorageController.overall_ignoresEcho

theorem combine_again {α : Type} [Recordable α] [Inhabited α] [Repeatable α]
    (known collected : α) :
    combine (combine known collected) collected = combine known collected :=
  Repeatable.again [collected] known

/-! ## Settled parts -/

section

variable {α : Type} [Identified α]

/-- The last that was merged into a part is all that some collected parts say of it. -/
def Settled (collected : List α) (part : α) : Prop :=
  ∃ before, part = (reports collected part).foldl combine before

/-- Nobody has anything to say of a part without a serial number. -/
theorem settled_of_serial_eq_empty (collected : List α) {part : α}
    (missing : Identified.serial part = "") : Settled collected part := by
  refine ⟨part, ?_⟩
  rw [reports_eq_nil collected missing]
  rfl

/-- The same said again changes nothing. -/
theorem Settled.joined_eq [Inhabited α] [Repeatable α] {collected : List α} {part : α}
    (settled : Settled collected part) : joined collected part = part := by
  obtain ⟨before, equal⟩ := settled
  have again := Repeatable.again (reports collected part) before
  rw [← equal] at again
  exact again

theorem map_joined_of_settled [Inhabited α] [Repeatable α] {collected parts : List α}
    (settled : ∀ part ∈ parts, Settled collected part) :
    parts.map (joined collected) = parts := by
  have alike := List.map_congr_left fun part member => (settled part member).joined_eq
  rw [alike, List.map_id']

variable [LawfulIdentified α]

theorem settled_joined (collected : List α) (part : α) :
    Settled collected (joined collected part) := by
  refine ⟨part, ?_⟩
  rw [reports_joined]
  rfl

/-- More may be said of a settled part. -/
theorem Settled.joined {early : List α} {part : α} (settled : Settled early part)
    (late : List α) : Settled (early ++ late) (joined late part) := by
  obtain ⟨before, equal⟩ := settled
  have said := congrArg ((reports late part).foldl combine) equal
  refine ⟨before, ?_⟩
  rw [reports_joined, reports_append, List.foldl_append]
  exact said

end

end ServerInventory
