import Mathlib
import ServerInventory.Proofs.Merge.Precedence
import ServerInventory.Proofs.Text.Lowercase

/-!
Parts with serial numbers, merged list by list. The work goes fragment by fragment through
all the known parts, but it comes to the same as a series of merges for each known part on
its own, of those fragments that report on it (`JoinsBySerial`). No merge changes a serial
number that is known, so which fragments report on a part is settled from the start.
-/

namespace ServerInventory

/-! ## Serial numbers -/

section

variable {α : Type} [Identified α]

/-- Whether a fragment reports on a part: it has a serial number, and the part has the same
one but for the case of letters. -/
def reportsOn (fragment part : α) : Bool :=
  Identified.serial fragment ≠ "" ∧
    Text.lowercase (Identified.serial fragment) = Text.lowercase (Identified.serial part)

/-- It does not matter which of the two serial numbers is asked to be there. -/
theorem sameSerial_eq_reportsOn (fragment part : α) :
    sameSerial (Identified.serial part) (Identified.serial fragment) =
      reportsOn fragment part := by
  have lettered := Text.lowercase_eq_empty_iff (Identified.serial fragment)
  have partLettered := Text.lowercase_eq_empty_iff (Identified.serial part)
  rw [sameSerial, reportsOn, Bool.eq_iff_iff]
  simp only [Bool.and_eq_true, Bool.not_eq_true', beq_iff_eq, decide_eq_true_eq,
    ← Bool.not_eq_true, String.isEmpty_iff, ne_eq]
  constructor
  · rintro ⟨known, same⟩
    exact ⟨fun empty => known (partLettered.1 (same.trans (lettered.2 empty))), same.symm⟩
  · rintro ⟨known, same⟩
    exact ⟨fun empty => known (lettered.1 (same.trans (partLettered.2 empty))), same.symm⟩

/-- The fragments that report on a part. -/
def reports (collected : List α) (part : α) : List α :=
  collected.filter (reportsOn · part)

/-- A part after a series of merges of the fragments that report on it. -/
def joined (collected : List α) (part : α) : α :=
  (reports collected part).foldl combine part

/-- The changes that this series takes. -/
def joinedCount (collected : List α) (part : α) : Nat :=
  seriesCount part (reports collected part)

/-- Nobody reports on a part without a serial number. -/
theorem reports_eq_nil (collected : List α) {part : α} (missing : Identified.serial part = "") :
    reports collected part = [] := by
  refine List.filter_eq_nil_iff.2 fun fragment _ reporting => ?_
  rw [← sameSerial_eq_reportsOn, sameSerial, missing] at reporting
  cases reporting

theorem reports_append (early late : List α) (part : α) :
    reports (early ++ late) part = reports early part ++ reports late part :=
  List.filter_append early late

theorem reports_singleton (fragment part : α) :
    reports [fragment] part = if reportsOn fragment part then [fragment] else [] := by
  rw [reports, List.filter_cons, List.filter_nil]

/-- A single fragment is merged in if it reports on the part. -/
theorem joined_singleton (fragment part : α) :
    joined [fragment] part = if reportsOn fragment part then combine part fragment else part := by
  rw [joined, reports_singleton]
  split <;> rfl

theorem joinedCount_singleton (fragment part : α) :
    joinedCount [fragment] part =
      if reportsOn fragment part then changeCount part fragment else 0 := by
  rw [joinedCount, reports_singleton]
  split <;> rfl

/-- The pairs of a fragment and a part on which it reports. -/
def matchedPairs (known collected : List α) : Nat :=
  (collected ×ˢ known).countP fun pair => reportsOn pair.1 pair.2

theorem matchedPairs_cons (known collected : List α) (fragment : α) :
    matchedPairs known (fragment :: collected) =
      known.countP (reportsOn fragment) + matchedPairs known collected := by
  rw [matchedPairs, List.product_cons, List.countP_append, List.countP_map]
  rfl

/-- The fragments that report on none of some parts. -/
def strangers (known collected : List α) : List α :=
  collected.filter fun fragment => !known.any (reportsOn fragment)

theorem strangers_cons (known collected : List α) (fragment : α) :
    strangers known (fragment :: collected) =
      if known.countP (reportsOn fragment) = 0 then fragment :: strangers known collected
      else strangers known collected := by
  rw [strangers, List.filter_cons]
  by_cases nowhere : known.countP (reportsOn fragment) = 0
  · have none : known.any (reportsOn fragment) = false :=
      List.any_eq_false.2 (List.countP_eq_zero.1 nowhere)
    rw [none, if_pos nowhere]
    rfl
  · have some : known.any (reportsOn fragment) = true :=
      List.any_eq_true.2 (List.countP_pos_iff.1 (Nat.pos_of_ne_zero nowhere))
    rw [some, if_neg nowhere]
    rfl

end

/-- A type of parts whose known serial numbers no merge changes. -/
class LawfulIdentified (α : Type) [Identified α] : Prop extends LawfulRecordable α where
  serial_combine (known collected : α) : Identified.serial known ≠ "" →
    Identified.serial (combine known collected) = Identified.serial known

theorem Identity.serial_overall_pair (known collected : Identity) (there : known.serial ≠ "") :
    (overall [known, collected]).serial = known.serial := by
  change firstKnown "" [known.serial, collected.serial] = known.serial
  rw [firstKnown_cons, if_neg there]

instance : LawfulIdentified Drive where
  serial_combine known collected there := by
    rw [Drive.combine_eq]
    exact Identity.serial_overall_pair known.toIdentity collected.toIdentity there

instance : LawfulIdentified Nic where
  serial_combine known collected there := by
    rw [Nic.combine_eq]
    exact Identity.serial_overall_pair known.toIdentity collected.toIdentity there

instance : LawfulIdentified StorageController where
  serial_combine known collected there := by
    rw [StorageController.combine_eq]
    exact Identity.serial_overall_pair known.toIdentity collected.toIdentity there

/-! ## One part -/

section

variable {α : Type} [Identified α] [LawfulIdentified α]

theorem serial_foldl_combine (fragments : List α) : ∀ part : α, Identified.serial part ≠ "" →
    Identified.serial (fragments.foldl combine part) = Identified.serial part := by
  induction fragments with
  | nil => exact fun _ _ => rfl
  | cons fragment fragments ih =>
    intro part there
    have kept := LawfulIdentified.serial_combine part fragment there
    rw [List.foldl_cons, ih (combine part fragment) (kept ▸ there), kept]

/-- The fragments that report on a part leave its serial number as it is. -/
theorem serial_joined (collected : List α) (part : α) :
    Identified.serial (joined collected part) = Identified.serial part := by
  unfold joined
  by_cases missing : Identified.serial part = ""
  · rw [reports_eq_nil collected missing]
    rfl
  · exact serial_foldl_combine (reports collected part) part missing

theorem reportsOn_joined (collected : List α) (fragment part : α) :
    reportsOn fragment (joined collected part) = reportsOn fragment part := by
  unfold reportsOn
  rw [serial_joined]

/-- Who reports on a part does not change with what is merged into it. -/
theorem reports_joined (early late : List α) (part : α) :
    reports late (joined early part) = reports late part := by
  refine List.filter_congr fun fragment _ => ?_
  rw [reportsOn_joined]

theorem joined_append (early late : List α) (part : α) :
    joined (early ++ late) part = joined late (joined early part) := by
  rw [joined, reports_append, List.foldl_append, joined, reports_joined]
  rfl

theorem joinedCount_append (early late : List α) (part : α) :
    joinedCount (early ++ late) part =
      joinedCount early part + joinedCount late (joined early part) := by
  rw [joinedCount, reports_append, seriesCount_append, joinedCount, joinedCount, reports_joined]
  rfl

/-! ## Lists of parts -/

/-- One fragment goes into every part that it reports on. -/
theorem mergeMatching_eq (fragment : α) : ∀ known : List α,
    mergeMatching fragment known = (known.map (joined [fragment]),
      .ok (known.countP (reportsOn fragment), (known.map (joinedCount [fragment])).sum))
  | [] => rfl
  | part :: others => by
    have rest := mergeMatching_eq fragment others
    rw [mergeMatching, sameSerial_eq_reportsOn, rest, List.map_cons, List.map_cons,
      List.sum_cons, joined_singleton, joinedCount_singleton]
    by_cases reporting : reportsOn fragment part
    · rw [if_pos reporting, if_pos reporting, if_pos reporting, merge_eq,
        List.countP_cons_of_pos reporting, Nat.add_comm (changeCount part fragment)]
      rfl
    · rw [if_neg reporting, if_neg reporting, if_neg reporting,
        List.countP_cons_of_neg reporting, Nat.zero_add]

theorem countP_reportsOn_joined (early : List α) (fragment : α) (known : List α) :
    (known.map (joined early)).countP (reportsOn fragment) =
      known.countP (reportsOn fragment) := by
  rw [List.countP_map]
  refine List.countP_congr fun part _ => ?_
  rw [Function.comp_apply, reportsOn_joined]

theorem matchedPairs_joined (early known : List α) : ∀ collected : List α,
    matchedPairs (known.map (joined early)) collected = matchedPairs known collected
  | [] => rfl
  | fragment :: collected => by
    rw [matchedPairs_cons, matchedPairs_cons, countP_reportsOn_joined,
      matchedPairs_joined early known collected]

theorem strangers_joined (early known : List α) : ∀ collected : List α,
    strangers (known.map (joined early)) collected = strangers known collected
  | [] => rfl
  | fragment :: collected => by
    rw [strangers_cons, strangers_cons, countP_reportsOn_joined,
      strangers_joined early known collected]

/-- The fragments go one after the other into the parts on which they report. The induction
is on the fragments: after the first one the parts are others, but nothing that depends on
their serial numbers has changed. -/
theorem mergeBySerial_eq : ∀ collected known : List α,
    mergeBySerial known collected = (known.map (joined collected),
      .ok { matched := matchedPairs known collected
            applied := (known.map (joinedCount collected)).sum
            unmatched := (strangers known collected).map Identified.serial })
  | [], known => by
    have same : joined ([] : List α) = id := rfl
    have none : (known.map (joinedCount ([] : List α))).sum = 0 :=
      List.sum_eq_zero (by simp [joinedCount, reports, seriesCount])
    rw [same, List.map_id, none]
    rfl
  | fragment :: collected, known => by
    have first := mergeMatching_eq fragment known
    have rest := mergeBySerial_eq collected (known.map (joined [fragment]))
    have records : joined collected ∘ joined [fragment] = joined (fragment :: collected) :=
      funext fun part => (joined_append [fragment] collected part).symm
    have counts : joinedCount (fragment :: collected) = fun part =>
        joinedCount [fragment] part + (joinedCount collected ∘ joined [fragment]) part :=
      funext fun part => joinedCount_append [fragment] collected part
    rw [List.map_map, records, List.map_map, matchedPairs_joined, strangers_joined] at rest
    rw [mergeBySerial, first]
    dsimp only
    rw [rest, matchedPairs_cons, counts, List.sum_map_add, strangers_cons]
    refine congrArg (Prod.mk _) (congrArg Except.ok ?_)
    split <;> rfl

end

/-! ## The join as a whole -/

/-- What becomes of a part in a join: a series of merges of the fragments that have its
serial number, which stays as it is. A part without a serial number is left alone. -/
structure JoinedInto {α : Type} [Identified α] (collected : List α) (part : α)
    (merged : Merged α) : Prop where
  series : mergeEach part (collected.filter (reportsOn · part)) = .ok merged
  serial : Identified.serial merged.record = Identified.serial part
  alone : Identified.serial part = "" → merged.record = part

/-- A join always succeeds. Each part, in its place, becomes what it would become on its
own, and what is reported of the join is what happened to the parts. -/
def JoinsBySerial (α : Type) [Identified α] : Prop :=
  ∀ known collected : List α, ∃ merged : List (Merged α),
    List.Forall₂ (JoinedInto collected) known merged ∧
      mergeBySerial known collected = (merged.map (·.record),
        .ok { matched := (collected ×ˢ known).countP fun pair => reportsOn pair.1 pair.2
              applied := (merged.map (·.applied)).sum
              unmatched := (collected.filter fun fragment =>
                !known.any (reportsOn fragment)).map Identified.serial })

theorem joinsBySerial (α : Type) [Identified α] [LawfulIdentified α] : JoinsBySerial α := by
  intro known collected
  refine ⟨known.map fun part => ⟨joined collected part, joinedCount collected part⟩, ?_, ?_⟩
  · refine List.forall₂_map_right_iff.2 (List.forall₂_same.2 fun part _ => ⟨?_, ?_, ?_⟩)
    · exact mergeEach_eq (reports collected part) part
    · exact serial_joined collected part
    · intro missing
      change joined collected part = part
      rw [joined, reports_eq_nil collected missing]
      rfl
  · rw [mergeBySerial_eq, List.map_map, List.map_map]
    rfl

/-- Parts with serial numbers are joined one by one, whatever their type. -/
theorem mergeBySerial_joins :
    JoinsBySerial Drive ∧ JoinsBySerial Nic ∧ JoinsBySerial StorageController :=
  ⟨joinsBySerial Drive, joinsBySerial Nic, joinsBySerial StorageController⟩

end ServerInventory
