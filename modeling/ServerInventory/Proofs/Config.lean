import ServerInventory.Config
import ServerInventory.Proofs.Text.LetterCase

/-!
Names in a configuration. A configuration is checked by the small letters of its entries and
consulted by the case of ASCII letters. Both ask the same, for the names of utilities are ASCII
and no Kelvin sign can stand for a letter of theirs (`Utility.equalsIgnoringCase_name_iff`); so
every entry of an accepted configuration disables the one utility that it names
(`Config.entries_disable`).
-/

namespace ServerInventory

/-! ## Names of utilities -/

namespace Utility

variable {utility : Utility} {text : String}

theorem name_injective : Function.Injective name := by
  intro left right same
  have found := congrArg ofName? same
  rw [ofName?_name, ofName?_name] at found
  exact Option.some.inj found

theorem ofName?_eq_some_iff : ofName? text = some utility ↔ text = utility.name := by
  constructor
  · intro found
    rw [ofName?] at found
    have same := List.find?_some found
    exact (beq_iff_eq.1 same).symm
  · rintro rfl
    exact ofName?_name utility

/-- No name has a letter that is not ASCII, and none has a `k`. -/
theorem names_plain :
    (all.all fun utility =>
      utility.name.toList.all fun d => Nat.blt d.toNat 0x80 && d != 'k') = true := by
  decide +kernel

theorem plain_name (utility : Utility) : ∀ d ∈ utility.name.toList, d.toNat < 0x80 ∧ d ≠ 'k' := by
  intro d among
  have whole := List.all_eq_true.1 names_plain utility (mem_all utility)
  have plain := List.all_eq_true.1 whole d among
  rw [Bool.and_eq_true, Nat.blt_eq, bne_iff_ne] at plain
  exact plain

theorem map_toLower_name (utility : Utility) :
    utility.name.toList.map Char.toLower = utility.name.toList := by
  cases utility <;> decide

/-- The two ways to compare a text with the name of a utility agree. -/
theorem equalsIgnoringCase_name_iff :
    Text.equalsIgnoringCase text utility.name = true ↔ Text.lowercase text = utility.name := by
  rw [Text.equalsIgnoringCase, beq_iff_eq, map_toLower_name, ← String.toList_inj,
    Text.toList_lowercase, Chars.lowercase_eq_iff_map_toLower utility.plain_name]

end Utility

/-! ## Entries -/

namespace Config

variable {config : Config} {utility : Utility} {entry : String}

theorem isDisabled_name_iff :
    config.isDisabled utility.name = true ↔
      ∃ entry ∈ config.disabledUtilities, Text.lowercase entry = utility.name := by
  rw [isDisabled, List.any_eq_true]
  simp only [Utility.equalsIgnoringCase_name_iff]

theorem namesUtility_iff :
    namesUtility entry = true ↔ ∃ utility : Utility, Text.lowercase entry = utility.name := by
  rw [namesUtility, Option.isSome_iff_exists]
  simp only [Utility.ofName?_eq_some_iff]

/-- What is accepted: any time at all for a command, and entries that name utilities other
than the baseline. -/
theorem validate_eq_ok_iff :
    config.validate = .ok () ↔ config.commandTimeoutSecs ≠ 0 ∧
      ∀ entry ∈ config.disabledUtilities,
        ∃ utility : Utility, utility ≠ .lshw ∧ Text.lowercase entry = utility.name := by
  rw [validate]
  split
  · next untimed => exact iff_of_false nofun fun accepted => accepted.1 untimed
  · next timed =>
    split
    · next unknown found =>
      refine iff_of_false nofun fun accepted => ?_
      obtain ⟨utility, -, named⟩ := accepted.2 unknown (List.mem_of_find?_eq_some found)
      have unnamed := List.find?_some found
      rw [namesUtility_iff.2 ⟨utility, named⟩] at unnamed
      cases unnamed
    · next known =>
      have named : ∀ entry ∈ config.disabledUtilities, ∃ utility : Utility,
          Text.lowercase entry = utility.name := fun entry among => by
        have known := List.find?_eq_none.1 known entry among
        rw [Bool.not_eq_true', Bool.not_eq_false] at known
        exact namesUtility_iff.1 known
      split
      · next disabled =>
        refine iff_of_false nofun fun accepted => ?_
        obtain ⟨entry, among, baseline⟩ := isDisabled_name_iff.1 disabled
        obtain ⟨utility, other, named⟩ := accepted.2 entry among
        exact other (Utility.name_injective (named.symm.trans baseline))
      · next enabled =>
        refine iff_of_true rfl ⟨timed, fun entry among => ?_⟩
        obtain ⟨utility, named⟩ := named entry among
        refine ⟨utility, ?_, named⟩
        rintro rfl
        exact enabled (isDisabled_name_iff.2 ⟨entry, among, named⟩)

/-- Whether an entry disables a utility by itself. -/
def Disables (entry : String) (utility : Utility) : Prop :=
  ({ disabledUtilities := [entry] } : Config).isDisabled utility.name = true

theorem disables_iff : Disables entry utility ↔ Text.lowercase entry = utility.name := by
  rw [Disables, isDisabled_name_iff]
  simp only [List.mem_singleton, exists_eq_left]

theorem isDisabled_of_disables (among : entry ∈ config.disabledUtilities)
    (disables : Disables entry utility) : config.isDisabled utility.name = true :=
  isDisabled_name_iff.2 ⟨entry, among, disables_iff.1 disables⟩

/-- In an accepted configuration the disabled utilities are those that its entries name in
small letters; every entry disables one utility and no other, and none disables the
baseline. -/
theorem entries_disable (config : Config) (valid : config.validate = .ok ()) :
    (∀ utility : Utility, config.isDisabled utility.name = true ↔
      ∃ entry ∈ config.disabledUtilities, Text.lowercase entry = utility.name) ∧
    (∀ entry ∈ config.disabledUtilities, ∃ utility : Utility,
      (∀ other, Disables entry other ↔ other = utility) ∧
        config.isDisabled utility.name = true) ∧
    config.isDisabled Utility.lshw.name = false := by
  have accepted := (validate_eq_ok_iff.1 valid).2
  refine ⟨fun _ => isDisabled_name_iff, fun entry among => ?_, ?_⟩
  · obtain ⟨utility, -, named⟩ := accepted entry among
    have disables : Disables entry utility := disables_iff.2 named
    refine ⟨utility, fun other => ⟨fun also => ?_, fun same => same ▸ disables⟩,
      isDisabled_of_disables among disables⟩
    exact Utility.name_injective ((disables_iff.1 also).symm.trans named)
  · rw [← Bool.not_eq_true]
    intro disabled
    obtain ⟨entry, among, baseline⟩ := isDisabled_name_iff.1 disabled
    obtain ⟨utility, other, named⟩ := accepted entry among
    exact other (Utility.name_injective (named.symm.trans baseline))

def withoutProbes : Config :=
  { disabledUtilities := ["IpmiTool", "NVME", "nvme"] }

/-- One utility spelled in mixed case, and one that is named twice. -/
theorem entries_disable_spelled :
    withoutProbes.validate = .ok () ∧
      withoutProbes.isDisabled Utility.ipmitool.name = true ∧
        withoutProbes.isDisabled Utility.lshw.name = false := by
  have valid : withoutProbes.validate = .ok () := by decide +kernel
  obtain ⟨disabled, -, baseline⟩ := entries_disable withoutProbes valid
  exact ⟨valid, (disabled .ipmitool).2 ⟨"IpmiTool", by decide, by decide +kernel⟩, baseline⟩

end Config

end ServerInventory
