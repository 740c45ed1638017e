import ServerInventory.Proofs.Text.Lowercase

/-!
The case of ASCII letters against small letters in full. Trimming and small letters take no
notice of the case of ASCII letters (`Chars.trim_map_toLower`, `Chars.lowercase_map_toLower`),
and a text whose small letters are ASCII letters differs from them in the case of these alone,
unless a `k` is among them, which the Kelvin sign has for its small letter
(`Chars.lowercase_eq_iff_map_toLower`).
-/

namespace ServerInventory

/-! ## ASCII in the table -/

namespace Text

/-- Whether a run leads out of ASCII, but for the one from the Kelvin sign to `k`. -/
def CaseRun.leadsOutOfAscii (run : CaseRun) : Bool :=
  Nat.ble 0x80 run.target || (Nat.beq run.first run.last && Nat.beq run.target 'k'.toNat)

theorem caseRuns_leadOutOfAscii : caseRuns.all CaseRun.leadsOutOfAscii = true := by
  decide +kernel

theorem eq_k_of_tabulated {code small : Nat} (found : tabulated? code = some small)
    (ascii : small < 0x80) : small = 'k'.toNat := by
  obtain ⟨run, among, covered⟩ := List.exists_of_findSome?_eq_some found
  have leads := List.all_eq_true.1 caseRuns_leadOutOfAscii run among
  simp only [CaseRun.leadsOutOfAscii, Bool.or_eq_true, Bool.and_eq_true, Nat.ble_eq, Nat.beq_eq]
    at leads
  obtain ⟨⟨from_, upTo, -⟩, rfl⟩ := CaseRun.small?_eq_some_iff.1 covered
  omega

end Text

namespace Chars

open ServerInventory.Text (tabulated? inRanges casedRanges caseIgnorableRanges eq_k_of_tabulated
  inRanges_plainRanges_of_tabulated)

/-! ## Letters of either case -/

/-- Capital and small letters of ASCII are cased alike, and no position test looks through
them. -/
theorem letters_cased : ∀ index : Fin 26,
    (inRanges casedRanges (0x41 + index) = true ∧ inRanges casedRanges (0x61 + index) = true) ∧
      inRanges caseIgnorableRanges (0x41 + index) = false ∧
        inRanges caseIgnorableRanges (0x61 + index) = false := by
  decide +kernel

/-- What holds of two letters of ASCII that differ in case alone. -/
theorem letter_of_isUpper {c : Char} (capital : c.isUpper = true) :
    ∃ index : Fin 26, c.toNat = 0x41 + index ∧ c.toLower.toNat = 0x61 + index := by
  have letter := isUpper_iff_toNat.1 capital
  refine ⟨⟨c.toNat - 0x41, by omega⟩, ?_, ?_⟩
  · dsimp only
    omega
  · rw [toNat_toLower_of_isUpper capital]
    dsimp only
    omega

@[simp] theorem isCased_toLower (c : Char) : isCased c.toLower = isCased c := by
  by_cases capital : c.isUpper = true
  · obtain ⟨index, large, small⟩ := letter_of_isUpper capital
    rw [isCased, isCased, large, small, (letters_cased index).1.1, (letters_cased index).1.2]
  · rw [Char.toLower_eq_of_not_isUpper capital]

@[simp] theorem isCaseIgnorable_toLower (c : Char) :
    isCaseIgnorable c.toLower = isCaseIgnorable c := by
  by_cases capital : c.isUpper = true
  · obtain ⟨index, large, small⟩ := letter_of_isUpper capital
    rw [isCaseIgnorable, isCaseIgnorable, large, small, (letters_cased index).2.1,
      (letters_cased index).2.2]
  · rw [Char.toLower_eq_of_not_isUpper capital]

@[simp] theorem isBlank_toLower (c : Char) : isBlank c.toLower = isBlank c := by
  by_cases capital : c.isUpper = true
  · have letter := isUpper_iff_toNat.1 capital
    rw [Bool.eq_iff_iff, isBlank_iff, isBlank_iff, toNat_toLower_of_isUpper capital]
    omega
  · rw [Char.toLower_eq_of_not_isUpper capital]

@[simp] theorem smallForm_toLower (c : Char) : smallForm c.toLower = smallForm c := by
  by_cases capital : c.isUpper = true
  · have letter := isUpper_iff_toNat.1 capital
    have small := toNat_toLower_of_isUpper capital
    rw [smallForm, if_pos (by omega), smallForm, if_pos (by omega),
      Char.toLower_toLower_eq_toLower]
  · rw [Char.toLower_eq_of_not_isUpper capital]

theorem toLower_eq_sigma_iff {c : Char} : c.toLower = 'Σ' ↔ c = 'Σ' := by
  by_cases capital : c.isUpper = true
  · have letter := isUpper_iff_toNat.1 capital
    have small := toNat_toLower_of_isUpper capital
    have sigma : 'Σ'.toNat = 0x3A3 := rfl
    refine iff_of_false (fun same => ?_) fun same => ?_
    · rw [same] at small
      omega
    · rw [same] at letter
      omega
  · rw [Char.toLower_eq_of_not_isUpper capital]

/-! ## Texts in either case -/

theorem meetsCased_map_toLower (text : Chars) :
    meetsCased (text.map Char.toLower) = meetsCased text := by
  induction text with
  | nil => rfl
  | cons c rest ih =>
    rw [meetsCased, meetsCased] at ih ⊢
    by_cases through : isCaseIgnorable c = true
    · rw [List.map_cons, List.dropWhile_cons_of_pos ((isCaseIgnorable_toLower c).trans through),
        List.dropWhile_cons_of_pos through, ih]
    · have stops : ¬isCaseIgnorable c.toLower = true := isCaseIgnorable_toLower c ▸ through
      rw [List.map_cons, List.dropWhile_cons_of_neg stops, List.dropWhile_cons_of_neg through]
      exact isCased_toLower c

theorem lowercaseFrom_map_toLower (afterCased : Bool) (text : Chars) :
    lowercaseFrom afterCased (text.map Char.toLower) = lowercaseFrom afterCased text := by
  induction text generalizing afterCased with
  | nil => rfl
  | cons c rest ih =>
    simp only [List.map_cons, lowercaseFrom, toLower_eq_sigma_iff, meetsCased_map_toLower,
      smallForm_toLower, isCaseIgnorable_toLower, isCased_toLower, ih]

/-- Small letters do not tell the case of ASCII letters. -/
@[simp] theorem lowercase_map_toLower (text : Chars) :
    lowercase (text.map Char.toLower) = lowercase text :=
  lowercaseFrom_map_toLower false text

theorem trimStart_map_toLower (text : Chars) :
    trimStart (text.map Char.toLower) = (trimStart text).map Char.toLower := by
  rw [trimStart, trimStart, List.dropWhile_map]
  exact congrArg (List.map Char.toLower)
    (congrArg (List.dropWhile · text) (funext isBlank_toLower))

theorem trim_map_toLower (text : Chars) :
    trim (text.map Char.toLower) = (trim text).map Char.toLower := by
  rw [trim, trim, trimStart_map_toLower, trimEnd_eq, trimEnd_eq, ← List.map_reverse,
    trimStart_map_toLower, List.map_reverse]

/-! ## Small letters of ASCII -/

/-- Only letters of ASCII and the Kelvin sign have small letters of ASCII. -/
theorem ascii_of_smallForm {c : Char}
    (ascii : ∀ d ∈ smallForm c, d.toNat < 0x80 ∧ d ≠ 'k') : c.toNat < 0x80 := by
  rw [smallForm_eq] at ascii
  split at ascii
  · next below => exact below
  · split at ascii
    · exact absurd (ascii (Char.ofNat 0x307) (by decide)).1 (by decide)
    · split at ascii
      · next code found =>
        have read := toNat_ofNat_of_plain (inRanges_plainRanges_of_tabulated found)
        obtain ⟨below, other⟩ := ascii _ (List.mem_singleton_self _)
        rw [read] at below
        rw [eq_k_of_tabulated found below] at other
        exact absurd rfl other
      · exact (ascii c (List.mem_singleton_self c)).1

theorem ascii_of_lowercaseFrom {afterCased : Bool} {text : Chars}
    (ascii : ∀ d ∈ lowercaseFrom afterCased text, d.toNat < 0x80 ∧ d ≠ 'k') :
    ∀ c ∈ text, c.toNat < 0x80 := by
  induction text generalizing afterCased with
  | nil => nofun
  | cons c rest ih =>
    rw [lowercaseFrom, List.forall_mem_append] at ascii
    refine List.forall_mem_cons.2 ⟨?_, ih ascii.2⟩
    have first := ascii.1
    split at first
    · split at first
      · exact absurd (first 'ς' (List.mem_singleton_self _)).1 (by decide)
      · exact absurd (first 'σ' (List.mem_singleton_self _)).1 (by decide)
    · exact ascii_of_smallForm first

/-- Small letters of ASCII without a `k` come from letters of ASCII. -/
theorem lowercase_eq_iff_map_toLower {name : Chars}
    (plain : ∀ d ∈ name, d.toNat < 0x80 ∧ d ≠ 'k') {text : Chars} :
    lowercase text = name ↔ text.map Char.toLower = name := by
  constructor
  · rintro rfl
    exact (lowercase_of_ascii (ascii_of_lowercaseFrom plain)).symm
  · rintro rfl
    exact lowercase_of_ascii fun c among =>
      ascii_of_toLower (plain c.toLower (List.mem_map_of_mem among)).1

/-- The Kelvin sign has a small letter of ASCII, but no case among letters of ASCII. -/
example : lowercase ['\u212A'] = ['k'] ∧ ['\u212A'].map Char.toLower = ['\u212A'] := by
  decide +kernel

end Chars

end ServerInventory
