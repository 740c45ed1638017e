import ServerInventory.Proofs.Text.Trimming
import ServerInventory.Text.Lowercase

/-!
Small letters of small letters. The table of small forms leads out of itself, and to no
blank, so that a text in small letters has no other small letters, and its two ends are
blank only if those of the text were.
-/

namespace ServerInventory

/-! ## The table -/

namespace Text

/-- Whether none of the small forms that one run leads to has a small form in another. -/
def CaseRun.leadsOutside (run other : CaseRun) : Bool :=
  Nat.blt (run.target + (run.last - run.first)) other.first || Nat.blt other.last run.target ||
    (Nat.beq other.stride 2 && (Nat.beq run.stride 2 || Nat.beq run.first run.last) &&
      Nat.beq ((run.target + other.first) % 2) 1)

/-- Stretches of code points without capital letters of ASCII, blanks, surrogates and the
two capitals that follow a rule of their own. -/
def plainRanges : List CodeRange :=
  [(0x5B, 0x84), (0xA1, 0x12F), (0x131, 0x3A2), (0x3A4, 0x167F), (0x1681, 0x1FFF),
   (0x2060, 0x2FFF), (0x3001, 0xD7FF), (0xE000, 0x10FFFF)]

/-- Whether all the small forms that a run leads to lie in one of these stretches. -/
def CaseRun.leadsToPlain (run : CaseRun) : Bool :=
  plainRanges.any fun range =>
    Nat.ble range.1 run.target && Nat.ble (run.target + (run.last - run.first)) range.2

theorem caseRuns_leadOutside :
    (caseRuns.all fun run => caseRuns.all run.leadsOutside) = true := by
  decide +kernel

theorem caseRuns_leadToPlain : caseRuns.all CaseRun.leadsToPlain = true := by
  decide +kernel

theorem CaseRun.small?_eq_some_iff {run : CaseRun} {code small : Nat} :
    run.small? code = some small ↔
      (run.first ≤ code ∧ code ≤ run.last ∧ (code - run.first) % run.stride = 0) ∧
        small = run.target + (code - run.first) := by
  rw [CaseRun.small?]
  split
  · next covered => simp only [Option.some.injEq, covered, true_and, eq_comm]
  · next missed => simp only [reduceCtorEq, missed, false_and]

/-- A run covers no small form that another one leads to. -/
theorem CaseRun.small?_of_leadsOutside {run other : CaseRun} {code small : Nat}
    (outside : run.leadsOutside other = true) (found : run.small? code = some small) :
    other.small? small = none := by
  obtain ⟨⟨from_, upTo, onStride⟩, rfl⟩ := CaseRun.small?_eq_some_iff.1 found
  rw [Option.eq_none_iff_forall_not_mem]
  intro again second
  obtain ⟨⟨otherFrom, otherUpTo, otherOnStride⟩, -⟩ := CaseRun.small?_eq_some_iff.1 second
  simp only [CaseRun.leadsOutside, Bool.or_eq_true, Bool.and_eq_true, Nat.blt_eq, Nat.beq_eq]
    at outside
  rcases outside with (below | above) | ⟨⟨otherTwo, two | single⟩, odd⟩
  · omega
  · omega
  · rw [otherTwo] at otherOnStride
    rw [two] at onStride
    omega
  · rw [otherTwo] at otherOnStride
    omega

/-- The small form that the table gives for a code point. -/
def tabulated? (code : Nat) : Option Nat :=
  caseRuns.findSome? (·.small? code)

theorem tabulated?_of_tabulated {code small : Nat} (found : tabulated? code = some small) :
    tabulated? small = none := by
  obtain ⟨run, among, covered⟩ := List.exists_of_findSome?_eq_some found
  refine List.findSome?_eq_none_iff.2 fun other otherAmong => ?_
  exact CaseRun.small?_of_leadsOutside
    (List.all_eq_true.1 (List.all_eq_true.1 caseRuns_leadOutside run among) other otherAmong)
    covered

theorem inRanges_plainRanges_of_tabulated {code small : Nat}
    (found : tabulated? code = some small) : inRanges plainRanges small = true := by
  obtain ⟨run, among, covered⟩ := List.exists_of_findSome?_eq_some found
  obtain ⟨range, listed, within⟩ :=
    List.any_eq_true.1 (List.all_eq_true.1 caseRuns_leadToPlain run among)
  simp only [Bool.and_eq_true, Nat.ble_eq] at within
  obtain ⟨⟨from_, upTo, -⟩, rfl⟩ := CaseRun.small?_eq_some_iff.1 covered
  exact inRanges_iff.2 ⟨range, listed, by omega, by omega⟩

end Text

/-! ## Single characters -/

namespace Chars

open ServerInventory.Text (inRanges inRanges_iff plainRanges tabulated? tabulated?_of_tabulated
  inRanges_plainRanges_of_tabulated)

/-- A character that stays as it is where small letters are asked for. -/
structure IsSmall (c : Char) : Prop where
  ne_sigma : c ≠ 'Σ'
  smallForm_eq : smallForm c = [c]

theorem smallForm_eq (c : Char) :
    smallForm c =
      if c.toNat < 0x80 then [c.toLower]
      else if c.toNat = 0x130 then ['i', Char.ofNat 0x307]
      else match tabulated? c.toNat with
        | some code => [Char.ofNat code]
        | none => [c] := rfl

theorem isUpper_iff_toNat {c : Char} : c.isUpper = true ↔ 0x41 ≤ c.toNat ∧ c.toNat ≤ 0x5A := by
  simp [Char.isUpper, UInt32.le_iff_toNat_le]

theorem toNat_toLower_of_isUpper {c : Char} (capital : c.isUpper = true) :
    c.toLower.toNat = c.toNat + 32 := by
  have letter := isUpper_iff_toNat.1 capital
  rw [Char.toLower_eq_of_isUpper capital, Char.toNat_ofNat, if_pos]
  rw [Nat.isValidChar]
  omega

/-- A code point of the plain stretches, seen through its bounds. -/
theorem plain_cases {code : Nat} (plain : inRanges plainRanges code = true) :
    (0x5B ≤ code ∧ code ≤ 0x84) ∨ (0xA1 ≤ code ∧ code ≤ 0x12F) ∨
      (0x131 ≤ code ∧ code ≤ 0x3A2) ∨ (0x3A4 ≤ code ∧ code ≤ 0x167F) ∨
      (0x1681 ≤ code ∧ code ≤ 0x1FFF) ∨ (0x2060 ≤ code ∧ code ≤ 0x2FFF) ∨
      (0x3001 ≤ code ∧ code ≤ 0xD7FF) ∨ (0xE000 ≤ code ∧ code ≤ 0x10FFFF) := by
  simpa [plainRanges, inRanges] using plain

theorem toNat_ofNat_of_plain {code : Nat} (plain : inRanges plainRanges code = true) :
    (Char.ofNat code).toNat = code := by
  have bounds := plain_cases plain
  rw [Char.toNat_ofNat, if_pos]
  rw [Nat.isValidChar]
  omega

theorem isBlank_of_plain {c : Char} (plain : inRanges plainRanges c.toNat = true) :
    isBlank c = false := by
  have bounds := plain_cases plain
  rw [← Bool.not_eq_true, isBlank_iff]
  omega

theorem toLower_of_plain {c : Char} (plain : inRanges plainRanges c.toNat = true) :
    c.toLower = c := by
  have bounds := plain_cases plain
  refine Char.toLower_eq_of_not_isUpper fun capital => ?_
  have letter := isUpper_iff_toNat.1 capital
  omega

/-- In the plain stretches the table alone decides. -/
theorem isSmall_of_plain {c : Char} (plain : inRanges plainRanges c.toNat = true)
    (untabulated : tabulated? c.toNat = none) : IsSmall c where
  ne_sigma same := by
    subst same
    exact absurd plain (by decide)
  smallForm_eq := by
    have bounds := plain_cases plain
    rw [smallForm_eq, toLower_of_plain plain, untabulated, if_neg (by omega : ¬c.toNat = 0x130)]
    exact ite_self _

/-- What stands for one character in small letters. -/
structure Renders (c : Char) (small : Chars) : Prop where
  ne_nil : small ≠ []
  isSmall : ∀ d ∈ small, IsSmall d
  notBlank : isBlank c = false → ∀ d ∈ small, isBlank d = false

theorem Renders.single {c d : Char} (isSmall : IsSmall d)
    (notBlank : isBlank c = false → isBlank d = false) : Renders c [d] where
  ne_nil := nofun
  isSmall _ among := List.mem_singleton.1 among ▸ isSmall
  notBlank visible _ among := List.mem_singleton.1 among ▸ notBlank visible

theorem renders_ascii {c : Char} (ascii : c.toNat < 0x80) : Renders c [c.toLower] := by
  have below : c.toLower.toNat < 0x80 ∧ (isBlank c = false → isBlank c.toLower = false) := by
    by_cases capital : c.isUpper = true
    · have letter := isUpper_iff_toNat.1 capital
      rw [← Bool.not_eq_true (isBlank c.toLower), isBlank_iff, toNat_toLower_of_isUpper capital]
      exact ⟨by omega, fun _ => by omega⟩
    · rw [Char.toLower_eq_of_not_isUpper capital]
      exact ⟨ascii, id⟩
  refine .single ⟨fun same => ?_, ?_⟩ below.2
  · rw [same] at below
    exact absurd below.1 (by decide)
  · rw [smallForm_eq, if_pos below.1, Char.toLower_toLower_eq_toLower]

theorem ascii_of_toLower {c : Char} (ascii : c.toLower.toNat < 0x80) : c.toNat < 0x80 := by
  by_cases capital : c.isUpper = true
  · have letter := isUpper_iff_toNat.1 capital
    omega
  · rwa [Char.toLower_eq_of_not_isUpper capital] at ascii

theorem not_blank_of_toLower {c : Char} (visible : isBlank c.toLower = false) :
    isBlank c = false := by
  by_cases capital : c.isUpper = true
  · have letter := isUpper_iff_toNat.1 capital
    rw [← Bool.not_eq_true, isBlank_iff]
    omega
  · rwa [Char.toLower_eq_of_not_isUpper capital] at visible

/-- What is ASCII without blanks in small letters is so in letters of any case. -/
theorem plain_of_map_toLower {text : Chars}
    (plain : ∀ d ∈ text.map Char.toLower, d.toNat < 0x80 ∧ isBlank d = false) :
    ∀ c ∈ text, c.toNat < 0x80 ∧ isBlank c = false := fun c among =>
  have small := plain c.toLower (List.mem_map_of_mem among)
  ⟨ascii_of_toLower small.1, not_blank_of_toLower small.2⟩

theorem isSmall_of_ascii {c : Char} (ascii : c.toNat < 0x80) (letter : ¬c.isUpper = true) :
    IsSmall c :=
  (renders_ascii ascii).isSmall c
    (List.mem_singleton.2 (Char.toLower_eq_of_not_isUpper letter).symm)

theorem renders_smallForm {c : Char} (other : c ≠ 'Σ') : Renders c (smallForm c) := by
  rw [smallForm_eq]
  split
  · next ascii => exact renders_ascii ascii
  · next beyond =>
    split
    · next dotted =>
      refine ⟨nofun, fun d among => ?_, fun _ d among => ?_⟩
      · simp only [List.mem_cons, List.not_mem_nil, or_false] at among
        rcases among with rfl | rfl
        · exact ⟨by decide, by decide⟩
        · exact isSmall_of_plain (by decide) (by decide)
      · simp only [List.mem_cons, List.not_mem_nil, or_false] at among
        rcases among with rfl | rfl <;> decide
    · next undotted =>
      split
      · next code found =>
        have plain := inRanges_plainRanges_of_tabulated found
        have read := toNat_ofNat_of_plain plain
        rw [← read] at plain
        refine .single (isSmall_of_plain plain ?_) fun _ => isBlank_of_plain plain
        rw [read]
        exact tabulated?_of_tabulated found
      · next untabulated =>
        refine .single ⟨other, ?_⟩ id
        rw [smallForm_eq, if_neg beyond, if_neg undotted, untabulated]

/-! ## Texts -/

/-- Each character of a text goes over to small letters of its own. -/
theorem exists_lowercaseFrom_cons (afterCased : Bool) (c : Char) (rest : Chars) :
    ∃ small after, Renders c small ∧
      lowercaseFrom afterCased (c :: rest) = small ++ lowercaseFrom after rest := by
  rw [lowercaseFrom]
  by_cases sigma : c = 'Σ'
  · subst sigma
    refine ⟨_, _, ?_, rfl⟩
    have final : Renders 'Σ' ['ς'] := .single ⟨by decide, by decide⟩ fun _ => by decide
    have inner : Renders 'Σ' ['σ'] := .single ⟨by decide, by decide⟩ fun _ => by decide
    rw [if_pos rfl]
    split
    · exact final
    · exact inner
  · refine ⟨_, _, ?_, rfl⟩
    rw [if_neg sigma]
    exact renders_smallForm sigma

theorem isSmall_of_mem_lowercaseFrom {afterCased : Bool} {text : Chars} {d : Char}
    (among : d ∈ lowercaseFrom afterCased text) : IsSmall d := by
  induction text generalizing afterCased with
  | nil => cases among
  | cons c rest ih =>
    obtain ⟨small, after, renders, eq⟩ := exists_lowercaseFrom_cons afterCased c rest
    rw [eq] at among
    rcases List.mem_append.1 among with first | later
    · exact renders.isSmall d first
    · exact ih later

theorem lowercaseFrom_of_small {text : Chars} (small : ∀ c ∈ text, IsSmall c)
    (afterCased : Bool) : lowercaseFrom afterCased text = text := by
  induction text generalizing afterCased with
  | nil => rfl
  | cons c rest ih =>
    have first := small c List.mem_cons_self
    rw [lowercaseFrom, if_neg first.ne_sigma, first.smallForm_eq,
      ih fun d later => small d (List.mem_cons_of_mem c later)]
    rfl

theorem lowercase_of_small {text : Chars} (small : ∀ c ∈ text, IsSmall c) :
    lowercase text = text :=
  lowercaseFrom_of_small small false

/-- Letters of ASCII stand for themselves. -/
theorem lowercase_of_ascii {text : Chars} (ascii : ∀ c ∈ text, c.toNat < 0x80) :
    lowercase text = text.map Char.toLower := by
  suffices whole : ∀ afterCased, lowercaseFrom afterCased text = text.map Char.toLower from
    whole false
  induction text with
  | nil => exact fun _ => rfl
  | cons c rest ih =>
    intro afterCased
    have first := ascii c List.mem_cons_self
    have other : c ≠ 'Σ' := fun sigma => absurd (sigma ▸ first) (by decide)
    rw [lowercaseFrom, if_neg other, smallForm_eq, if_pos first,
      ih fun d later => ascii d (List.mem_cons_of_mem c later)]
    rfl

theorem isSmall_of_mem_lowercase {text : Chars} {d : Char} (among : d ∈ lowercase text) :
    IsSmall d :=
  isSmall_of_mem_lowercaseFrom among

@[simp] theorem lowercase_lowercase (text : Chars) : lowercase (lowercase text) = lowercase text :=
  lowercase_of_small fun _ => isSmall_of_mem_lowercase

theorem lowercaseFrom_eq_nil_iff {afterCased : Bool} {text : Chars} :
    lowercaseFrom afterCased text = [] ↔ text = [] := by
  cases text with
  | nil => exact iff_of_true rfl rfl
  | cons c rest =>
    obtain ⟨small, after, renders, eq⟩ := exists_lowercaseFrom_cons afterCased c rest
    rw [eq]
    exact iff_of_false (fun none => renders.ne_nil (List.append_eq_nil_iff.1 none).1) nofun

theorem not_blank_of_mem_getLast?_lowercaseFrom {afterCased : Bool} {text : Chars} {d : Char}
    (visible : ∀ c ∈ text.getLast?, isBlank c = false)
    (last : d ∈ (lowercaseFrom afterCased text).getLast?) : isBlank d = false := by
  induction text generalizing afterCased with
  | nil => cases last
  | cons c rest ih =>
    obtain ⟨small, after, renders, eq⟩ := exists_lowercaseFrom_cons afterCased c rest
    rw [eq] at last
    cases rest with
    | nil =>
      rw [lowercaseFrom, List.append_nil] at last
      exact renders.notBlank (visible c rfl) d (List.mem_of_getLast? last)
    | cons next more =>
      have nonempty : lowercaseFrom after (next :: more) ≠ [] :=
        mt lowercaseFrom_eq_nil_iff.1 (List.cons_ne_nil next more)
      rw [List.getLast?_append_of_ne_nil _ nonempty] at last
      rw [List.getLast?_cons_cons] at visible
      exact ih visible last

/-- Small letters are blank at an end only where the text was. -/
theorem Trimmed.lowercase {text : Chars} (trimmed : Trimmed text) : Trimmed (lowercase text) where
  first d first := by
    cases text with
    | nil => cases first
    | cons c rest =>
      obtain ⟨small, after, renders, eq⟩ := exists_lowercaseFrom_cons false c rest
      obtain ⟨e, more, rfl⟩ := List.exists_cons_of_ne_nil renders.ne_nil
      rw [Chars.lowercase, eq] at first
      cases first
      exact renders.notBlank (trimmed.first c rfl) _ List.mem_cons_self
  last _ last := not_blank_of_mem_getLast?_lowercaseFrom trimmed.last last

end Chars

namespace Text

/-- No text but the empty one is empty in small letters. -/
theorem lowercase_eq_empty_iff (text : String) : lowercase text = "" ↔ text = "" := by
  rw [lowercase, String.ofList_eq_empty_iff, ← String.toList_eq_nil_iff]
  exact Chars.lowercaseFrom_eq_nil_iff

theorem toList_lowercase (text : String) : (lowercase text).toList = Chars.lowercase text.toList :=
  String.toList_ofList

end Text

end ServerInventory
