import Mathlib
import ServerInventory.Text.Blank

/-!
What trimming leaves behind. A trimmed text neither begins nor ends with a blank; trimming
makes every text one of these, changes none that is one already, and takes no notice of
blanks that stand around a text.
-/

namespace ServerInventory

namespace Chars

theorem isBlank_iff {c : Char} :
    isBlank c = true ↔
      (0x9 ≤ c.toNat ∧ c.toNat ≤ 0xD) ∨ c.toNat = 0x20 ∨ c.toNat = 0x85 ∨ c.toNat = 0xA0 ∨
        c.toNat = 0x1680 ∨ (0x2000 ≤ c.toNat ∧ c.toNat ≤ 0x200A) ∨ c.toNat = 0x2028 ∨
        c.toNat = 0x2029 ∨ c.toNat = 0x202F ∨ c.toNat = 0x205F ∨ c.toNat = 0x3000 := by
  simp only [isBlank, Bool.or_eq_true, Bool.and_eq_true, decide_eq_true_eq, beq_iff_eq, or_assoc]

/-- A text that neither begins nor ends with a blank. -/
structure Trimmed (text : Chars) : Prop where
  first : ∀ c ∈ text.head?, isBlank c = false
  last : ∀ c ∈ text.getLast?, isBlank c = false

theorem Trimmed.of_visible {text : Chars} (visible : ∀ c ∈ text, isBlank c = false) :
    Trimmed text where
  first c first := visible c (List.mem_of_mem_head? first)
  last c last := visible c (List.mem_of_getLast? last)

theorem allBlank_iff {text : Chars} : allBlank text = true ↔ ∀ c ∈ text, isBlank c = true :=
  List.all_eq_true

theorem trimEnd_eq (text : Chars) : trimEnd text = (trimStart text.reverse).reverse := rfl

theorem trimStart_of_first {text : Chars} (first : ∀ c ∈ text.head?, isBlank c = false) :
    trimStart text = text := by
  cases text with
  | nil => rfl
  | cons c rest => rw [trimStart, List.dropWhile_cons_of_neg (by simp [first c rfl])]

theorem not_blank_of_mem_head?_trimStart {text : Chars} {c : Char}
    (first : c ∈ (trimStart text).head?) : isBlank c = false := by
  have stopped := List.head?_dropWhile_not isBlank text
  rw [trimStart] at first
  rw [Option.mem_def.1 first] at stopped
  exact stopped

theorem trimEnd_prefix_of (text : Chars) : trimEnd text <+: text := by
  rw [trimEnd_eq, ← List.reverse_suffix, List.reverse_reverse]
  exact List.dropWhile_suffix isBlank

theorem Trimmed.trim_eq {text : Chars} (trimmed : Trimmed text) : trim text = text := by
  have back : trimStart text.reverse = text.reverse :=
    trimStart_of_first fun c first => trimmed.last c (by rwa [List.head?_reverse] at first)
  rw [trim, trimStart_of_first trimmed.first, trimEnd_eq, back, List.reverse_reverse]

theorem trimmed_trim (text : Chars) : Trimmed (trim text) where
  first c first := by
    -- What is cut off at the end leaves the first character, if it leaves any.
    obtain ⟨cutOff, whole⟩ := trimEnd_prefix_of (trimStart text)
    have kept : c ∈ (trimStart text).head? := by
      rw [← whole]
      exact List.mem_head?_append_of_mem_head? first
    exact not_blank_of_mem_head?_trimStart kept
  last c last := by
    rw [trim, trimEnd_eq, List.getLast?_reverse] at last
    exact not_blank_of_mem_head?_trimStart last

theorem trim_eq_self_iff {text : Chars} : trim text = text ↔ Trimmed text :=
  ⟨fun same => same ▸ trimmed_trim text, Trimmed.trim_eq⟩

@[simp] theorem trim_trim (text : Chars) : trim (trim text) = trim text :=
  (trimmed_trim text).trim_eq

theorem mem_of_mem_trim {text : Chars} {c : Char} (kept : c ∈ trim text) : c ∈ text :=
  (List.dropWhile_suffix isBlank).subset ((trimEnd_prefix_of (trimStart text)).subset kept)

theorem trimStart_append_left {front : Chars} (blank : allBlank front = true) (text : Chars) :
    trimStart (front ++ text) = trimStart text :=
  List.dropWhile_append_of_pos (allBlank_iff.1 blank)

theorem trimEnd_append_right {back : Chars} (blank : allBlank back = true) (text : Chars) :
    trimEnd (text ++ back) = trimEnd text := by
  have mirrored : allBlank back.reverse = true := by rwa [allBlank, List.all_reverse]
  rw [trimEnd_eq, List.reverse_append, trimStart_append_left mirrored, ← trimEnd_eq]

theorem trimStart_of_allBlank {text : Chars} (blank : allBlank text = true) :
    trimStart text = [] :=
  List.dropWhile_eq_nil_iff.2 (allBlank_iff.1 blank)

/-- Blanks around a text do not count. -/
theorem trim_surrounded {front back : Chars} (blankFront : allBlank front = true)
    (blankBack : allBlank back = true) (text : Chars) :
    trim (front ++ text ++ back) = trim text := by
  rw [trim, List.append_assoc, trimStart_append_left blankFront, trim, trimStart,
    List.dropWhile_append]
  split
  · next nothing =>
    have empty : trimStart text = [] := List.isEmpty_iff.1 nothing
    have gone : List.dropWhile isBlank back = [] := trimStart_of_allBlank blankBack
    rw [gone, empty]
  · exact trimEnd_append_right blankBack _

end Chars

namespace Text

theorem toList_trim (text : String) : (trim text).toList = Chars.trim text.toList :=
  String.toList_ofList

end Text

end ServerInventory
