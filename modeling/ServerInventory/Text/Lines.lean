import ServerInventory.Text.Blank

/-!
Lines of a text, and the cuts made inside one line: at the first occurrence of a
character, at a leading part, at a trailing part.
-/

namespace ServerInventory

namespace Chars

/-- The lines of a text. A line ends at a line feed, which together with one carriage
return right before it belongs to no line; a last line may lack the line feed. -/
def lines : Chars → List Chars
  | [] => []
  | '\n' :: rest => [] :: lines rest
  | '\r' :: '\n' :: rest => [] :: lines rest
  | c :: rest => pushFront c (lines rest)

/-- What stands before and after the first occurrence of a character. -/
def cut (mark : Char) : Chars → Option (Chars × Chars)
  | [] => none
  | c :: rest =>
    if c = mark then some ([], rest)
    else (cut mark rest).map fun parts => (c :: parts.1, parts.2)

/-- The pieces between the occurrences of a character; always one more than those. -/
def split (mark : Char) : Chars → List Chars
  | [] => [[]]
  | c :: rest => if c = mark then [] :: split mark rest else pushFront c (split mark rest)

/-- Whether `part` occurs in a text as an unbroken stretch. -/
def contains (part : Chars) : Chars → Bool
  | [] => part.isEmpty
  | c :: rest => part.isPrefixOf (c :: rest) || contains part rest

/-- The rest of a text that begins with `part`. -/
def stripStart? (part : Chars) (text : Chars) : Option Chars :=
  if part.isPrefixOf text then some (text.drop part.length) else none

/-- The rest of a text that ends with `part`. -/
def stripEnd? (part : Chars) (text : Chars) : Option Chars :=
  (stripStart? part.reverse text.reverse).map List.reverse

/-- A text from which every leading occurrence of `part` is taken away, one after the
other. -/
def stripAllStart (part : Chars) : Nat → Chars → Chars
  | 0, text => text
  | bound + 1, text =>
    match stripStart? part text with
    | none => text
    | some rest => stripAllStart part bound rest

@[simp] theorem lines_nil : lines [] = [] := rfl

theorem cut_cons_self (mark : Char) (rest : Chars) : cut mark (mark :: rest) = some ([], rest) := by
  simp [cut]

theorem cut_cons_ne {mark c : Char} (different : c ≠ mark) (rest : Chars) :
    cut mark (c :: rest) = (cut mark rest).map fun parts => (c :: parts.1, parts.2) := by
  simp [cut, different]

/-- A cut loses nothing but the character at which it is made. -/
theorem eq_of_cut_eq_some {mark : Char} {text before after : Chars}
    (found : cut mark text = some (before, after)) : text = before ++ mark :: after := by
  induction text generalizing before with
  | nil => simp [cut] at found
  | cons c rest ih =>
    by_cases same : c = mark
    · subst same
      simp only [cut_cons_self, Option.some.injEq, Prod.mk.injEq] at found
      obtain ⟨rfl, rfl⟩ := found
      rfl
    · rw [cut_cons_ne same] at found
      obtain ⟨⟨left, right⟩, cutRest, eq⟩ := Option.map_eq_some_iff.1 found
      simp only [Prod.mk.injEq] at eq
      obtain ⟨rfl, rfl⟩ := eq
      rw [ih cutRest]
      rfl

end Chars

namespace Text

/-- Whether `part` occurs in a text as an unbroken stretch. -/
def contains (text part : String) : Bool :=
  Chars.contains part.toList text.toList

/-- Whether a text begins with `part`. -/
def beginsWith (text part : String) : Bool :=
  part.toList.isPrefixOf text.toList

/-- The rest of a text that begins with `part`. -/
def stripStart? (text part : String) : Option String :=
  (Chars.stripStart? part.toList text.toList).map String.ofList

/-- The rest of a text that ends with `part`. -/
def stripEnd? (text part : String) : Option String :=
  (Chars.stripEnd? part.toList text.toList).map String.ofList

/-- A text from which every leading occurrence of `part` is taken away. -/
def stripAllStart (text part : String) : String :=
  String.ofList (Chars.stripAllStart part.toList text.length text.toList)

/-- The part of a text before the first occurrence of a character, or the whole. -/
def before (mark : Char) (text : String) : String :=
  String.ofList (text.toList.takeWhile (· != mark))

/-- A text with each occurrence of one character replaced by another. -/
def replace (old new : Char) (text : String) : String :=
  String.ofList (text.toList.map fun c => if c = old then new else c)

end Text

end ServerInventory
