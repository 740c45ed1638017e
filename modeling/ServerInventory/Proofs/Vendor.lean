import ServerInventory.Proofs.Text.LetterCase
import ServerInventory.Vendor

/-!
The keys under which vendors are known. A key is its own key (`Vendor.canonical_canonical`), and
the key of a name depends neither on blanks around the name nor on the case of its ASCII letters
(`Vendor.canonical_of_respells`).
-/

namespace ServerInventory.Vendor

/-- Whether a text is another one with blanks around it. -/
def Surrounds (core text : Chars) : Prop :=
  ∃ front back, text = front ++ core ++ back ∧ Chars.allBlank front = true ∧
    Chars.allBlank back = true

/-- Whether two names differ in the blanks around them and in the case of ASCII letters alone. -/
def Respells (left right : String) : Prop :=
  ∃ core other : Chars, core.map Char.toLower = other.map Char.toLower ∧
    Surrounds core left.toList ∧ Surrounds other right.toList

theorem Surrounds.trim_eq {core text : Chars} (surrounds : Surrounds core text) :
    Chars.trim text = Chars.trim core := by
  obtain ⟨front, back, rfl, blankFront, blankBack⟩ := surrounds
  exact Chars.trim_surrounded blankFront blankBack core

variable {left right : String}

/-- Names that differ in no more than that are looked up alike. -/
theorem Respells.spelling_eq (respells : Respells left right) :
    Text.lowercase (Text.trim left) = Text.lowercase (Text.trim right) := by
  obtain ⟨core, other, same, first, second⟩ := respells
  have trimmed := congrArg Chars.trim same
  rw [Chars.trim_map_toLower, Chars.trim_map_toLower] at trimmed
  have small := congrArg Chars.lowercase trimmed
  rw [Chars.lowercase_map_toLower, Chars.lowercase_map_toLower] at small
  rw [← String.toList_inj, Text.toList_lowercase, Text.toList_lowercase, Text.toList_trim,
    Text.toList_trim, first.trim_eq, second.trim_eq, small]

theorem canonical_of_respells (respells : Respells left right) :
    canonical left = canonical right := by
  rw [canonical, canonical, respells.spelling_eq]

/-- What is looked up for a name is looked up as it stands. -/
theorem spelling_spelling (name : String) :
    Text.lowercase (Text.trim (Text.lowercase (Text.trim name))) =
      Text.lowercase (Text.trim name) := by
  have trimmed := (Chars.trimmed_trim name.toList).lowercase.trim_eq
  simp only [← String.toList_inj, Text.toList_lowercase, Text.toList_trim, trimmed,
    Chars.lowercase_lowercase]

/-- Every key is its own, and the key of each spelling that is known for it. -/
theorem spellings_canonical :
    (spellings.all fun vendor => canonical vendor.1 == vendor.1 &&
      vendor.2.all fun spelling => canonical spelling == vendor.1) = true := by
  decide +kernel

theorem canonical_of_mem_spellings {vendor : String × List String} (known : vendor ∈ spellings) :
    canonical vendor.1 = vendor.1 ∧ ∀ spelling ∈ vendor.2, canonical spelling = vendor.1 := by
  have checked := List.all_eq_true.1 spellings_canonical vendor known
  simpa only [Bool.and_eq_true, beq_iff_eq, List.all_eq_true] using checked

theorem canonical_canonical (name : String) : canonical (canonical name) = canonical name := by
  cases found : ofSpelling? (Text.lowercase (Text.trim name)) with
  | none =>
    have unknown : canonical name = Text.lowercase (Text.trim name) := by
      rw [canonical, found, Option.getD_none]
    rw [unknown, canonical, spelling_spelling, found, Option.getD_none]
  | some key =>
    obtain ⟨vendor, among, rfl⟩ := Option.map_eq_some_iff.1 found
    have known : canonical name = vendor.1 := by
      rw [canonical, found, Option.getD_some]
    rw [known, (canonical_of_mem_spellings (List.mem_of_find?_eq_some among)).1]

end ServerInventory.Vendor
