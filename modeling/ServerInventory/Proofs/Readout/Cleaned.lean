import ServerInventory.Proofs.Json.Numbers
import ServerInventory.Proofs.Text.Lowercase
import ServerInventory.Readout.Cleaned

/-!
What stands for absent data, and what does not. Cleaning takes every placeholder out and
leaves none behind, also when the text is brought to small letters afterwards, and the text
of a number is no placeholder.
-/

namespace ServerInventory

/-- A text that stands for absent data, with whatever blanks and capitals it is printed. -/
def IsPlaceholder (text : String) : Prop :=
  Text.lowercase (Text.trim text) ∈ placeholders

instance (text : String) : Decidable (IsPlaceholder text) :=
  inferInstanceAs (Decidable (_ ∈ placeholders))

theorem contains_placeholders_iff {text : String} :
    placeholders.contains (Text.lowercase (Text.trim text)) = true ↔ IsPlaceholder text := by
  rw [List.contains_iff_mem, IsPlaceholder]

theorem cleaned_of_isPlaceholder {text : String} (absent : IsPlaceholder text) :
    cleaned text = "" := by
  rw [← contains_placeholders_iff] at absent
  rw [cleaned, if_pos absent]

theorem cleaned_of_not_isPlaceholder {text : String} (known : ¬IsPlaceholder text) :
    cleaned text = Text.trim text := by
  rw [← contains_placeholders_iff] at known
  rw [cleaned, if_neg known]

/-- A text that is trimmed and in small letters is asked for as it stands. -/
theorem isPlaceholder_iff_mem {text : String} (trimmed : Chars.Trimmed text.toList)
    (small : ∀ c ∈ text.toList, Chars.IsSmall c) : IsPlaceholder text ↔ text ∈ placeholders := by
  rw [IsPlaceholder, Text.lowercase, Text.toList_trim, trimmed.trim_eq,
    Chars.lowercase_of_small small, String.ofList_toList]

theorem isPlaceholder_trim (text : String) :
    IsPlaceholder (Text.trim text) ↔ IsPlaceholder text := by
  rw [IsPlaceholder, IsPlaceholder, Text.trim, Text.toList_trim, Chars.trim_trim, Text.trim]

theorem isPlaceholder_lowercase_trim (text : String) :
    IsPlaceholder (Text.lowercase (Text.trim text)) ↔ IsPlaceholder text := by
  refine isPlaceholder_iff_mem ?_ ?_
  · rw [Text.toList_lowercase, Text.toList_trim]
    exact (Chars.trimmed_trim text.toList).lowercase
  · rw [Text.toList_lowercase]
    exact fun c => Chars.isSmall_of_mem_lowercase

theorem not_isPlaceholder_empty : ¬IsPlaceholder "" := by decide +kernel

theorem not_isPlaceholder_cleaned (text : String) : ¬IsPlaceholder (cleaned text) := by
  by_cases absent : IsPlaceholder text
  · rw [cleaned_of_isPlaceholder absent]
    exact not_isPlaceholder_empty
  · rwa [cleaned_of_not_isPlaceholder absent, isPlaceholder_trim]

theorem not_isPlaceholder_lowercase_cleaned (text : String) :
    ¬IsPlaceholder (Text.lowercase (cleaned text)) := by
  by_cases absent : IsPlaceholder text
  · rw [cleaned_of_isPlaceholder absent]
    exact not_isPlaceholder_empty
  · rwa [cleaned_of_not_isPlaceholder absent, isPlaceholder_lowercase_trim]

/-! ## Numbers -/

/-- Every placeholder has a letter that no number has. -/
theorem placeholders_not_numeric :
    (placeholders.all fun text => text.toList.any fun c => !Chars.isNumeric c) = true := by
  decide +kernel

theorem isSmall_of_isNumeric {c : Char} (numeric : Chars.isNumeric c = true) :
    Chars.IsSmall c := by
  simp only [Chars.isNumeric, Bool.or_eq_true, beq_iff_eq] at numeric
  rcases numeric with (((digit | rfl) | rfl) | rfl) | rfl
  · have bounds := Chars.isDigit_iff_toNat.1 digit
    exact Chars.isSmall_of_ascii (by omega) fun capital => by
      have letter := Chars.isUpper_iff_toNat.1 capital
      omega
  all_goals exact Chars.isSmall_of_ascii (by decide) (by decide)

theorem not_isPlaceholder_number (number : Json.Number) : ¬IsPlaceholder number.text := by
  intro placeholder
  obtain ⟨c, among, other⟩ :=
    List.any_eq_true.1 (List.all_eq_true.1 placeholders_not_numeric _ placeholder)
  have numeric : ∀ d ∈ Chars.trim number.text.toList, Chars.isNumeric d = true :=
    fun d kept => number.isNumeric_of_mem_text d (Chars.mem_of_mem_trim kept)
  rw [Text.toList_lowercase, Text.toList_trim,
    Chars.lowercase_of_small fun d kept => isSmall_of_isNumeric (numeric d kept)] at among
  rw [numeric c among] at other
  cases other

end ServerInventory
