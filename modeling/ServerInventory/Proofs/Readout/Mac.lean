import ServerInventory.Proofs.Readout.Cleaned
import ServerInventory.Readout.Mac

/-!
MAC addresses brought to one spelling. Formatting puts colons between the pairs of twelve
digits and brings anything else to small letters. What it leaves it would not change again
(`Mac.format_format`), and a placeholder it leaves exactly where one was printed
(`Mac.isPlaceholder_format`).
-/

namespace ServerInventory

namespace Chars

theorem isHexDigit_iff_toNat {c : Char} :
    isHexDigit c = true ↔ (0x30 ≤ c.toNat ∧ c.toNat ≤ 0x39) ∨ (0x61 ≤ c.toNat ∧ c.toNat ≤ 0x66) ∨
      (0x41 ≤ c.toNat ∧ c.toNat ≤ 0x46) := by
  simp only [isHexDigit, hexValue?, Char.le_def, UInt32.le_iff_toNat_le, Bool.and_eq_true,
    decide_eq_true_eq]
  split_ifs with decimal small capital
  · exact iff_of_true rfl (.inl decimal)
  · exact iff_of_true rfl (.inr (.inl small))
  · exact iff_of_true rfl (.inr (.inr capital))
  · exact iff_of_false nofun fun digit => digit.elim decimal (·.elim small capital)

theorem not_isBlank_of_isHexDigit {c : Char} (digit : isHexDigit c = true) :
    isBlank c = false := by
  have bounds := isHexDigit_iff_toNat.1 digit
  rw [← Bool.not_eq_true, isBlank_iff]
  omega

end Chars

namespace Mac

theorem mem_colonize {text : Chars} {c : Char} (among : c ∈ colonize text) :
    c = ':' ∨ c ∈ text := by
  induction text using colonize.induct with
  | case1 first second next rest ih =>
    rw [colonize] at among
    simp only [List.mem_cons] at among ih ⊢
    rcases among with rfl | rfl | rfl | later
    · exact .inr (.inl rfl)
    · exact .inr (.inr (.inl rfl))
    · exact .inl rfl
    · rcases ih later with colon | rest
      · exact .inl colon
      · exact .inr (.inr (.inr rest))
  | case2 text short =>
    rw [colonize.eq_2 text short] at among
    exact .inr among

theorem colon_mem_colonize {text : Chars} (long : 2 < text.length) : ':' ∈ colonize text := by
  match text, long with
  | first :: second :: next :: rest, _ =>
    rw [colonize]
    simp only [List.mem_cons, true_or, or_true]

/-- Twelve hexadecimal digits, as an address is printed without colons. -/
def IsBare (text : Chars) : Prop :=
  text.length = 12 ∧ ∀ c ∈ text, Chars.isHexDigit c = true

/-- What a text is brought to: small letters, and colons between the pairs of bare digits. -/
theorem toList_format (text : String) :
    ((format text).toList = Chars.lowercase (Chars.trim text.toList) ∧
        ¬IsBare (Chars.lowercase (Chars.trim text.toList))) ∨
      ((format text).toList = colonize (Chars.lowercase (Chars.trim text.toList)) ∧
        IsBare (Chars.lowercase (Chars.trim text.toList))) := by
  rw [format, String.toList_ofList]
  split
  · next bare =>
    simp only [Bool.and_eq_true, decide_eq_true_eq, List.all_eq_true] at bare
    exact .inr ⟨rfl, bare⟩
  · next other =>
    simp only [Bool.and_eq_true, decide_eq_true_eq, List.all_eq_true] at other
    exact .inl ⟨rfl, other⟩

/-- A text in the one spelling: small letters that are no bare digits, without blanks
around them. -/
structure Formatted (text : Chars) : Prop where
  trimmed : Chars.Trimmed text
  isSmall : ∀ c ∈ text, Chars.IsSmall c
  notBare : ¬IsBare text

theorem IsBare.formatted_colonize {digits : Chars} (bare : IsBare digits)
    (small : ∀ c ∈ digits, Chars.IsSmall c) : Formatted (colonize digits) where
  trimmed := .of_visible fun c among => by
    rcases mem_colonize among with rfl | digit
    · decide
    · exact Chars.not_isBlank_of_isHexDigit (bare.2 c digit)
  isSmall c among := by
    rcases mem_colonize among with rfl | digit
    · exact Chars.isSmall_of_ascii (by decide) (by decide)
    · exact small c digit
  notBare still := by
    have long : 2 < digits.length := bare.1.symm ▸ by decide
    exact absurd (still.2 ':' (colon_mem_colonize long)) (by decide)

theorem formatted_format (text : String) : Formatted (format text).toList := by
  have small : ∀ c ∈ Chars.lowercase (Chars.trim text.toList), Chars.IsSmall c :=
    fun _ => Chars.isSmall_of_mem_lowercase
  rcases toList_format text with ⟨same, other⟩ | ⟨same, bare⟩
  · rw [same]
    exact ⟨(Chars.trimmed_trim text.toList).lowercase, small, other⟩
  · rw [same]
    exact bare.formatted_colonize small

theorem Formatted.format_eq {text : String} (formatted : Formatted text.toList) :
    format text = text := by
  have still := toList_format text
  rw [formatted.trimmed.trim_eq, Chars.lowercase_of_small formatted.isSmall] at still
  rcases still with ⟨same, -⟩ | ⟨-, bare⟩
  · exact String.toList_inj.1 same
  · exact absurd bare formatted.notBare

/-- Formatting a second time changes nothing. -/
theorem format_format (text : String) : format (format text) = format text :=
  (formatted_format text).format_eq

/-- No placeholder is as long as bare digits, and none has a colon. -/
theorem placeholders_unlike_addresses :
    (placeholders.all fun text => text.toList.length != 12 && !text.toList.contains ':') = true := by
  decide +kernel

theorem unlike_of_mem_placeholders {text : String} (among : text ∈ placeholders) :
    text.toList.length ≠ 12 ∧ ':' ∉ text.toList := by
  have unlike := List.all_eq_true.1 placeholders_unlike_addresses text among
  simp only [Bool.and_eq_true, bne_iff_ne, Bool.not_eq_true', ← Bool.not_eq_true,
    List.contains_iff_mem] at unlike
  exact unlike

theorem not_isPlaceholder_of_colon {text : String}
    (colon : ':' ∈ Chars.lowercase (Chars.trim text.toList)) : ¬IsPlaceholder text := by
  intro placeholder
  have unlike := (unlike_of_mem_placeholders placeholder).2
  rw [Text.toList_lowercase, Text.toList_trim] at unlike
  exact unlike colon

theorem isPlaceholder_format (text : String) :
    IsPlaceholder (format text) ↔ IsPlaceholder text := by
  rcases toList_format text with ⟨same, -⟩ | ⟨same, bare⟩
  · have eq : format text = Text.lowercase (Text.trim text) := by
      rw [← String.toList_inj, same, Text.toList_lowercase, Text.toList_trim]
    rw [eq, isPlaceholder_lowercase_trim]
  · have formatted := formatted_format text
    have long : 2 < (Chars.lowercase (Chars.trim text.toList)).length := bare.1.symm ▸ by decide
    refine iff_of_false (not_isPlaceholder_of_colon ?_) fun placeholder => ?_
    · rw [formatted.trimmed.trim_eq, Chars.lowercase_of_small formatted.isSmall, same]
      exact colon_mem_colonize long
    · have length := (unlike_of_mem_placeholders placeholder).1
      rw [Text.toList_lowercase, Text.toList_trim] at length
      exact length bare.1

end Mac

end ServerInventory
