import ServerInventory.Json.Reading
import ServerInventory.Json.Writing

/-!
Strings of a document are read as they were written, whatever follows them
(`Json.stringBody_escape`).
-/

namespace ServerInventory

/-! ## Decimal digits -/

namespace Chars

theorem isDigit_toDigits (value : Nat) : ∀ c ∈ Nat.toDigits 10 value, isDigit c = true :=
  fun _ member => Nat.isDigit_of_mem_toDigits (by decide) (by decide) member

theorem digitsValue_toDigits (value : Nat) : digitsValue (Nat.toDigits 10 value) = value := by
  have same := @Nat.ofDigitChars_eq_foldl 10 (Nat.toDigits 10 value) 0
  rw [Nat.ofDigitChars_ten_toDigits] at same
  refine Eq.trans ?_ same.symm
  unfold digitsValue digitValue
  simp only [Nat.mul_comm]

/-- The digits of a positive number do not begin with a zero. -/
theorem head?_toDigits {value : Nat} (positive : 0 < value) :
    (Nat.toDigits 10 value).head? ≠ some '0' := by
  induction value using Nat.strongRecOn with
  | ind value ih =>
    rcases Nat.lt_or_ge value 10 with small | large
    · rw [Nat.toDigits_of_lt_base small]
      have only : ∀ digit : Fin 10, 0 < digit.val → [digit.val.digitChar].head? ≠ some '0' := by
        decide
      exact only ⟨value, small⟩ positive
    · have quotient : 0 < value / 10 := Nat.div_pos large (by decide)
      have first := ih (value / 10) (Nat.div_lt_self positive (by decide)) quotient
      rw [Nat.toDigits_of_base_le (by decide) large, List.head?_append]
      cases front : (Nat.toDigits 10 (value / 10)).head? with
      | none => exact absurd (List.head?_eq_none_iff.1 front) Nat.toDigits_ne_nil
      | some digit =>
        rw [front] at first
        exact first

end Chars

namespace Json

/-! ## Ends of tokens -/

/-- What may stand behind a numeral: nothing that could be a part of it. -/
def EndsNumeral (rest : Chars) : Prop :=
  ∀ c ∈ rest.head?, Chars.isDigit c = false ∧ c ≠ '.' ∧ c ≠ 'e' ∧ c ≠ 'E'

/-! ## Strings -/

variable {rest : Chars}

/-- The characters of a string as they are written between its quotes. -/
def escape (content : Chars) : Chars :=
  content.flatMap fun c => (writeChar c).toList

theorem toList_writeString (content : Quoted) :
    (writeString content).toList = '"' :: escape (content.getD "").toList ++ ['"'] := by
  have written : ∀ (rest : Chars) (done : String),
      (rest.foldl (fun written c => written ++ writeChar c) done).toList =
        done.toList ++ escape rest := by
    intro rest
    induction rest with
    | nil => exact fun done => (List.append_nil done.toList).symm
    | cons c rest ih =>
      intro done
      rw [List.foldl_cons, ih, String.toList_append, List.append_assoc]
      rfl
  unfold writeString
  rw [String.toList_append, String.toList_append, written]
  rfl

theorem stringBody_quote : stringBody none ('"' :: rest) = some (some [], rest) := by
  rw [stringBody]
  rfl

theorem stringBody_letter {letter c : Char} (known : escaped? letter = some c) :
    stringBody none ('\\' :: letter :: rest) = (stringBody none rest).push c := by
  rw [stringBody.eq_4 none letter rest ?_, known]
  · rfl
  · rintro a b x y rest rfl -
    cases known

theorem stringBody_unit {a b c d : Char} {unit : Nat} (read : hexUnit? a b c d = some unit)
    (whole : unit < 0xD800) :
    stringBody none ('\\' :: 'u' :: a :: b :: c :: d :: rest) =
      (stringBody none rest).push (Char.ofNat unit) := by
  have noHigh : isHighHalf unit = false := by unfold isHighHalf; grind
  have noLow : isLowHalf unit = false := by unfold isLowHalf; grind
  rw [stringBody.eq_3, read]
  dsimp only
  rw [noHigh, noLow]
  rfl

theorem stringBody_plain {c : Char} (noQuote : c ≠ '"') (noSlash : c ≠ '\\')
    (noControl : ¬ c.toNat < 0x20) :
    stringBody none (c :: rest) = (stringBody none rest).push c := by
  rw [stringBody.eq_5 none c rest noQuote (fun _ _ _ _ _ same => absurd same noSlash)
    (fun _ _ same => absurd same noSlash), if_neg noControl]
  rfl

/-- The four digits that a control is written with, read back. -/
theorem hexUnit?_hexDigits : ∀ code : Fin 0x20,
    (match Chars.hexDigits 4 code.val with
      | [a, b, c, d] => hexUnit? a b c d
      | _ => none) = some code.val := by
  decide +kernel

theorem stringBody_control {c : Char} (control : c.toNat < 0x20) :
    stringBody none ('\\' :: 'u' :: (Chars.hexDigits 4 c.toNat ++ rest)) =
      (stringBody none rest).push c := by
  have read := hexUnit?_hexDigits ⟨c.toNat, control⟩
  dsimp only at read
  split at read
  · rename_i digits
    rw [digits]
    refine (stringBody_unit read (Nat.lt_trans control (by decide))).trans ?_
    rw [Char.ofNat_toNat]
    rfl
  · cases read

/-- A character is read as it was written, and stands in front of what follows. -/
theorem stringBody_writeChar (c : Char) :
    stringBody none ((writeChar c).toList ++ rest) = (stringBody none rest).push c := by
  unfold writeChar
  split
  case h_8 noQuote noSlash _ _ _ _ _ =>
    split
    · rename_i control
      have front : "\\u".toList = ['\\', 'u'] := rfl
      rw [String.toList_append, front, String.toList_ofList, List.append_assoc]
      exact stringBody_control control
    · rename_i noControl
      rw [String.toList_singleton]
      exact stringBody_plain noQuote noSlash noControl
  all_goals exact stringBody_letter rfl

theorem stringBody_escape (content : Chars) :
    stringBody none (escape content ++ '"' :: rest) = some (some content, rest) := by
  induction content with
  | nil => exact stringBody_quote
  | cons c content ih =>
    show stringBody none (((writeChar c).toList ++ escape content) ++ '"' :: rest) = _
    rw [List.append_assoc, stringBody_writeChar, ih]
    rfl

theorem string?_escape (content : String) :
    string? (escape content.toList ++ '"' :: rest) = some (some content, rest) := by
  unfold string?
  rw [stringBody_escape, Option.map_some, Option.map_some, String.ofList_toList]

end Json

end ServerInventory
