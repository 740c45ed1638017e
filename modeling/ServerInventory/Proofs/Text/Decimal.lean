import ServerInventory.Proofs.Json.Numbers
import ServerInventory.Proofs.Text.Trimming

/-!
Integers in decimal digits. Whatever its size, an integer is read from each text that writes
it (`Chars.IsDecimal.integer?_eq`), its usual one among them (`Chars.decimal_toString`).
-/

namespace ServerInventory.Chars

/-- Whether a text writes an integer: in digits, zeros in front among them, behind a sign or
none. -/
inductive IsDecimal : Chars → Int → Prop
  | plain {digits : Chars} (filled : digits ≠ []) (each : AllDigits digits) :
      IsDecimal digits (digitsValue digits)
  | plus {digits : Chars} (filled : digits ≠ []) (each : AllDigits digits) :
      IsDecimal ('+' :: digits) (digitsValue digits)
  | minus {digits : Chars} (filled : digits ≠ []) (each : AllDigits digits) :
      IsDecimal ('-' :: digits) (-(digitsValue digits : Int))

/-- The usual way to write an integer is one. -/
theorem decimal_toString (value : Int) : IsDecimal (toString value).toList value := by
  cases value with
  | ofNat value =>
    have digits : (toString (Int.ofNat value)).toList = Nat.toDigits 10 value :=
      String.toList_ofList
    have written := IsDecimal.plain Nat.toDigits_ne_nil (AllDigits.toDigits value)
    rw [digitsValue_toDigits] at written
    exact digits ▸ written
  | negSucc value =>
    have digits : (toString (Int.negSucc value)).toList = '-' :: Nat.toDigits 10 (value + 1) :=
      String.toList_append.trans (congrArg ('-' :: ·) String.toList_ofList)
    have written := IsDecimal.minus Nat.toDigits_ne_nil (AllDigits.toDigits (value + 1))
    rw [digitsValue_toDigits] at written
    exact digits ▸ written

variable {text digits : Chars} {value : Int}

theorem natural?_of_allDigits (filled : digits ≠ []) (each : AllDigits digits) :
    natural? digits = some (digitsValue digits) := by
  rw [natural?, if_pos]
  rw [Bool.and_eq_true, Bool.not_eq_true', List.isEmpty_eq_false_iff, List.all_eq_true]
  exact ⟨filled, each⟩

theorem IsDecimal.integer?_eq (written : IsDecimal text value) : integer? text = some value := by
  cases written with
  | plain filled each =>
    obtain ⟨c, rest, rfl⟩ := List.exists_cons_of_ne_nil filled
    have digit := each c List.mem_cons_self
    rw [integer?, natural?_of_allDigits filled each]
    · rfl
    · rintro _ ⟨⟩
      exact absurd digit (by decide)
    · rintro _ ⟨⟩
      exact absurd digit (by decide)
  | plus filled each =>
    rw [integer?, natural?_of_allDigits filled each]
    rfl
  | minus filled each =>
    rw [integer?, natural?_of_allDigits filled each]
    rfl

theorem IsDecimal.ne_nil (written : IsDecimal text value) : text ≠ [] := by
  cases written with
  | plain filled => exact filled
  | plus => exact List.cons_ne_nil _ _
  | minus => exact List.cons_ne_nil _ _

theorem IsDecimal.isNumeric_of_mem (written : IsDecimal text value) :
    ∀ c ∈ text, isNumeric c = true := by
  cases written with
  | plain _ each => exact fun c among => isNumeric_of_isDigit (each c among)
  | plus _ each =>
    exact List.forall_mem_cons.2 ⟨by decide, fun c among => isNumeric_of_isDigit (each c among)⟩
  | minus _ each =>
    exact List.forall_mem_cons.2 ⟨by decide, fun c among => isNumeric_of_isDigit (each c among)⟩

theorem not_isBlank_of_isNumeric {c : Char} (numeric : isNumeric c = true) :
    isBlank c = false := by
  simp only [isNumeric, Bool.or_eq_true, beq_iff_eq] at numeric
  rcases numeric with (((digit | rfl) | rfl) | rfl) | rfl
  · have bounds := isDigit_iff_toNat.1 digit
    rw [← Bool.not_eq_true, isBlank_iff]
    omega
  all_goals decide

theorem IsDecimal.visible (written : IsDecimal text value) : ∀ c ∈ text, isBlank c = false :=
  fun c among => not_isBlank_of_isNumeric (written.isNumeric_of_mem c among)

end ServerInventory.Chars
