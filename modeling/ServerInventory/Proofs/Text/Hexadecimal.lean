import ServerInventory.Proofs.Text.Lowercase
import ServerInventory.Text.Numeral

/-!
Numbers in hexadecimal digits. Digits of a given width denote the number for which they are
written (`Chars.hexValue_hexDigits`), stretches of digits one behind the other count by their
place (`Chars.hexValue_append`), and a number has one row of small digits of each width
(`Chars.eq_of_hexValue_eq`).
-/

namespace ServerInventory.Chars

/-! ## Digits -/

/-- A hexadecimal digit that is no capital letter. -/
def IsSmallHex (c : Char) : Prop :=
  isHexDigit c = true ∧ c.toLower = c

/-- What holds of the sixteen digits that numbers are written with. -/
theorem digitChar_hex : ∀ digit : Fin 16, hexValue? digit.val.digitChar = some digit.val ∧
    digit.val.digitChar.toLower = digit.val.digitChar := by
  decide

theorem hexValue?_digitChar {digit : Nat} (bound : digit < 16) :
    hexValue? digit.digitChar = some digit :=
  (digitChar_hex ⟨digit, bound⟩).1

theorem isSmallHex_digitChar {digit : Nat} (bound : digit < 16) : IsSmallHex digit.digitChar := by
  refine ⟨?_, (digitChar_hex ⟨digit, bound⟩).2⟩
  rw [isHexDigit, hexValue?_digitChar bound]
  rfl

/-- The value of a digit, seen through the code point of the digit. -/
theorem hexValue?_eq_some_iff {c : Char} {value : Nat} :
    hexValue? c = some value ↔
      (0x30 ≤ c.toNat ∧ c.toNat ≤ 0x39 ∧ value + 0x30 = c.toNat) ∨
        (0x61 ≤ c.toNat ∧ c.toNat ≤ 0x66 ∧ value + 0x57 = c.toNat) ∨
        (0x41 ≤ c.toNat ∧ c.toNat ≤ 0x46 ∧ value + 0x37 = c.toNat) := by
  have zero : '0'.toNat = 0x30 := rfl
  have small : 'a'.toNat = 0x61 := rfl
  have large : 'A'.toNat = 0x41 := rfl
  have decimal : ('0' ≤ c ∧ c ≤ '9') ↔ 0x30 ≤ c.toNat ∧ c.toNat ≤ 0x39 := Iff.rfl
  have letter : ('a' ≤ c ∧ c ≤ 'f') ↔ 0x61 ≤ c.toNat ∧ c.toNat ≤ 0x66 := Iff.rfl
  have capital : ('A' ≤ c ∧ c ≤ 'F') ↔ 0x41 ≤ c.toNat ∧ c.toNat ≤ 0x46 := Iff.rfl
  simp only [hexValue?, Bool.and_eq_true, decide_eq_true_eq, decimal, letter, capital]
  split_ifs with isDecimal isSmall isCapital
  · rw [Option.some.injEq]
    omega
  · rw [Option.some.injEq]
    omega
  · rw [Option.some.injEq]
    omega
  · refine iff_of_false nofun fun bounds => ?_
    omega

theorem hexValue?_toLower (c : Char) : hexValue? c.toLower = hexValue? c := by
  by_cases capital : c.isUpper = true
  · have letter := isUpper_iff_toNat.1 capital
    have small := toNat_toLower_of_isUpper capital
    ext value
    rw [hexValue?_eq_some_iff, hexValue?_eq_some_iff]
    omega
  · rw [Char.toLower_eq_of_not_isUpper capital]

/-! ## Rows of digits -/

/-- The number that hexadecimal digits denote, the highest digit first. -/
def hexValue (digits : Chars) : Nat :=
  digits.foldl (fun value c => value * 16 + (hexValue? c).getD 0) 0

theorem hexValue_concat (digits : Chars) (c : Char) :
    hexValue (digits ++ [c]) = hexValue digits * 16 + (hexValue? c).getD 0 := by
  rw [hexValue, List.foldl_append]
  rfl

/-- Digits in front of others count by the place at which they stand. -/
theorem hexValue_append (front back : Chars) :
    hexValue (front ++ back) = hexValue front * 16 ^ back.length + hexValue back := by
  induction back using List.reverseRecOn with
  | nil => simp [hexValue]
  | append_singleton back c ih =>
    rw [← List.append_assoc, hexValue_concat, hexValue_concat, ih, List.length_append,
      List.length_singleton, Nat.pow_succ]
    ring

theorem hexValue_map_toLower (digits : Chars) :
    hexValue (digits.map Char.toLower) = hexValue digits := by
  rw [hexValue, hexValue, List.foldl_map]
  simp only [hexValue?_toLower]

theorem hexValue_zeros (count : Nat) : hexValue (List.replicate count '0') = 0 := by
  induction count with
  | zero => rfl
  | succ count ih =>
    rw [List.replicate_succ', hexValue_concat, ih]
    rfl

/-! ## Written numbers -/

theorem hexValue_toDigits (value : Nat) : hexValue (Nat.toDigits 16 value) = value := by
  induction value using Nat.strongRecOn with
  | ind value ih =>
    rcases Nat.lt_or_ge value 16 with small | large
    · rw [Nat.toDigits_of_lt_base small, hexValue, List.foldl_cons, List.foldl_nil,
        hexValue?_digitChar small, Option.getD_some, Nat.zero_mul, Nat.zero_add]
    · rw [Nat.toDigits_of_base_le (by decide) large, hexValue_concat,
        ih _ (Nat.div_lt_self (by omega) (by decide)),
        hexValue?_digitChar (Nat.mod_lt _ (by decide)), Option.getD_some]
      omega

theorem isSmallHex_of_mem_toDigits {value : Nat} {c : Char} (among : c ∈ Nat.toDigits 16 value) :
    IsSmallHex c := by
  induction value using Nat.strongRecOn with
  | ind value ih =>
    rcases Nat.lt_or_ge value 16 with small | large
    · rw [Nat.toDigits_of_lt_base small, List.mem_singleton] at among
      exact among ▸ isSmallHex_digitChar small
    · rw [Nat.toDigits_of_base_le (by decide) large, List.mem_append, List.mem_singleton] at among
      rcases among with higher | rfl
      · exact ih _ (Nat.div_lt_self (by omega) (by decide)) higher
      · exact isSmallHex_digitChar (Nat.mod_lt _ (by decide))

/-- Zeros in front change nothing. -/
theorem hexValue_hexDigits (width value : Nat) : hexValue (hexDigits width value) = value := by
  rw [hexDigits, hexValue_append, hexValue_zeros, hexValue_toDigits, Nat.zero_mul, Nat.zero_add]

theorem length_hexDigits {width value : Nat} (positive : 0 < width) (bound : value < 16 ^ width) :
    (hexDigits width value).length = width := by
  have atMost := (Nat.length_toDigits_le_iff (by decide : 1 < 16) positive).2 bound
  rw [hexDigits, List.length_append, List.length_replicate]
  omega

theorem isSmallHex_of_mem_hexDigits {width value : Nat} {c : Char}
    (among : c ∈ hexDigits width value) : IsSmallHex c := by
  rcases List.mem_append.1 among with zero | digit
  · rw [List.eq_of_mem_replicate zero]
    exact isSmallHex_digitChar (by decide : 0 < 16)
  · exact isSmallHex_of_mem_toDigits digit

/-! ## One row for each number -/

theorem exists_hexValue? {c : Char} (digit : isHexDigit c = true) :
    ∃ value < 16, hexValue? c = some value := by
  obtain ⟨value, found⟩ := Option.isSome_iff_exists.1 digit
  have bounds := hexValue?_eq_some_iff.1 found
  exact ⟨value, by omega, found⟩

/-- Small digits of one value are one digit. -/
theorem IsSmallHex.eq {c d : Char} (left : IsSmallHex c) (right : IsSmallHex d)
    (same : hexValue? c = hexValue? d) : c = d := by
  have uncapital : ∀ {e : Char}, e.toLower = e → ¬(0x41 ≤ e.toNat ∧ e.toNat ≤ 0x5A) :=
    fun {e} small letter => by
      have shifted := toNat_toLower_of_isUpper (isUpper_iff_toNat.2 letter)
      rw [small] at shifted
      omega
  obtain ⟨value, -, found⟩ := exists_hexValue? left.1
  have here := hexValue?_eq_some_iff.1 found
  have there := hexValue?_eq_some_iff.1 (same ▸ found)
  have leftLetter := uncapital left.2
  have rightLetter := uncapital right.2
  exact Char.toNat_inj.1 (by omega)

/-- As many small digits for one number are the same digits. -/
theorem eq_of_hexValue_eq {left right : Chars} (leftDigits : ∀ c ∈ left, IsSmallHex c)
    (rightDigits : ∀ c ∈ right, IsSmallHex c) (length : left.length = right.length)
    (same : hexValue left = hexValue right) : left = right := by
  induction left using List.reverseRecOn generalizing right with
  | nil => exact (List.eq_nil_of_length_eq_zero length.symm).symm
  | append_singleton left c ih =>
    rcases List.eq_nil_or_concat' right with rfl | ⟨right, d, rfl⟩
    · simp at length
    · rw [List.forall_mem_append, List.forall_mem_singleton] at leftDigits rightDigits
      obtain ⟨low, lowBound, lowFound⟩ := exists_hexValue? leftDigits.2.1
      obtain ⟨other, otherBound, otherFound⟩ := exists_hexValue? rightDigits.2.1
      rw [hexValue_concat, hexValue_concat, lowFound, otherFound, Option.getD_some,
        Option.getD_some] at same
      have lowest : low = other := by omega
      have last := leftDigits.2.eq rightDigits.2 (by rw [lowFound, otherFound, lowest])
      rw [ih leftDigits.1 rightDigits.1 (by simpa using length) (by omega), last]

end ServerInventory.Chars
