import ServerInventory.Proofs.Json.Tokens

/-!
Numerals. The text of a number holds digits, signs, a point and the letter of the exponent,
and nothing else (`Json.Number.isNumeric_of_mem_text`). A numeral is canonical if it is one
that can be read at all; it is read back from the text it is written as
(`Json.numeral?_unsigned`), and every numeral that is read is of this kind
(`Json.canonical_of_numeral?`).
-/

namespace ServerInventory

namespace Chars

theorem isDigit_iff_toNat {c : Char} : isDigit c = true ↔ 0x30 ≤ c.toNat ∧ c.toNat ≤ 0x39 := by
  simp [isDigit, Char.le_def, UInt32.le_iff_toNat_le]

/-- A run of digits, perhaps an empty one. -/
def AllDigits (text : Chars) : Prop :=
  ∀ c ∈ text, isDigit c = true

theorem AllDigits.append {left right : Chars} (first : AllDigits left) (second : AllDigits right) :
    AllDigits (left ++ right) :=
  List.forall_mem_append.2 ⟨first, second⟩

theorem AllDigits.take {text : Chars} (digits : AllDigits text) (count : Nat) :
    AllDigits (text.take count) :=
  fun c among => digits c (List.mem_of_mem_take among)

theorem AllDigits.drop {text : Chars} (digits : AllDigits text) (count : Nat) :
    AllDigits (text.drop count) :=
  fun c among => digits c (List.mem_of_mem_drop among)

theorem AllDigits.zeros (count : Nat) : AllDigits (List.replicate count '0') :=
  fun _ among => (List.eq_of_mem_replicate among).symm ▸ by decide

theorem AllDigits.toDigits (value : Nat) : AllDigits (Nat.toDigits 10 value) :=
  isDigit_toDigits value

/-- A character of a numeral. -/
def isNumeric (c : Char) : Bool :=
  isDigit c || c == '-' || c == '+' || c == '.' || c == 'e'

theorem isNumeric_of_isDigit {c : Char} (digit : isDigit c = true) : isNumeric c = true := by
  simp only [isNumeric, digit, Bool.true_or]

end Chars

namespace Json

namespace Numeral

/-- A numeral in which digits stand where digits belong. -/
structure Digital (numeral : Numeral) : Prop where
  whole : Chars.AllDigits numeral.whole
  fraction : ∀ digits ∈ numeral.fraction, Chars.AllDigits digits
  exponent : ∀ exponent ∈ numeral.exponent, Chars.AllDigits exponent.2

theorem Digital.isNumeric_of_mem {numeral : Numeral} (digital : numeral.Digital) :
    ∀ c ∈ numeral.toChars, Chars.isNumeric c = true := by
  obtain ⟨negative, whole, fraction, exponent⟩ := numeral
  have sign : ∀ (minus : Bool) (c : Char), c ∈ (if minus then ['-'] else []) →
      Chars.isNumeric c = true := by
    intro minus c among
    cases minus with
    | false => cases among
    | true => exact List.mem_singleton.1 among ▸ by decide
  simp only [toChars, List.forall_mem_append]
  refine ⟨⟨⟨sign negative, fun c among => ?_⟩, ?_⟩, ?_⟩
  · exact Chars.isNumeric_of_isDigit (digital.whole c among)
  · cases fraction with
    | none => nofun
    | some digits =>
      refine List.forall_mem_cons.2 ⟨by decide, fun c among => ?_⟩
      exact Chars.isNumeric_of_isDigit (digital.fraction digits rfl c among)
  · cases exponent with
    | none => nofun
    | some exponent =>
      refine List.forall_mem_cons.2 ⟨by decide, List.forall_mem_cons.2 ⟨?_, fun c among => ?_⟩⟩
      · cases exponent.1 <;> decide
      · exact Chars.isNumeric_of_isDigit (digital.exponent exponent rfl c among)

theorem digital_ofInt (value : Int) : (ofInt value).Digital where
  whole := .toDigits value.natAbs
  fraction := nofun
  exponent := nofun

theorem digital_ofFloat (value : Float) : (ofFloat value).Digital := by
  have zero : Chars.AllDigits ['0'] := Chars.AllDigits.zeros 1
  rw [ofFloat]
  dsimp only
  generalize Decimal.shortest (value.toBits.toNat % Decimal.signBit) = shortest
  have digits := Chars.AllDigits.toDigits shortest.digits
  split
  · refine ⟨zero, fun _ same => ?_, nofun⟩
    exact Option.some.inj same ▸ zero
  · split
    -- A magnitude below one: zeros behind the point, then the digits.
    · refine ⟨zero, fun _ same => ?_, nofun⟩
      exact Option.some.inj same ▸ (Chars.AllDigits.zeros _).append digits
    · split
      -- The digits, with zeros behind them up to the point.
      · refine ⟨(digits.append (.zeros _)).take _, fun _ same => ?_, nofun⟩
        rw [← Option.some.inj same]
        split
        · exact zero
        · exact (digits.append (.zeros _)).drop _
      -- One digit before the point, and an exponent.
      · refine ⟨digits.take 1, fun fraction same => ?_, fun exponent same => ?_⟩
        · split at same
          · cases same
          · exact Option.some.inj same ▸ digits.drop 1
        · exact Option.some.inj same ▸ .toDigits _

end Numeral

theorem Number.digital_numeral : ∀ number : Number, number.numeral.Digital
  | .natural value => Numeral.digital_ofInt value.toNat
  | .negative value => Numeral.digital_ofInt value.toInt
  | .real value => Numeral.digital_ofFloat value

theorem Number.isNumeric_of_mem_text (number : Number) :
    ∀ c ∈ number.text.toList, Chars.isNumeric c = true := by
  rw [Number.text, String.toList_ofList]
  exact number.digital_numeral.isNumeric_of_mem

/-! ## Numerals as they are read -/

/-- A numeral that a text can write: no run of digits is empty, and no needless zero stands
in front. -/
structure Numeral.Canonical (numeral : Numeral) : Prop extends numeral.Digital where
  whole_filled : numeral.whole ≠ []
  unpadded : numeral.whole.head? = some '0' → numeral.whole = ['0']
  fraction_filled : ∀ digits ∈ numeral.fraction, digits ≠ []
  exponent_filled : ∀ exponent ∈ numeral.exponent, exponent.2 ≠ []

theorem Numeral.canonical_ofInt (value : Int) : (Numeral.ofInt value).Canonical where
  toDigital := digital_ofInt value
  whole_filled := Nat.toDigits_ne_nil
  unpadded zero := by
    rcases Nat.eq_zero_or_pos value.natAbs with none | positive
    · rw [ofInt, none]
      rfl
    · exact absurd zero (Chars.head?_toDigits positive)
  fraction_filled := nofun
  exponent_filled := nofun

variable {text rest digits : Chars}

/-- A text that does not begin with a digit. -/
def EndsDigits (text : Chars) : Prop :=
  ∀ c ∈ text.head?, Chars.isDigit c = false

theorem EndsNumeral.endsDigits (ends : EndsNumeral text) : EndsDigits text :=
  fun c first => (ends c first).1

theorem EndsNumeral.noPoint (ends : EndsNumeral text) : text.head? ≠ some '.' :=
  fun first => (ends '.' first).2.1 rfl

theorem EndsNumeral.noSmall (ends : EndsNumeral text) : text.head? ≠ some 'e' :=
  fun first => (ends 'e' first).2.2.1 rfl

theorem EndsNumeral.noLarge (ends : EndsNumeral text) : text.head? ≠ some 'E' :=
  fun first => (ends 'E' first).2.2.2 rfl

theorem digits?_eq_some_iff :
    digits? text = some (digits, rest) ↔
      text = digits ++ rest ∧ Chars.AllDigits digits ∧ digits ≠ [] ∧ EndsDigits rest := by
  constructor
  · intro read
    have front : ∀ c ∈ text.takeWhile Chars.isDigit, Chars.isDigit c = true :=
      List.all_eq_true.1 List.all_takeWhile
    have stopped : EndsDigits (text.dropWhile Chars.isDigit) := fun c first => by
      have stops := List.head?_dropWhile_not Chars.isDigit text
      rw [Option.mem_def.1 first] at stops
      exact stops
    rw [digits?] at read
    cases found : text.takeWhile Chars.isDigit with
    | nil =>
      rw [found] at read
      cases read
    | cons c more =>
      have whole := @List.takeWhile_append_dropWhile _ Chars.isDigit text
      rw [found] at read front whole
      cases read
      exact ⟨whole.symm, front, List.cons_ne_nil c more, stopped⟩
  · rintro ⟨rfl, all, filled, ends⟩
    have nothing : rest.takeWhile Chars.isDigit = [] ∧ rest.dropWhile Chars.isDigit = rest := by
      cases rest with
      | nil => exact ⟨rfl, rfl⟩
      | cons c rest =>
        have stops : ¬Chars.isDigit c = true := Bool.eq_false_iff.1 (ends c rfl)
        exact ⟨List.takeWhile_cons_of_neg stops, List.dropWhile_cons_of_neg stops⟩
    rw [digits?, List.takeWhile_append_of_pos all, List.dropWhile_append_of_pos all, nothing.1,
      nothing.2, List.append_nil]
    cases digits with
    | nil => exact absurd rfl filled
    | cons c more => rfl

theorem whole?_eq_some_iff :
    whole? text = some (digits, rest) ↔
      digits? text = some (digits, rest) ∧ (digits.head? = some '0' → digits = ['0']) := by
  rw [whole?]
  split
  · next zero found =>
    rw [found]
    refine iff_of_false nofun fun ⟨same, unpadded⟩ => ?_
    obtain ⟨rfl, rfl⟩ := Prod.mk.inj (Option.some.inj same)
    cases unpadded rfl
  · next padded =>
    refine ⟨fun same => ⟨same, fun zero => ?_⟩, And.left⟩
    obtain ⟨more, rfl⟩ := List.head?_eq_some_iff.1 zero
    cases more with
    | nil => rfl
    | cons c more => exact absurd same (padded c more rest)

theorem fraction?_of_noPoint (noPoint : text.head? ≠ some '.') :
    fraction? text = some (none, text) :=
  fraction?.eq_2 text fun _ same => noPoint (congrArg List.head? same)

theorem exponent?_of_noLetter (small : text.head? ≠ some 'e') (large : text.head? ≠ some 'E') :
    exponent? text = some (none, text) :=
  exponent?.eq_3 text (fun _ same => small (congrArg List.head? same))
    fun _ same => large (congrArg List.head? same)

namespace Numeral

def fractionPart : Option Chars → Chars
  | none => []
  | some digits => '.' :: digits

def exponentPart : Option (Bool × Chars) → Chars
  | none => []
  | some (negative, digits) => 'e' :: (if negative then '-' else '+') :: digits

/-- The characters of a numeral behind its sign. -/
def unsigned (numeral : Numeral) : Chars :=
  numeral.whole ++ (fractionPart numeral.fraction ++ exponentPart numeral.exponent)

theorem toChars_eq (numeral : Numeral) :
    numeral.toChars = (if numeral.negative then ['-'] else []) ++ numeral.unsigned := by
  obtain ⟨negative, whole, fraction, exponent⟩ := numeral
  rw [toChars, unsigned, List.append_assoc, List.append_assoc]
  cases fraction <;> cases exponent <;> rfl

end Numeral

open Numeral (fractionPart exponentPart)

theorem endsDigits_exponentPart (exponent : Option (Bool × Chars)) (ends : EndsNumeral rest) :
    EndsDigits (exponentPart exponent ++ rest) ∧
      (exponentPart exponent ++ rest).head? ≠ some '.' := by
  cases exponent with
  | none => exact ⟨ends.endsDigits, ends.noPoint⟩
  | some exponent => exact ⟨by rintro _ ⟨⟩; rfl, by rintro ⟨⟩⟩

theorem endsDigits_fractionPart (fraction : Option Chars) (ends : EndsDigits rest) :
    EndsDigits (fractionPart fraction ++ rest) := by
  cases fraction with
  | none => exact ends
  | some digits =>
    rintro _ ⟨⟩
    rfl

theorem fraction?_part {fraction : Option Chars}
    (all : ∀ digits ∈ fraction, Chars.AllDigits digits) (filled : ∀ digits ∈ fraction, digits ≠ [])
    (ends : EndsDigits rest) (noPoint : rest.head? ≠ some '.') :
    fraction? (fractionPart fraction ++ rest) = some (fraction, rest) := by
  cases fraction with
  | none =>
    rw [fractionPart, List.nil_append]
    exact fraction?_of_noPoint noPoint
  | some digits =>
    have read := digits?_eq_some_iff.2 ⟨rfl, all digits rfl, filled digits rfl, ends⟩
    rw [fractionPart, List.cons_append, fraction?.eq_1, read]
    rfl

theorem exponent?_part {exponent : Option (Bool × Chars)}
    (all : ∀ part ∈ exponent, Chars.AllDigits part.2) (filled : ∀ part ∈ exponent, part.2 ≠ [])
    (ends : EndsNumeral rest) :
    exponent? (exponentPart exponent ++ rest) = some (exponent, rest) := by
  cases exponent with
  | none =>
    rw [exponentPart, List.nil_append]
    exact exponent?_of_noLetter ends.noSmall ends.noLarge
  | some part =>
    obtain ⟨negative, digits⟩ := part
    have read := digits?_eq_some_iff.2
      ⟨rfl, all (negative, digits) rfl, filled (negative, digits) rfl, ends.endsDigits⟩
    cases negative
    all_goals
      show Option.map _ (digits? (digits ++ rest)) = _
      rw [read]
      rfl

/-- A canonical numeral is read as it is written. -/
theorem numeral?_unsigned {numeral : Numeral} (canonical : numeral.Canonical)
    (ends : EndsNumeral rest) :
    numeral? numeral.negative (numeral.unsigned ++ rest) = some (numeral, rest) := by
  obtain ⟨exponentEnds, noPoint⟩ := endsDigits_exponentPart numeral.exponent ends
  have whole := whole?_eq_some_iff.2 ⟨digits?_eq_some_iff.2 ⟨rfl, canonical.whole,
    canonical.whole_filled, endsDigits_fractionPart numeral.fraction exponentEnds⟩,
    canonical.unpadded⟩
  have fraction := fraction?_part canonical.fraction canonical.fraction_filled exponentEnds noPoint
  have exponent := exponent?_part canonical.exponent canonical.exponent_filled ends
  rw [numeral?, Numeral.unsigned, List.append_assoc, List.append_assoc, whole]
  dsimp only [Option.bind_eq_bind, Option.bind_some]
  rw [fraction]
  dsimp only [Option.bind_some]
  rw [exponent]
  rfl

/-! ### Every numeral that is read -/

theorem filled_of_fraction? {fraction : Option Chars}
    (read : fraction? text = some (fraction, rest)) :
    ∀ digits ∈ fraction, Chars.AllDigits digits ∧ digits ≠ [] := by
  rw [fraction?.eq_def] at read
  split at read
  · obtain ⟨⟨digits, left⟩, found, same⟩ := Option.map_eq_some_iff.1 read
    cases same
    rintro _ ⟨⟩
    exact ⟨(digits?_eq_some_iff.1 found).2.1, (digits?_eq_some_iff.1 found).2.2.1⟩
  · cases read
    nofun

theorem filled_of_exponentBody? {exponent : Option (Bool × Chars)}
    (read : exponentBody? text = some (exponent, rest)) :
    ∀ part ∈ exponent, Chars.AllDigits part.2 ∧ part.2 ≠ [] := by
  have digits {body : Chars} {negative : Bool}
      (read : ((digits? body).map fun result => (some (negative, result.1), result.2)) =
        some (exponent, rest)) :
      ∀ part ∈ exponent, Chars.AllDigits part.2 ∧ part.2 ≠ [] := by
    obtain ⟨⟨digits, left⟩, found, same⟩ := Option.map_eq_some_iff.1 read
    cases same
    rintro _ ⟨⟩
    exact ⟨(digits?_eq_some_iff.1 found).2.1, (digits?_eq_some_iff.1 found).2.2.1⟩
  rw [exponentBody?.eq_def] at read
  split at read
  · exact digits read
  · exact digits read
  · exact digits read

theorem filled_of_exponent? {exponent : Option (Bool × Chars)}
    (read : exponent? text = some (exponent, rest)) :
    ∀ part ∈ exponent, Chars.AllDigits part.2 ∧ part.2 ≠ [] := by
  rw [exponent?.eq_def] at read
  split at read
  · exact filled_of_exponentBody? read
  · exact filled_of_exponentBody? read
  · cases read
    nofun

/-- The three parts of a numeral, read one behind the other. -/
theorem numeral?_eq_some {negative : Bool} {numeral : Numeral}
    (read : numeral? negative text = some (numeral, rest)) :
    ∃ behindWhole behindFraction, whole? text = some (numeral.whole, behindWhole) ∧
      fraction? behindWhole = some (numeral.fraction, behindFraction) ∧
      exponent? behindFraction = some (numeral.exponent, rest) ∧ numeral.negative = negative := by
  simp only [numeral?, Option.bind_eq_bind, Option.bind_eq_some_iff] at read
  obtain ⟨⟨whole, behindWhole⟩, readWhole, ⟨fraction, behindFraction⟩, readFraction,
    ⟨exponent, behindExponent⟩, readExponent, same⟩ := read
  cases same
  exact ⟨behindWhole, behindFraction, readWhole, readFraction, readExponent, rfl⟩

theorem canonical_of_numeral? {negative : Bool} {numeral : Numeral}
    (read : numeral? negative text = some (numeral, rest)) : numeral.Canonical := by
  obtain ⟨_, _, whole, fraction, exponent, -⟩ := numeral?_eq_some read
  obtain ⟨digits, unpadded⟩ := whole?_eq_some_iff.1 whole
  obtain ⟨-, all, filled, -⟩ := digits?_eq_some_iff.1 digits
  exact
    { whole := all
      fraction := fun digits inside => (filled_of_fraction? fraction digits inside).1
      exponent := fun part inside => (filled_of_exponent? exponent part inside).1
      whole_filled := filled
      unpadded
      fraction_filled := fun digits inside => (filled_of_fraction? fraction digits inside).2
      exponent_filled := fun part inside => (filled_of_exponent? exponent part inside).2 }

end Json

end ServerInventory
