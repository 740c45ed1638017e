import ServerInventory.Proofs.StringMap

/-!
Rules that say which of several values counts when they come in one after the other: the
first or the last that is not blank, or the last of all. They carry over to values that may
be missing (`amongPresent`) and to maps, entry by entry (`StringMap.gather`).

A rule of this kind may be applied step by step (`Collapses`): what it makes of the first
two values can stand for both of them.
-/

namespace ServerInventory

section

variable {α : Type} [DecidableEq α]

/-- The first value that is not blank, blank if there is none. -/
def firstKnown (blank : α) (values : List α) : α :=
  (values.find? (· ≠ blank)).getD blank

/-- The last value that is not blank, blank if there is none. -/
def lastKnown (blank : α) (values : List α) : α :=
  firstKnown blank values.reverse

end

section

variable {α : Type}

/-- What a rule makes of the values that are there, if there are any. -/
def amongPresent (choose : List α → α) (values : List (Option α)) : Option α :=
  match values.filterMap id with
  | [] => none
  | present => some (choose present)

/-- All keys of some maps, each with what a rule makes of its values. -/
def StringMap.gather (choose : List α → α) (maps : List (StringMap α)) : StringMap α :=
  .ofList ((maps.flatMap keys).map fun key => (key, choose (maps.filterMap (·.get? key))))

/-- A rule may be applied step by step, and a blank at the start does not count. -/
structure Collapses (blank : α) (choose : List α → α) : Prop where
  single : ∀ value, choose [value] = value
  pair : ∀ first second rest,
    choose (choose [first, second] :: rest) = choose (first :: second :: rest)
  start : ∀ value, choose [blank, value] = value

/-- A look-up among all the entries is one in each of the maps. -/
theorem StringMap.get?_gather (choose : List α → α) (maps : List (StringMap α)) (key : String) :
    (gather choose maps).get? key = amongPresent choose (maps.map (·.get? key)) := by
  have inside : key ∈ maps.flatMap keys ↔ maps.filterMap (·.get? key) ≠ [] := by
    simp only [List.mem_flatMap, mem_keys, ne_eq, List.filterMap_eq_nil_iff, not_forall,
      exists_prop]
  rw [gather, get?_ofList_map, amongPresent, List.filterMap_map]
  change _ = match maps.filterMap (·.get? key) with
    | [] => none
    | present => some (choose present)
  split
  · rename_i found
    cases values : maps.filterMap (·.get? key) with
    | nil => exact absurd values (inside.1 found)
    | cons first rest => rfl
  · rename_i missing
    have none : maps.filterMap (·.get? key) = [] := by
      by_contra found
      exact missing (inside.2 found)
    rw [none]

/-! ## Rules that collapse -/

/-- The value that counts, told by what comes first. -/
theorem firstKnown_cons [DecidableEq α] (blank first : α) (rest : List α) :
    firstKnown blank (first :: rest) =
      if first = blank then firstKnown blank rest else first := by
  unfold firstKnown
  by_cases unknown : first = blank <;> simp [unknown]

theorem firstKnown_collapses [DecidableEq α] (blank : α) :
    Collapses blank (firstKnown blank) := by
  have single : ∀ value, firstKnown blank [value] = value := by
    intro value
    rw [firstKnown_cons]
    split
    · rename_i unknown
      exact unknown.symm
    · rfl
  refine ⟨single, ?_, ?_⟩
  · intro first second rest
    by_cases unknown : first = blank
    · have same : firstKnown blank [first, second] = second := by
        rw [firstKnown_cons, if_pos unknown, single]
      rw [same, firstKnown_cons blank first, if_pos unknown]
    · have same : firstKnown blank [first, second] = first := by
        rw [firstKnown_cons, if_neg unknown]
      rw [same, firstKnown_cons, firstKnown_cons, if_neg unknown, if_neg unknown]
  · intro value
    rw [firstKnown_cons, if_pos rfl, single]

/-- The value that counts, told by what comes after the first. -/
theorem lastKnown_cons [DecidableEq α] (blank first : α) (rest : List α) :
    lastKnown blank (first :: rest) =
      if lastKnown blank rest = blank then first else lastKnown blank rest := by
  have append : ∀ values : List α, firstKnown blank (values ++ [first]) =
      if firstKnown blank values = blank then first else firstKnown blank values := by
    intro values
    induction values with
    | nil =>
      rw [List.nil_append, (firstKnown_collapses blank).single]
      exact (if_pos rfl).symm
    | cons value values ih =>
      rw [List.cons_append, firstKnown_cons, firstKnown_cons, ih]
      by_cases unknown : value = blank <;> simp [unknown]
  rw [lastKnown, List.reverse_cons, append]
  rfl

theorem lastKnown_collapses [DecidableEq α] (blank : α) :
    Collapses blank (lastKnown blank) := by
  have single : ∀ value, lastKnown blank [value] = value :=
    (firstKnown_collapses blank).single
  refine ⟨single, ?_, ?_⟩
  · intro first second rest
    have pair : lastKnown blank [first, second] = if second = blank then first else second := by
      rw [lastKnown_cons, single]
    rw [pair, lastKnown_cons, lastKnown_cons blank first, lastKnown_cons blank second]
    by_cases unknown : lastKnown blank rest = blank <;> simp [unknown]
  · intro value
    rw [lastKnown_cons, single]
    split
    · rename_i unknown
      exact unknown.symm
    · rfl

theorem getLastD_collapses (blank : α) :
    Collapses blank fun values : List α => values.getLastD blank := by
  constructor <;> intros <;> rfl

theorem Collapses.amongPresent {blank : α} {choose : List α → α}
    (collapses : Collapses blank choose) : Collapses none (amongPresent choose) := by
  have single : ∀ value, ServerInventory.amongPresent choose [value] = value := by
    intro value
    cases value with
    | none => rfl
    | some value => exact congrArg some (collapses.single value)
  refine ⟨single, ?_, single⟩
  intro first second rest
  cases first with
  | none =>
    have same : ServerInventory.amongPresent choose [none, second] = second := single second
    rw [same]
    rfl
  | some first =>
    cases second with
    | none =>
      have same : ServerInventory.amongPresent choose [some first, none] = some first :=
        single (some first)
      rw [same]
      rfl
    | some second => exact congrArg some (collapses.pair first second (rest.filterMap id))

theorem Collapses.gather {blank : α} {choose : List α → α}
    (collapses : Collapses blank choose) : Collapses ∅ (StringMap.gather choose) := by
  have present := collapses.amongPresent
  refine ⟨fun map => ?_, fun first second rest => ?_, fun map => ?_⟩ <;>
    refine StringMap.ext_get? fun key => ?_
  · rw [StringMap.get?_gather]
    exact present.single (map.get? key)
  · rw [StringMap.get?_gather, StringMap.get?_gather, List.map_cons, StringMap.get?_gather]
    exact present.pair (first.get? key) (second.get? key) (rest.map (·.get? key))
  · rw [StringMap.get?_gather]
    exact present.start (map.get? key)

end

end ServerInventory
