import Mathlib.Data.List.Sort
import ServerInventory.StringMap

/-!
Maps seen through look-ups. A map is determined by what is found under each key
(`StringMap.ext_get?`), so the operations on maps are stated by what they do to a look-up;
the keys of two maps together come in ascending order, each once.
-/

namespace ServerInventory.StringMap

variable {α β : Type}

/-! ## Look-ups and entries -/

theorem lookup_cons_eq_ite (key first : String) (found : α) (rest : List (String × α)) :
    ((first, found) :: rest).lookup key =
      if key = first then some found else rest.lookup key := by
  rw [List.lookup_cons]
  by_cases here : key = first
  · simp [here]
  · rw [if_neg here, beq_eq_false_iff_ne.2 here]

/-- Where no key occurs twice, what is found is what is there. -/
theorem lookup_eq_some_iff_mem {entries : List (String × α)} {key : String} {value : α}
    (distinct : entries.Pairwise fun left right => left.1 ≠ right.1) :
    entries.lookup key = some value ↔ (key, value) ∈ entries := by
  induction entries with
  | nil => simp
  | cons head rest ih =>
    obtain ⟨first, found⟩ := head
    obtain ⟨others, restDistinct⟩ := List.pairwise_cons.1 distinct
    rw [lookup_cons_eq_ite, List.mem_cons, Prod.mk.injEq]
    by_cases same : key = first
    · subst same
      have notLater : (key, value) ∉ rest := fun later => others _ later rfl
      simp [notLater, eq_comm]
    · simp [same, ih restDistinct]

theorem pairwise_ne (map : StringMap α) :
    map.entries.Pairwise fun left right => left.1 ≠ right.1 :=
  map.ascending.imp fun {left right} below same => by
    rw [same] at below
    exact String.lt_irrefl right.1 below

theorem get?_eq_some_iff {map : StringMap α} {key : String} {value : α} :
    map.get? key = some value ↔ (key, value) ∈ map.entries :=
  lookup_eq_some_iff_mem map.pairwise_ne

/-- Two maps in which the same is found under each key are the same map. -/
theorem ext_get? {left right : StringMap α} (same : ∀ key, left.get? key = right.get? key) :
    left = right := by
  have irreflexive : Std.Irrefl fun left right : String × α => left.1 < right.1 :=
    ⟨fun entry => String.lt_irrefl entry.1⟩
  refine StringMap.ext (List.Pairwise.eq_of_mem_iff left.ascending right.ascending ?_)
  intro entry
  rw [← get?_eq_some_iff, ← get?_eq_some_iff, same]

theorem mem_keys {map : StringMap α} {key : String} :
    key ∈ map.keys ↔ map.get? key ≠ none := by
  rw [Option.ne_none_iff_exists']
  simp only [get?_eq_some_iff, keys, List.mem_map, Prod.exists]
  constructor
  · rintro ⟨_, value, inside, rfl⟩
    exact ⟨value, inside⟩
  · rintro ⟨value, inside⟩
    exact ⟨key, value, inside, rfl⟩

theorem pairwise_keys (map : StringMap α) : map.keys.Pairwise (· < ·) :=
  List.pairwise_map.2 map.ascending

/-! ## What the operations do to a look-up -/

theorem lookup_insertEntry (key other : String) (value : α) (entries : List (String × α)) :
    (insertEntry key value entries).lookup other =
      if other = key then some value else entries.lookup other := by
  induction entries with
  | nil => rw [insertEntry, lookup_cons_eq_ite]
  | cons head rest ih =>
    obtain ⟨first, found⟩ := head
    unfold insertEntry
    split
    · rw [lookup_cons_eq_ite]
    · split
      · rename_i _ same
        change key = first at same
        subst same
        rw [lookup_cons_eq_ite, lookup_cons_eq_ite]
        by_cases here : other = key <;> simp [here]
      · rename_i _ different
        change ¬ key = first at different
        rw [lookup_cons_eq_ite, lookup_cons_eq_ite, ih]
        by_cases here : other = first
        · subst here
          simp [Ne.symm different]
        · simp [here]

@[simp] theorem get?_insert (map : StringMap α) (key other : String) (value : α) :
    (map.insert key value).get? other = if other = key then some value else map.get? other :=
  lookup_insertEntry key other value map.entries

/-- Values under different keys may be put in in either order. -/
theorem insert_comm {key other : String} (different : key ≠ other) (map : StringMap α)
    (value otherValue : α) :
    (map.insert key value).insert other otherValue =
      (map.insert other otherValue).insert key value := by
  refine ext_get? fun name => ?_
  rw [get?_insert, get?_insert, get?_insert, get?_insert]
  by_cases here : name = key
  · have notThere : name ≠ other := here ▸ different
    rw [if_neg notThere, if_pos here, if_pos here]
  · rw [if_neg here, if_neg here]

@[simp] theorem get?_erase (map : StringMap α) (key other : String) :
    (map.erase key).get? other = if other = key then none else map.get? other := by
  refine Option.ext fun value => ?_
  rw [get?_eq_some_iff, erase, List.mem_filter, ← get?_eq_some_iff]
  by_cases here : other = key <;> simp [here]

@[simp] theorem get?_map (f : α → β) (map : StringMap α) (key : String) :
    (map.map f).get? key = (map.get? key).map f := by
  obtain ⟨entries, ascending⟩ := map
  simp only [get?, StringMap.map]
  clear ascending
  induction entries with
  | nil => rfl
  | cons head rest ih =>
    obtain ⟨first, found⟩ := head
    rw [List.map_cons, lookup_cons_eq_ite, lookup_cons_eq_ite, ih]
    by_cases here : key = first <;> simp [here]

/-- In the map of a list of pairs the last pair of a key counts. -/
theorem get?_ofList (pairs : List (String × α)) (key : String) :
    (ofList pairs).get? key = pairs.reverse.lookup key := by
  have along : ∀ map : StringMap α,
      (pairs.foldl (fun map pair => map.insert pair.1 pair.2) map).get? key =
        (pairs.reverse.lookup key).or (map.get? key) := by
    induction pairs with
    | nil => simp
    | cons head rest ih =>
      obtain ⟨first, found⟩ := head
      intro map
      rw [List.foldl_cons, ih, List.reverse_cons, List.lookup_append, get?_insert,
        Option.or_assoc, lookup_cons_eq_ite]
      by_cases here : key = first <;> simp [here]
  exact (along empty).trans Option.or_none

/-- A map is the map of its entries. -/
@[simp] theorem ofList_entries (map : StringMap α) : ofList map.entries = map := by
  refine ext_get? fun key => Option.ext fun value => ?_
  have distinct : map.entries.reverse.Pairwise fun left right => left.1 ≠ right.1 :=
    List.pairwise_reverse.2 (map.pairwise_ne.imp Ne.symm)
  rw [get?_ofList, lookup_eq_some_iff_mem distinct, List.mem_reverse, get?_eq_some_iff]

/-- The map of some keys with a value for each. -/
theorem get?_ofList_map (keys : List String) (f : String → α) (key : String) :
    (ofList (keys.map fun key => (key, f key))).get? key =
      if key ∈ keys then some (f key) else none := by
  rw [get?_ofList, ← List.map_reverse]
  simp only [← @List.mem_reverse _ _ keys]
  induction keys.reverse with
  | nil => simp
  | cons first rest ih =>
    rw [List.map_cons, lookup_cons_eq_ite, ih]
    by_cases here : key = first <;> simp [here]

/-! ## The keys of two maps -/

theorem get?_insertAll (keys : List String) (map : StringMap Unit) (key : String) :
    (keys.foldl (fun map key => map.insert key ()) map).get? key ≠ none ↔
      key ∈ keys ∨ map.get? key ≠ none := by
  induction keys generalizing map with
  | nil => simp
  | cons first rest ih =>
    rw [List.foldl_cons, ih, List.mem_cons, get?_insert]
    by_cases here : key = first <;> simp [here]

theorem mem_unionKeys {left : StringMap α} {right : StringMap β} {key : String} :
    key ∈ left.unionKeys right ↔ left.get? key ≠ none ∨ right.get? key ≠ none := by
  unfold unionKeys
  rw [mem_keys, get?_insertAll, mem_keys, get?_map]
  simp

theorem pairwise_unionKeys (left : StringMap α) (right : StringMap β) :
    (left.unionKeys right).Pairwise (· < ·) :=
  pairwise_keys _

/-- The same concatenation results over any two ascending lists of keys that both hold all
keys to which something belongs. -/
theorem flatMap_eq_of_support {f : String → List β} {keys others : List String}
    (ascending : keys.Pairwise (· < ·)) (othersAscending : others.Pairwise (· < ·))
    (support : ∀ key, f key ≠ [] → (key ∈ keys ↔ key ∈ others)) :
    keys.flatMap f = others.flatMap f := by
  have irreflexive : Std.Irrefl fun left right : String => left < right :=
    ⟨String.lt_irrefl⟩
  have dropEmpty : ∀ list : List String,
      (list.filter fun key => !(f key).isEmpty).flatMap f = list.flatMap f := by
    intro list
    induction list with
    | nil => rfl
    | cons key rest ih => by_cases empty : f key = [] <;> simp [empty, ih]
  rw [← dropEmpty keys, ← dropEmpty others]
  congr 1
  refine List.Pairwise.eq_of_mem_iff (ascending.filter _) (othersAscending.filter _) ?_
  intro key
  simp only [List.mem_filter, Bool.not_eq_eq_eq_not, Bool.not_true, List.isEmpty_eq_false_iff]
  constructor
  · rintro ⟨inside, nonempty⟩
    exact ⟨(support key nonempty).1 inside, nonempty⟩
  · rintro ⟨inside, nonempty⟩
    exact ⟨(support key nonempty).2 inside, nonempty⟩

@[simp] theorem unionKeys_map {γ δ : Type} (left : StringMap α) (right : StringMap β)
    (f : α → γ) (g : β → δ) : (left.map f).unionKeys (right.map g) = left.unionKeys right := by
  simp [unionKeys, keys, StringMap.map, Function.comp_def]

end ServerInventory.StringMap
