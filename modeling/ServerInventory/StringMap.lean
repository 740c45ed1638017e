/-!
Maps from names to values, as their entries in ascending order of the names. The order is
that of code points, a map holds each name once, and so two maps with the same entries are
equal values.
-/

namespace ServerInventory

/-- A finite map whose keys are texts. -/
structure StringMap (α : Type) where
  entries : List (String × α)
  ascending : entries.Pairwise fun left right => left.1 < right.1
deriving DecidableEq, Repr

namespace StringMap

variable {α β : Type}

/-- Puts a value under a key into ascending entries. -/
def insertEntry (key : String) (value : α) : List (String × α) → List (String × α)
  | [] => [(key, value)]
  | entry :: rest =>
    if key < entry.1 then (key, value) :: entry :: rest
    else if key = entry.1 then (key, value) :: rest
    else entry :: insertEntry key value rest

theorem lt_of_mem_insertEntry {key bound : String} {value : α} {entries : List (String × α)}
    {entry : String × α} (boundKey : bound < key) (boundEntries : ∀ e ∈ entries, bound < e.1)
    (member : entry ∈ insertEntry key value entries) : bound < entry.1 := by
  induction entries with
  | nil =>
    simp only [insertEntry, List.mem_singleton] at member
    exact member ▸ boundKey
  | cons head rest ih =>
    have boundHead := boundEntries head List.mem_cons_self
    have boundRest := fun e inside => boundEntries e (List.mem_cons_of_mem head inside)
    unfold insertEntry at member
    split at member
    · rcases List.mem_cons.1 member with rfl | inside
      · exact boundKey
      · exact boundEntries entry inside
    · split at member
      · rcases List.mem_cons.1 member with rfl | inside
        · exact boundKey
        · exact boundRest entry inside
      · rcases List.mem_cons.1 member with rfl | inside
        · exact boundHead
        · exact ih boundRest inside

theorem pairwise_insertEntry {key : String} {value : α} {entries : List (String × α)}
    (ascending : entries.Pairwise fun left right => left.1 < right.1) :
    (insertEntry key value entries).Pairwise fun left right => left.1 < right.1 := by
  induction entries with
  | nil => simp [insertEntry]
  | cons head rest ih =>
    obtain ⟨headBelow, restAscending⟩ := List.pairwise_cons.1 ascending
    unfold insertEntry
    split
    · rename_i before
      refine List.pairwise_cons.2 ⟨fun entry inside => ?_, ascending⟩
      rcases List.mem_cons.1 inside with rfl | inside
      · exact before
      · exact String.lt_trans before (headBelow entry inside)
    · split
      · rename_i _ same
        exact List.pairwise_cons.2 ⟨fun entry inside => same ▸ headBelow entry inside,
          restAscending⟩
      · rename_i notBefore different
        have after : head.1 < key := by
          rcases Decidable.em (head.1 < key) with after | notAfter
          · exact after
          · exact absurd
              (String.le_antisymm (String.not_lt.1 notAfter) (String.not_lt.1 notBefore))
              different
        exact List.pairwise_cons.2
          ⟨fun entry inside => lt_of_mem_insertEntry after headBelow inside,
            ih restAscending⟩

/-- The map without entries. -/
def empty : StringMap α := ⟨[], .nil⟩

instance : EmptyCollection (StringMap α) := ⟨empty⟩

instance : Inhabited (StringMap α) := ⟨empty⟩

def isEmpty (map : StringMap α) : Bool :=
  map.entries.isEmpty

def keys (map : StringMap α) : List String :=
  map.entries.map Prod.fst

/-- The value under a key. -/
def get? (map : StringMap α) (key : String) : Option α :=
  map.entries.lookup key

/-- The map with a value under a key, in place of the one that was there. -/
def insert (map : StringMap α) (key : String) (value : α) : StringMap α :=
  ⟨insertEntry key value map.entries, pairwise_insertEntry map.ascending⟩

/-- The map without a key. -/
def erase (map : StringMap α) (key : String) : StringMap α :=
  ⟨map.entries.filter fun entry => entry.1 != key, map.ascending.filter _⟩

/-- The map of a list of pairs; the last of several pairs with one key counts. -/
def ofList (pairs : List (String × α)) : StringMap α :=
  pairs.foldl (fun map pair => map.insert pair.1 pair.2) empty

/-- The map with every value replaced by its image. -/
def map (f : α → β) (entries : StringMap α) : StringMap β :=
  ⟨entries.entries.map fun entry => (entry.1, f entry.2), by
    rw [List.pairwise_map]
    exact entries.ascending⟩

/-- The keys of either map in ascending order, each once. -/
def unionKeys (left : StringMap α) (right : StringMap β) : List String :=
  (left.keys.foldl (fun keys key => keys.insert key ()) (right.map fun _ => ())).keys

@[ext] theorem ext {left right : StringMap α} (same : left.entries = right.entries) :
    left = right := by
  cases left
  cases right
  congr

end StringMap

end ServerInventory
