import ServerInventory.Record

/-!
The differences between two records of one layout: one change for every scalar and map
entry that is not the same on both sides, in the order of the attributes. A record that is
on one side only counts as the creation, or the deletion, of all its leaves.
-/

namespace ServerInventory

/-- Why two records have no list of differences. -/
inductive Mismatch.Reason where
  | fieldCounts (left right : Nat)
  | fieldNames (left right : String)
  | types (left right : Value.Kind)
  | entryType (key : String)
  | shapes (left right : Field.Shape)
deriving DecidableEq, Repr

/-- Two records that are not of one layout, and where this shows. -/
structure Mismatch where
  path : List String
  reason : Mismatch.Reason
deriving DecidableEq, Repr

namespace Mismatch

def Reason.describe : Reason → String
  | .fieldCounts left right =>
    "records expose " ++ toString left ++ " and " ++ toString right ++ " fields"
  | .fieldNames left right => "field order mismatch: " ++ left ++ " vs " ++ right
  | .types left right => "type mismatch: " ++ left.name ++ " vs " ++ right.name
  | .entryType key => "map entry '" ++ key ++ "' changes type"
  | .shapes left right => "unsupported field pairing: " ++ left.name ++ " vs " ++ right.name

/-- The mismatch seen from a record that holds its records under `name`. -/
def under (name : String) (mismatch : Mismatch) : Mismatch :=
  { mismatch with path := name :: mismatch.path }

end Mismatch

/-- Differences, unless the two sides are of different layouts. -/
abbrev Differences := Except Mismatch (List Change)

namespace Differences

/-- Differences of two attributes seen from the records that hold them under `name`. -/
def under (name : String) : Differences → Differences
  | .ok changes => .ok (changes.map (·.under name))
  | .error mismatch => .error (mismatch.under name)

/-- Differences of two parts, those of the first part in front. -/
def followedBy (first : Differences) (second : Differences) : Differences :=
  match first with
  | .error mismatch => .error mismatch
  | .ok changes =>
    match second with
    | .error mismatch => .error mismatch
    | .ok more => .ok (changes ++ more)

end Differences

/-- The difference of two scalars. -/
def Value.diff (left right : Value) : Differences :=
  if left.kind = right.kind then
    .ok (if left = right then [] else [⟨.update, [], some left, some right⟩])
  else .error ⟨[], .types left.kind right.kind⟩

namespace StringMap

/-- The difference of two maps at one key. -/
def diffAt (left right : StringMap Value) (key : String) : Differences :=
  match left.get? key, right.get? key with
  | none, none => .ok []
  | none, some after => .ok [⟨.create, [key], none, some after⟩]
  | some before, none => .ok [⟨.delete, [key], some before, none⟩]
  | some before, some after =>
    if before = after then .ok []
    else if before.kind = after.kind then
      .ok [⟨.update, [key], some before, some after⟩]
    else .error ⟨[], .entryType key⟩

/-- The differences of two maps in ascending order of the keys. -/
def diff (left right : StringMap Value) : Differences :=
  (left.unionKeys right).foldr
    (fun key rest => (left.diffAt right key).followedBy rest) (.ok [])

end StringMap

/-- The leaf as something that was not there before. -/
def Leaf.created (leaf : Leaf) : Change :=
  ⟨.create, leaf.1, none, some leaf.2⟩

/-- The leaf as something that is there no more. -/
def Leaf.deleted (leaf : Leaf) : Change :=
  ⟨.delete, leaf.1, some leaf.2, none⟩

/-- Nothing for records with as many attributes as one another, otherwise the mismatch. -/
def Record.compareSizes (left right : Record) : Differences :=
  if left.size = right.size then .ok []
  else .error ⟨[], .fieldCounts left.size right.size⟩

mutual

/-- The differences of two attributes of one name. -/
def Field.diff : Field → Field → Differences
  | .scalar left, .scalar right => left.diff right
  | .texts left, .texts right => (left.map .text).diff (right.map .text)
  | .texts left, .flags right => (left.map .text).diff (right.map .flag)
  | .flags left, .texts right => (left.map .flag).diff (right.map .text)
  | .flags left, .flags right => (left.map .flag).diff (right.map .flag)
  | .present left, .present right =>
    (left.compareSizes right).followedBy (left.diffFields right)
  | .absent _, .present right => .ok (right.leaves.map Leaf.created)
  | .present left, .absent _ => .ok (left.leaves.map Leaf.deleted)
  | .absent _, .absent _ => .ok []
  | left, right => .error ⟨[], .shapes left.shape right.shape⟩

/-- The differences of two records with as many attributes as one another. -/
def Record.diffFields : Record → Record → Differences
  | .cons name field rest, .cons otherName other otherRest =>
    if name = otherName then
      ((field.diff other).under name).followedBy (rest.diffFields otherRest)
    else .error ⟨[], .fieldNames name otherName⟩
  | _, _ => .ok []

end

/-- The changes that lead from one record to another. -/
def Record.diff (left right : Record) : Differences :=
  (left.compareSizes right).followedBy (left.diffFields right)

end ServerInventory
