import ServerInventory.Value

/-!
Changes of single attributes, and the rule that tells a harmless change from one that would
lose known data: additions are harmless, removals never are, and a replacement is harmless
where nothing was known before or where it corrects the vendor or the model of the record
as a whole.
-/

namespace ServerInventory

/-- How an attribute or map entry differs. -/
inductive Change.Kind where
  /-- It was not there before. -/
  | create
  /-- It was there with another value. -/
  | update
  /-- It is there no more. -/
  | delete
deriving DecidableEq, Repr

/-- One difference between two records, at the attribute or map entry that `path` leads to
from the record as a whole. -/
structure Change where
  kind : Change.Kind
  path : List String
  before : Option Value
  after : Option Value
deriving DecidableEq, Repr

namespace Change

def Kind.describe : Kind → String
  | .create => "create"
  | .update => "update"
  | .delete => "delete"

/-- The names along a path, joined by dots. -/
def joinPath (path : List String) : String :=
  String.intercalate "." path

/-- A change in one line: what happens, where, and the values on both sides. -/
def describe (change : Change) : String :=
  let words (side : Option Value) : String := (side.map Value.describe).getD "<none>"
  change.kind.describe ++ " " ++ joinPath change.path ++ ": " ++ words change.before ++
    " -> " ++ words change.after

/-- The change seen from a record that holds its record under `name`. -/
def under (name : String) (change : Change) : Change :=
  { change with path := name :: change.path }

/-- The attributes that a better informed utility may correct, at the top of a record. -/
def correctable : List String :=
  ["Vendor", "Model"]

/-- Whether the change addresses a correctable attribute of the record as a whole. -/
def isCorrection (change : Change) : Bool :=
  match change.path with
  | [name] => correctable.contains name
  | _ => false

/-- Whether a change can lose no known data. -/
def isHarmless (change : Change) : Bool :=
  match change.kind with
  | .create => true
  | .delete => false
  | .update =>
    (change.isCorrection && change.after.any fun value => !value.isEmpty) ||
      change.before.all Value.isEmpty

/-- The harmless ones among some changes, in their order. -/
def harmless (changes : List Change) : List Change :=
  changes.filter isHarmless

end Change

end ServerInventory
