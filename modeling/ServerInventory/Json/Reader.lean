import ServerInventory.Json.Reading
import ServerInventory.StringMap

/-!
Documents understood as values of a type. A `Reader` takes a document, and how many lists
and objects may still be opened in it, to a value. Records are read by name from objects;
some may also be written as the list of their members in order.
-/

namespace ServerInventory.Json

/-- A way to understand a document in which `room` lists and objects may be opened. -/
abbrev Reader (α : Type) := (room : Nat) → Json → Option α

namespace Reader

variable {α : Type}

/-- The value that a text holds. -/
def ofText? (reader : Reader α) (text : String) : Option α :=
  (Json.ofText? text).bind (reader depthLimit)

/-- Any document at all. -/
def any : Reader Json := fun _ document => some document

def text : Reader String := fun _ document => document.text?

def flag : Reader Bool := fun _ document =>
  match document with
  | .flag value => some value
  | _ => none

/-- An integer written as such, if `narrow` takes it. -/
def integer (narrow : Int → Option α) : Reader α := fun _ document =>
  match document.number? with
  | some (.natural value) => narrow value.toNat
  | some (.negative value) => narrow value.toInt
  | _ => none

def int64 : Reader Int64 := integer ServerInventory.int64?

def int32 : Reader Int32 := integer ServerInventory.int32?

/-- A natural number below `bound`. -/
def naturalBelow (bound : Nat) : Reader Nat :=
  integer fun value => if 0 ≤ value && value < bound then some value.toNat else none

/-- A value that may be null instead. -/
def optional (reader : Reader α) : Reader (Option α) := fun room document =>
  match document with
  | .null => some none
  | document => (reader room document).map some

def listOf (reader : Reader α) : Reader (List α)
  | room + 1, .list items => items.mapM (reader room)
  | _, _ => none

/-- An object with values of one type; the last of a repeated member counts. -/
def mapOf (reader : Reader α) : Reader (StringMap α)
  | room + 1, .object members =>
    (members.mapM (namedMember? (reader room))).map StringMap.ofList
  | _, _ => none

/-- An object with documents of any kind. -/
def object : Reader Json := fun _ document =>
  match document with
  | .object members => some (.object members)
  | _ => none

end Reader

/-! ## Records -/

/-- How a record is written. -/
structure Layout where
  /-- The members in their order. -/
  names : List String
  /-- The least length of the record written as a list, if it may be written so. -/
  listForm : Option Nat := none
  /-- Whether members that are not the record's own must be proper values as well. -/
  strict : Bool := false

/-- The members of a record that a document writes, each at most once. -/
structure Members where
  room : Nat
  found : List (String × Json)

/-- The members of a record; `none` for a repeated one, for a list that is too short or
too long, and for what is neither object nor list. -/
def Layout.members? (layout : Layout) : Nat → Json → Option Members
  | room + 1, .object members => do
    let named ← members.mapM (namedMember? some)
    guard (layout.names.all fun name => (named.filter (·.1 == name)).length ≤ 1)
    guard (!layout.strict || named.all fun member => (member.2.settle? room).isSome)
    return ⟨room, named⟩
  | room + 1, .list items => do
    let least ← layout.listForm
    guard (least ≤ items.length && items.length ≤ layout.names.length)
    return ⟨room, layout.names.zip items⟩
  | _, _ => none

namespace Members

variable {α : Type}

/-- The value of a member that must be there. -/
def required (members : Members) (name : String) (reader : Reader α) : Option α :=
  (members.found.lookup name).bind (reader members.room)

/-- The value of a member that may be left out. -/
def defaulted (members : Members) (name : String) (reader : Reader α) (absent : α) :
    Option α :=
  match members.found.lookup name with
  | none => some absent
  | some document => reader members.room document

end Members

end ServerInventory.Json
