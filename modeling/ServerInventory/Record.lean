import ServerInventory.StringMap
import ServerInventory.Change

/-!
Records: named attributes in a fixed order, each of them a scalar, a map or a record of its
own that may be absent. All that compares, changes and merges components is stated on
records; `Recordable` is the view through which a component type takes part.
-/

namespace ServerInventory

mutual

/-- An attribute of a record. -/
inductive Field where
  | scalar (value : Value)
  | texts (entries : StringMap String)
  | flags (entries : StringMap Bool)
  /-- A record that is not there; `blank` is what it would be without any data. -/
  | absent (blank : Record)
  | present (record : Record)

/-- Named attributes in their order. -/
inductive Record where
  | nil
  | cons (name : String) (field : Field) (rest : Record)

end

deriving instance DecidableEq, Repr for Field, Record

instance : Inhabited Field := ⟨.scalar (.text "")⟩

instance : Inhabited Record := ⟨.nil⟩

namespace Field

/-- What an attribute is, without regard to its content. -/
inductive Shape where
  | value
  | map
  | record
deriving DecidableEq, Repr

def Shape.name : Shape → String
  | .value => "value"
  | .map => "map"
  | .record => "record"

def shape : Field → Shape
  | .scalar _ => .value
  | .texts _ => .map
  | .flags _ => .map
  | .absent _ => .record
  | .present _ => .record

end Field

namespace Record

def size : Record → Nat
  | .nil => 0
  | .cons _ _ rest => rest.size + 1

/-- The names of the attributes in their order. -/
def names : Record → List String
  | .nil => []
  | .cons name _ rest => name :: rest.names

/-- The record of some named attributes. -/
def ofList : List (String × Field) → Record
  | [] => .nil
  | (name, field) :: rest => .cons name field (ofList rest)

def toList : Record → List (String × Field)
  | .nil => []
  | .cons name field rest => (name, field) :: rest.toList

/-- The attributes of one record followed by those of another. -/
def append : Record → Record → Record
  | .nil, after => after
  | .cons name field rest, after => .cons name field (rest.append after)

instance : Append Record := ⟨append⟩

/-- The first attribute of a name. -/
def field? (name : String) : Record → Option Field
  | .nil => none
  | .cons first field rest => if first = name then some field else rest.field? name

/-- The text under a name, empty if there is none. -/
def textAt (record : Record) (name : String) : String :=
  match record.field? name with
  | some (.scalar (.text value)) => value
  | _ => ""

/-- The 64-bit number under a name, zero if there is none. -/
def int64At (record : Record) (name : String) : Int64 :=
  match record.field? name with
  | some (.scalar (.int64 value)) => value
  | _ => 0

/-- The 32-bit number under a name, zero if there is none. -/
def int32At (record : Record) (name : String) : Int32 :=
  match record.field? name with
  | some (.scalar (.int32 value)) => value
  | _ => 0

/-- The flag under a name, unset if there is none. -/
def flagAt (record : Record) (name : String) : Bool :=
  match record.field? name with
  | some (.scalar (.flag value)) => value
  | _ => false

/-- The map of texts under a name, empty if there is none. -/
def textsAt (record : Record) (name : String) : StringMap String :=
  match record.field? name with
  | some (.texts entries) => entries
  | _ => ∅

/-- The map of flags under a name, empty if there is none. -/
def flagsAt (record : Record) (name : String) : StringMap Bool :=
  match record.field? name with
  | some (.flags entries) => entries
  | _ => ∅

/-- The record under a name, if it is there. -/
def recordAt (record : Record) (name : String) : Option Record :=
  match record.field? name with
  | some (.present inner) => some inner
  | _ => none

@[simp] theorem toList_ofList (fields : List (String × Field)) :
    (ofList fields).toList = fields := by
  induction fields with
  | nil => rfl
  | cons head rest ih =>
    obtain ⟨name, field⟩ := head
    simp [ofList, toList, ih]

@[simp] theorem ofList_toList : ∀ record : Record, ofList record.toList = record
  | .nil => rfl
  | .cons name field rest => by simp [ofList, toList, ofList_toList rest]

end Record

/-! ## Leaves -/

/-- A scalar or map entry of a record, with the names that lead to it. -/
abbrev Leaf := List String × Value

mutual

/-- The scalars and map entries of an attribute, in their order. -/
def Field.leaves : Field → List Leaf
  | .scalar value => [([], value)]
  | .texts entries => entries.entries.map fun entry => ([entry.1], .text entry.2)
  | .flags entries => entries.entries.map fun entry => ([entry.1], .flag entry.2)
  | .absent _ => []
  | .present record => record.leaves

/-- The scalars and map entries of a record, in their order. -/
def Record.leaves : Record → List Leaf
  | .nil => []
  | .cons name field rest =>
    field.leaves.map (fun leaf => (name :: leaf.1, leaf.2)) ++ rest.leaves

end

/-! ## Component types seen as records -/

/-- A type whose values are records of one layout. -/
class Recordable (α : Type) where
  record : α → Record
  /-- The value that a record of the layout stands for. -/
  ofRecord : Record → α

instance : Recordable Record where
  record := id
  ofRecord := id

/-- A type whose values carry a serial number, by which two of them are recognised as the
same part. -/
class Identified (α : Type) extends Recordable α where
  serial : α → String

end ServerInventory
