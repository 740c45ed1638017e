import ServerInventory.Json.Number

/-!
JSON documents as trees, and the ways to look into them. A tree keeps what the document
wrote: numerals as digits, members in their order, a repeated member as often as it stands
there. `Json.settle?` is the tree that a reader sees who has no record in mind: members
sorted by name, the last of a repeated one, and nothing in it that is no value.
-/

namespace ServerInventory

namespace Json

/-- The text of a quoted string; `none` if an escape in it stands for half a character. -/
abbrev Quoted := Option String

/-- How many lists and objects may be open at once. -/
def depthLimit : Nat := 127

end Json

/-- A JSON document. -/
inductive Json where
  | null
  | flag (value : Bool)
  | numeral (value : Json.Numeral)
  | quoted (content : Json.Quoted)
  | list (items : List Json)
  | object (members : List (Json.Quoted × Json))

namespace Json

instance : Inhabited Json := ⟨.null⟩

/-! ## Building documents -/

def text (content : String) : Json :=
  .quoted (some content)

def ofInt (value : Int) : Json :=
  .numeral (.ofInt value)

def ofNat (value : Nat) : Json :=
  .ofInt value

/-- The object with some members. -/
def record (members : List (String × Json)) : Json :=
  .object (members.map fun member => (some member.1, member.2))

/-! ## Looking into documents -/

def text? : Json → Option String
  | .quoted content => content
  | _ => none

def list? : Json → Option (List Json)
  | .list items => some items
  | _ => none

def number? : Json → Option Number
  | .numeral value => value.number?
  | _ => none

/-- The members of an object. -/
def members : Json → List (Quoted × Json)
  | .object members => members
  | _ => []

/-- The first member of a name. -/
def member? (name : String) (document : Json) : Option Json :=
  document.members.lookup (some name)

/-! ## Settled documents -/

/-- Puts a member among sorted ones, in place of one with the same name. -/
def insertMember (name : String) (value : Json) :
    List (String × Json) → List (String × Json)
  | [] => [(name, value)]
  | member :: rest =>
    if name < member.1 then (name, value) :: member :: rest
    else if name = member.1 then (name, value) :: rest
    else member :: insertMember name value rest

/-- Members sorted by name, of a repeated one the last. -/
def sortMembers (members : List (String × Json)) : List (String × Json) :=
  members.foldl (fun sorted member => insertMember member.1 member.2 sorted) []

/-- A member whose name is a text and whose value can be read. -/
def namedMember? {α : Type} (read : Json → Option α) (member : Quoted × Json) :
    Option (String × α) := do
  let name ← member.1
  let value ← read member.2
  return (name, value)

/-- The document with sorted members; `none` if a string in it is no text, a numeral no
number, or more than `room` lists and objects are open at once. -/
def settle? : Nat → Json → Option Json
  | _, .null => some .null
  | _, .flag value => some (.flag value)
  | _, .numeral value => value.number?.map fun _ => .numeral value
  | _, .quoted content => content.map .text
  | room + 1, .list items => (items.mapM (settle? room)).map .list
  | room + 1, .object members =>
    (members.mapM (namedMember? (settle? room))).map fun named => .record (sortMembers named)
  | 0, .list _ => none
  | 0, .object _ => none

end Json

end ServerInventory
