import ServerInventory.Record

/-!
Changes carried out on a record, each at the place its path leads to. An absent record is
put in place when a change addresses an attribute inside it. Of a list of changes the first
one that cannot be carried out ends the work; what was done up to there stays.
-/

namespace ServerInventory

/-- Why a change cannot be carried out. -/
inductive Obstacle where
  | emptyPath
  | unknownField (name : String)
  | missingValue
  | scalarType (expected given : Value.Kind)
  | entryType (expected given : Value.Kind)
  | unaddressable
deriving DecidableEq, Repr

def Obstacle.describe : Obstacle → String
  | .emptyPath => "empty path"
  | .unknownField name => "unknown field '" ++ name ++ "'"
  | .missingValue => "missing target value"
  | .scalarType expected given =>
    "expected " ++ expected.attributeName ++ ", got " ++ given.name
  | .entryType expected given => "expected " ++ expected.name ++ " entry, got " ++ given.name
  | .unaddressable => "path does not address a patchable field"

/-- A value after a change, together with what prevented the change if anything did. -/
abbrev Attempt (α : Type) := α × Option Obstacle

/-- A scalar after a change. -/
def Value.amend (change : Change) (value : Value) : Attempt Value :=
  if change.kind = .delete then (blank value.kind, none)
  else match change.after with
    | none => (value, some .missingValue)
    | some after =>
      if after.kind = value.kind then (after, none)
      else (value, some (.scalarType value.kind after.kind))

/-- A map of texts after a change at one key. -/
def StringMap.amendText (change : Change) (key : String) (entries : StringMap String) :
    Attempt (StringMap String) :=
  if change.kind = .delete then (entries.erase key, none)
  else match change.after with
    | none => (entries, some .missingValue)
    | some (.text after) => (entries.insert key after, none)
    | some other => (entries, some (.entryType .text other.kind))

/-- A map of flags after a change at one key. -/
def StringMap.amendFlag (change : Change) (key : String) (entries : StringMap Bool) :
    Attempt (StringMap Bool) :=
  if change.kind = .delete then (entries.erase key, none)
  else match change.after with
    | none => (entries, some .missingValue)
    | some (.flag after) => (entries.insert key after, none)
    | some other => (entries, some (.entryType .flag other.kind))

mutual

/-- An attribute after a change at the place that `path` leads to from it. -/
def Field.amend (change : Change) (path : List String) : Field → Attempt Field
  | .scalar value =>
    match path with
    | [] => (value.amend change).map .scalar id
    | _ :: _ => (.scalar value, some .unaddressable)
  | .texts entries =>
    match path with
    | [key] => (entries.amendText change key).map .texts id
    | _ => (.texts entries, some .unaddressable)
  | .flags entries =>
    match path with
    | [key] => (entries.amendFlag change key).map .flags id
    | _ => (.flags entries, some .unaddressable)
  | .absent blank =>
    match path with
    | [] => (.absent blank, some .unaddressable)
    | name :: rest =>
      if change.kind = .delete then (.absent blank, none)
      else (blank.amendAt change name rest).map .present id
  | .present record =>
    match path with
    | [] => (.present record, some .unaddressable)
    | name :: rest => (record.amendAt change name rest).map .present id

/-- A record after a change inside its first attribute called `name`, at the place that
`path` leads to from there. -/
def Record.amendAt (change : Change) (name : String) (path : List String) :
    Record → Attempt Record
  | .nil => (.nil, some (.unknownField name))
  | .cons first field rest =>
    if first = name then (field.amend change path).map (.cons first · rest) id
    else (rest.amendAt change name path).map (.cons first field ·) id

end

/-- A record after one change. -/
def Record.apply (record : Record) (change : Change) : Attempt Record :=
  match change.path with
  | [] => (record, some .emptyPath)
  | name :: path => record.amendAt change name path

/-- A change that could not be carried out. -/
structure PatchFailure where
  change : Change
  obstacle : Obstacle
deriving DecidableEq, Repr

/-- A record after some changes up to the first that cannot be carried out. -/
def Record.patch (record : Record) : List Change → Record × Option PatchFailure
  | [] => (record, none)
  | change :: changes =>
    match record.apply change with
    | (amended, none) => amended.patch changes
    | (amended, some obstacle) => (amended, some ⟨change, obstacle⟩)

end ServerInventory
