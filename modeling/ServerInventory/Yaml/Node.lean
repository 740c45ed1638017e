import ServerInventory.Yaml.Scanner

/-!
Documents as trees. A text holds at most one document, and one without any stands for an
empty value.

The names of anchors have numbers: the first value that is marked with a name gets as its
number how many names were known before, and a name that is used again gets a number anew.
An alias is the number that its name had there, and stands for the last value in the whole
document that was marked with that number, whatever its name. Where every name marks one
value this is the value of that name.
-/

namespace ServerInventory.Yaml

/-- A value of a document. -/
inductive Node where
  | scalar (style : Style) (tag : Option Bytes) (text : String)
  | sequence (items : List Node)
  | mapping (entries : List (Node × Node))
  /-- What was marked with a number. -/
  | alias (number : Nat)
deriving Repr, Inhabited

namespace Node

/-- The value that is written as nothing. -/
def blank : Node :=
  .scalar .plain none ""

/-- The text of a scalar, however it is written. -/
def text? : Node → Option String
  | .scalar _ _ text => some text
  | _ => none

/-- The text of a plain scalar, or of a literal block with a certain tag. Only these are
read as numbers and flags. -/
def bareText? (tag : String) : Node → Option String
  | .scalar .plain _ text => some text
  | .scalar .literal (some given) text =>
    if given = Bytes.ofText tag then some text else none
  | _ => none

/-- Whether nothing is written. -/
def isBlank : Node → Bool
  | .scalar .plain _ text => text.isEmpty
  | _ => false

end Node

/-- A document. -/
structure Document where
  root : Node := .blank
  /-- The values that aliases stand for, by their numbers. -/
  marked : List (Nat × Node) := []
deriving Repr, Inhabited

/-- A value of a document, which is another one where an alias stands for it. -/
def Document.follow (document : Document) : Node → Node
  | .alias number => (document.marked.lookup number).getD (.alias number)
  | node => node

/-! ## Composing -/

/-- What is left to compose of a document, and what is known from before. -/
structure Source where
  tokens : List Token
  /-- The numbers of the names of anchors. -/
  names : List (String × Nat) := []
  /-- The numbers of the values that were marked, the latest first. -/
  marks : List Nat := []
  /-- The marked values that are composed, each with how many were marked before it. -/
  values : List (Nat × Node) := []
  /-- What the handles of tags stand for. -/
  handles : List (String × Bytes) :=
    [("!", Bytes.ofText "!"), ("!!", Bytes.ofText "tag:yaml.org,2002:")]

/-- A part of a document, unless the tokens are wrong. -/
abbrev Compose (α : Type) := StateT Source Option α

namespace Compose

/-- The next token, which stays. -/
def peek : Compose (Option Token) := do
  return (← get).tokens.head?

/-- Whether one of some tokens, or the end, comes next. -/
def follows (tokens : List Token) : Compose Bool := do
  match ← peek with
  | none => return false
  | some token => return tokens.contains token

def drop : Compose Unit :=
  modify fun source => { source with tokens := source.tokens.tail }

/-- Drops a token that has to come next. -/
def expect (token : Token) : Compose Unit := do
  if ← follows [token] then drop else failure

/-- Drops a token if it comes next, and says whether it did. -/
def accept (token : Token) : Compose Bool := do
  if ← follows [token] then
    drop
    return true
  else return false

/-- The name behind a handle. -/
def resolve (handle : String) (suffix : Bytes) : Compose Bytes := do
  if handle.isEmpty then return suffix
  else match (← get).handles.lookup handle with
    | some front => return front ++ suffix
    | none => failure

/-- An anchor and a tag, in either order and each at most once. -/
def properties : Compose (Option String × Option Bytes) := do
  match ← peek with
  | some (.anchor name) =>
    drop
    match ← peek with
    | some (.tag handle suffix) =>
      drop
      return (some name, some (← resolve handle suffix))
    | _ => return (some name, none)
  | some (.tag handle suffix) =>
    drop
    match ← peek with
    | some (.anchor name) =>
      drop
      return (some name, some (← resolve handle suffix))
    | _ => return (none, some (← resolve handle suffix))
  | _ => return (none, none)

/-- Marks the value that is about to be composed, and says how many were marked before. -/
def openAnchor (name : String) : Compose Nat := do
  let source ← get
  let number := source.names.length
  set { source with
    names := (name, number) :: source.names.filter fun entry => entry.1 != name
    marks := number :: source.marks }
  return source.marks.length

/-- Keeps a marked value. -/
def closeAnchor (place : Nat) (node : Node) : Compose Unit :=
  modify fun source => { source with values := (place, node) :: source.values }

mutual

/-- A value. `block` says whether it may be a block, and `indentless` whether the items of
a sequence may stand in the column of the key before them. -/
def node : (fuel : Nat) → (block indentless : Bool) → Compose Node
  | 0, _, _ => failure
  | fuel + 1, block, indentless => do
    match ← peek with
    | some (.alias name) =>
      drop
      match (← get).names.lookup name with
      | some number => return .alias number
      | none => failure
    | _ =>
      let (anchor, tag) ← properties
      let marked := anchor.isSome || tag.isSome
      match anchor with
      | none => content fuel block indentless tag marked
      | some name =>
        let place ← openAnchor name
        let node ← content fuel block indentless tag marked
        closeAnchor place node
        return node

/-- A value behind its properties; with any of them it may be nothing. -/
def content : (fuel : Nat) → (block indentless : Bool) → Option Bytes → (marked : Bool) →
    Compose Node
  | 0, _, _, _, _ => failure
  | fuel + 1, block, indentless, tag, marked => do
    match ← peek with
    | some (.scalar style text) =>
      drop
      return .scalar style tag text
    | some .flowSequence =>
      drop
      return .sequence (← flowItems fuel true)
    | some .flowMapping =>
      drop
      return .mapping (← flowEntries fuel true)
    | some .blockEntry =>
      if indentless then return .sequence (← indentlessItems fuel)
      else if marked then return .scalar .plain tag ""
      else failure
    | some .blockSequence =>
      if block then
        drop
        return .sequence (← blockItems fuel)
      else if marked then return .scalar .plain tag ""
      else failure
    | some .blockMapping =>
      if block then
        drop
        return .mapping (← blockEntries fuel)
      else if marked then return .scalar .plain tag ""
      else failure
    | _ => if marked then return .scalar .plain tag "" else failure

/-- A value, or nothing where one of some tokens follows. -/
def nodeUnless : (fuel : Nat) → (ends : List Token) → (block indentless : Bool) →
    Compose Node
  | 0, _, _, _ => failure
  | fuel + 1, ends, block, indentless => do
    if ← follows ends then return .blank else node fuel block indentless

/-- The value behind a colon, or nothing where there is none. -/
def valueUnless : (fuel : Nat) → (ends : List Token) → (block indentless : Bool) →
    Compose Node
  | 0, _, _, _ => failure
  | fuel + 1, ends, block, indentless => do
    if ← accept .value then nodeUnless fuel ends block indentless else return .blank

/-- The items of a block up to its end. -/
def blockItems : (fuel : Nat) → Compose (List Node)
  | 0 => failure
  | fuel + 1 => do
    if ← accept .blockEntry then
      let item ← nodeUnless fuel [.blockEntry, .blockEnd] true false
      return item :: (← blockItems fuel)
    else
      expect .blockEnd
      return []

/-- The items in the column of the key before them. -/
def indentlessItems : (fuel : Nat) → Compose (List Node)
  | 0 => failure
  | fuel + 1 => do
    if ← accept .blockEntry then
      let item ← nodeUnless fuel [.blockEntry, .key, .value, .blockEnd] true false
      return item :: (← indentlessItems fuel)
    else return []

/-- The entries of a block up to its end. -/
def blockEntries : (fuel : Nat) → Compose (List (Node × Node))
  | 0 => failure
  | fuel + 1 => do
    if ← accept .key then
      let key ← nodeUnless fuel [.key, .value, .blockEnd] true true
      let value ← valueUnless fuel [.key, .value, .blockEnd] true true
      return (key, value) :: (← blockEntries fuel)
    else
      expect .blockEnd
      return []

/-- The items up to a closing bracket. An entry with a key is a mapping of its own; a key
that is written as nothing takes the token behind it along. -/
def flowItems : (fuel : Nat) → (first : Bool) → Compose (List Node)
  | 0, _ => failure
  | fuel + 1, first => do
    if ← accept .flowSequenceEnd then return []
    if !first then expect .flowEntry
    if ← accept .key then
      let keyless ← follows [.value, .flowEntry, .flowSequenceEnd]
      let key ← nodeUnless fuel [.value, .flowEntry, .flowSequenceEnd] false false
      if keyless then drop
      let value ← valueUnless fuel [.flowEntry, .flowSequenceEnd] false false
      return .mapping [(key, value)] :: (← flowItems fuel false)
    else if ← accept .flowSequenceEnd then return []
    else
      let item ← node fuel false false
      return item :: (← flowItems fuel false)

/-- The entries up to a closing brace. -/
def flowEntries : (fuel : Nat) → (first : Bool) → Compose (List (Node × Node))
  | 0, _ => failure
  | fuel + 1, first => do
    if ← accept .flowMappingEnd then return []
    if !first then expect .flowEntry
    if ← accept .key then
      let key ← nodeUnless fuel [.value, .flowEntry, .flowMappingEnd] false false
      let value ← valueUnless fuel [.flowEntry, .flowMappingEnd] false false
      return (key, value) :: (← flowEntries fuel false)
    else if ← accept .flowMappingEnd then return []
    else
      let key ← node fuel false false
      return (key, .blank) :: (← flowEntries fuel false)

end

/-! ## Documents -/

/-- The directives in front of a document. -/
def directives : (fuel : Nat) → (versioned : Bool) → (named : List String) → Compose Unit
  | 0, _, _ => failure
  | fuel + 1, versioned, named => do
    match ← peek with
    | some (.version major minor) =>
      if versioned || major != 1 || (minor != 1 && minor != 2) then failure
      drop
      directives fuel true named
    | some (.tagPrefix handle text) =>
      if named.contains handle then failure
      drop
      modify fun source => { source with handles := (handle, text) :: source.handles }
      directives fuel versioned (handle :: named)
    | _ => return ()

/-- Whether the next token cannot be that of a value. -/
def documentEnds : Compose Bool := do
  match ← peek with
  | none | some .documentStart | some .documentEnd => return true
  | some (.version _ _) | some (.tagPrefix _ _) => return true
  | _ => return false

/-- Whether a document with a line of its own in front starts here. -/
def startsExplicitly : Compose Bool := do
  match ← peek with
  | some .documentStart | some (.version _ _) | some (.tagPrefix _ _) => return true
  | _ => return false

/-- The only document of a text. -/
def document (fuel : Nat) : Compose Node := do
  match ← peek with
  | none => return .blank
  | _ =>
    let root ← do
      if ← startsExplicitly then
        directives fuel false []
        expect .documentStart
        if ← documentEnds then pure .blank else node fuel true false
      else node fuel true false
    modify fun source => { source with tokens := source.tokens.dropWhile (· == .documentEnd) }
    if (← peek).isSome then failure
    return root

end Compose

/-- The last marked value of each number. -/
def lastMarked (source : Source) : List (Nat × Node) :=
  (source.marks.zipIdx.filterMap fun mark =>
    (source.values.lookup (source.marks.length - 1 - mark.2)).map fun node => (mark.1, node))

/-- The document that a text holds. No more than six steps are taken for a token. -/
def Document.ofText? (text : String) : Option Document := do
  let tokens ← tokens? text
  let (root, source) ← (Compose.document (6 * tokens.length + 8)).run { tokens }
  return { root, marked := lastMarked source }

end ServerInventory.Yaml
