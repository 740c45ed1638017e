import ServerInventory.Config
import ServerInventory.Yaml.Node

/-!
The configuration as a YAML document: a mapping whose entries replace the usual settings.
Entries of other names are left alone, while a setting that is given twice is an error. A
document without a value leaves all settings as they are.
-/

namespace ServerInventory.Config

open Yaml (Node Document)

/-! ## Values of settings -/

/-- The number of a text with a prefix for its base, if it has that prefix. -/
def prefixed? (front : Chars) (base : Nat) (text : Chars) : Option Nat := do
  let digits ← if front.isPrefixOf text then some (text.drop front.length) else none
  let values ← digits.mapM Chars.hexValue?
  if values.isEmpty || values.any (base ≤ ·) then none
  else some (values.foldl (fun number value => number * base + value) 0)

/-- A number in decimal, hexadecimal, octal or binary digits, with or without a plus sign.
Decimal digits behind a needless zero are no number. -/
def number? (text : Chars) : Option Nat :=
  let unsigned :=
    match text with
    | '+' :: rest => rest
    | text => text
  let decimal? :=
    match unsigned with
    | '0' :: _ :: _ => none
    | digits => Chars.natural? digits
  (prefixed? ['0', 'x'] 16 unsigned).or
    ((prefixed? ['0', 'o'] 8 unsigned).or ((prefixed? ['0', 'b'] 2 unsigned).or decimal?))

/-- A number that a 64-bit word holds. -/
def word64? (node : Node) : Option UInt64 := do
  let text ← node.bareText? "tag:yaml.org,2002:int"
  let number ← number? text.toList
  if number < UInt64.size then some (UInt64.ofNat number) else none

def flag? (node : Node) : Option Bool := do
  let text ← node.bareText? "tag:yaml.org,2002:bool"
  if ["true", "True", "TRUE"].contains text then some true
  else if ["false", "False", "FALSE"].contains text then some false
  else none

/-- The texts of a sequence; a value that is written as nothing has none. -/
def texts? (document : Document) (node : Node) : Option (List String) :=
  match node with
  | .sequence items => items.mapM fun item => (document.follow item).text?
  | _ => if node.isBlank then some [] else none

/-! ## The document -/

/-- The entries of a document with their names. -/
def entries? (document : Document) : Option (List (String × Node)) :=
  match document.root with
  | .mapping entries =>
    entries.mapM fun entry =>
      (document.follow entry.1).text?.map fun name => (name, document.follow entry.2)
  | root => if root.isBlank then some [] else none

/-- The value of a setting, which is the usual one where no entry names it. -/
def setting? {α : Type} (entries : List (String × Node)) (name : String)
    (usual : α) (read : Node → Option α) : Option α :=
  match entries.filter fun entry => entry.1 == name with
  | [] => some usual
  | [entry] => read entry.2
  | _ => none

/-- The configuration that a document states. -/
def ofDocument? (document : Document) : Option Config := do
  let usual : Config := {}
  let entries ← entries? document
  return {
    commandTimeoutSecs :=
      ← setting? entries "command_timeout_secs" usual.commandTimeoutSecs word64?
    disabledUtilities :=
      ← setting? entries "disabled_utilities" usual.disabledUtilities (texts? document)
    collectDriveCapabilities :=
      ← setting? entries "collect_drive_capabilities" usual.collectDriveCapabilities flag?
    traceOutput := ← setting? entries "trace_output" usual.traceOutput flag? }

/-- The configuration that a text states, if it is a valid one. -/
def ofText (text : String) : Except Error Config :=
  match (Document.ofText? text).bind ofDocument? with
  | none => .error .yaml
  | some config => config.validate.map fun _ => config

end ServerInventory.Config
