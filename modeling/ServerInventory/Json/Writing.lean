import ServerInventory.Json.Basic

/-!
Documents written as text: on one line, or with every item and member on a line of its own.
-/

namespace ServerInventory.Json

/-- One character inside a string. Controls are escaped, and so are the quote and the
backslash. -/
def writeChar (c : Char) : String :=
  match c with
  | '"' => "\\\""
  | '\\' => "\\\\"
  | '\x08' => "\\b"
  | '\x0c' => "\\f"
  | '\n' => "\\n"
  | '\r' => "\\r"
  | '\t' => "\\t"
  | c =>
    if c.toNat < 0x20 then "\\u" ++ String.ofList (Chars.hexDigits 4 c.toNat)
    else String.singleton c

/-- A string between quotes; one that is no text is written as an empty one. -/
def writeString (content : Quoted) : String :=
  "\"" ++ (content.getD "").toList.foldl (fun written c => written ++ writeChar c) "" ++ "\""

/-- The part of a document that takes one line anyway. -/
def writeScalar : Json → String
  | .null => "null"
  | .flag value => if value then "true" else "false"
  | .numeral value => String.ofList value.toChars
  | .quoted content => writeString content
  | .list _ => "[]"
  | .object _ => "\x7b\x7d"

mutual

/-- A document on one line, without blanks. -/
def compact : Json → String
  | .list items => "[" ++ compactItems items ++ "]"
  | .object members => "\x7b" ++ compactMembers members ++ "\x7d"
  | scalar => writeScalar scalar

def compactItems : List Json → String
  | [] => ""
  | [item] => compact item
  | item :: rest => compact item ++ "," ++ compactItems rest

def compactMembers : List (Quoted × Json) → String
  | [] => ""
  | [(name, value)] => writeString name ++ ":" ++ compact value
  | (name, value) :: rest =>
    writeString name ++ ":" ++ compact value ++ "," ++ compactMembers rest

end

/-- A new line with two spaces for every list and object that is open. -/
def newLine (depth : Nat) : String :=
  "\n" ++ String.ofList (List.replicate (2 * depth) ' ')

mutual

/-- A document inside `depth` open lists and objects, an item or member to a line. -/
def prettyAt (depth : Nat) : Json → String
  | .list [] => "[]"
  | .object [] => "\x7b\x7d"
  | .list (item :: rest) =>
    "[" ++ newLine (depth + 1) ++ prettyAt (depth + 1) item ++ prettyItems (depth + 1) rest ++
      newLine depth ++ "]"
  | .object ((name, value) :: rest) =>
    "\x7b" ++ newLine (depth + 1) ++ writeString name ++ ": " ++ prettyAt (depth + 1) value ++
      prettyMembers (depth + 1) rest ++ newLine depth ++ "\x7d"
  | scalar => writeScalar scalar

def prettyItems (depth : Nat) : List Json → String
  | [] => ""
  | item :: rest => "," ++ newLine depth ++ prettyAt depth item ++ prettyItems depth rest

def prettyMembers (depth : Nat) : List (Quoted × Json) → String
  | [] => ""
  | (name, value) :: rest =>
    "," ++ newLine depth ++ writeString name ++ ": " ++ prettyAt depth value ++
      prettyMembers depth rest

end

/-- A document with every item and member on a line of its own. -/
def pretty (document : Json) : String :=
  prettyAt 0 document

end ServerInventory.Json
