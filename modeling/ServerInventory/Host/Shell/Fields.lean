import ServerInventory.Host.Script

/-!
What words stand for once their parts have values: fields, which are the arguments of
commands, and patterns.
-/

namespace ServerInventory.Host

/-- A part of what a word stands for. -/
inductive Cell where
  | char (c : Char) (quoted : Bool)
  /-- Something quoted, which makes a field even if it is empty. -/
  | mark
  /-- A list without any items, which makes no field even if it is quoted. -/
  | none
  /-- A character between two fields. -/
  | gap (c : Char)
  /-- A character at the end of a field, which is a field even if it is empty. -/
  | cut (c : Char)
deriving DecidableEq, Repr

namespace Cell

/-- The cells of a value. What is not quoted falls apart at separators, of which blanks
may stand in any number. -/
def ofValue (separators : Chars) (quoted : Bool) (value : String) : List Cell :=
  if quoted then .mark :: value.toList.map (.char · true)
  else value.toList.map fun c =>
    if !List.elem c separators then .char c false
    else if c == ' ' || c == '\t' || c == '\n' then .gap c
    else .cut c

/-- A field that is being gathered. -/
structure Draft where
  text : Chars := []
  marked : Bool := false
  unmade : Bool := false

/-- Whether there is anything to a draft. -/
def Draft.isField (draft : Draft) : Bool :=
  !draft.text.isEmpty || (draft.marked && !draft.unmade)

/-- The fields of cells. -/
def fields : Draft → List Cell → List String
  | draft, [] => if draft.isField then [String.ofList draft.text] else []
  | draft, .char c _ :: rest => fields { draft with text := draft.text ++ [c] } rest
  | draft, .mark :: rest => fields { draft with marked := true } rest
  | draft, .none :: rest => fields { draft with unmade := true } rest
  | draft, .gap _ :: rest =>
    if draft.isField then String.ofList draft.text :: fields {} rest else fields {} rest
  | draft, .cut _ :: rest => String.ofList draft.text :: fields {} rest

/-- The one text of cells. -/
def text (cells : List Cell) : String :=
  String.ofList (cells.filterMap fun
    | .char c _ => some c
    | .gap c => some c
    | .cut c => some c
    | _ => Option.none)

/-- The characters of cells with whether they are quoted. -/
def characters (cells : List Cell) : List (Char × Bool) :=
  cells.filterMap fun
    | .char c quoted => some (c, quoted)
    | .gap c => some (c, true)
    | .cut c => some (c, true)
    | _ => Option.none

end Cell

/-! ## Patterns -/

/-- A part of a pattern. -/
inductive Wildcard where
  | char (c : Char)
  | any
  | some
  /-- One of the characters in some ranges, or none of them. -/
  | class (excludes : Bool) (ranges : List (Char × Char))
deriving DecidableEq, Repr

namespace Wildcard

/-- The characters of a class up to its closing bracket, and what follows that. A bracket
right at the start is one of them. -/
def members? : (first : Bool) → List (Char × Bool) →
    Option (List (Char × Bool) × List (Char × Bool))
  | _, [] => none
  | first, (c, quoted) :: rest =>
    if c == ']' && !quoted && !first then Option.some ([], rest)
    else (members? false rest).map fun found => ((c, quoted) :: found.1, found.2)

/-- The ranges of the characters of a class. -/
def ranges : List (Char × Bool) → List (Char × Char)
  | (first, _) :: ('-', false) :: (last, _) :: rest => (first, last) :: ranges rest
  | (c, _) :: rest => (c, c) :: ranges rest
  | [] => []

/-- A class behind its opening bracket, and what follows it. -/
def class? (text : List (Char × Bool)) : Option (Wildcard × List (Char × Bool)) :=
  let (excludes, text) : Bool × List (Char × Bool) :=
    match text with
    | ('!', false) :: rest => (true, rest)
    | ('^', false) :: rest => (true, rest)
    | rest => (false, rest)
  (members? true text).map fun found => (.class excludes (ranges found.1), found.2)

/-- The pattern of some characters, of which those that are quoted stand for themselves. -/
def ofCharacters : (fuel : Nat) → List (Char × Bool) → List Wildcard
  | 0, _ => []
  | fuel + 1, text =>
    match text with
    | [] => []
    | ('*', false) :: rest => .any :: ofCharacters fuel rest
    | ('?', false) :: rest => .some :: ofCharacters fuel rest
    | ('[', false) :: rest =>
      match class? rest with
      | Option.some (wildcard, after) => wildcard :: ofCharacters fuel after
      | none => .char '[' :: ofCharacters fuel rest
    | (c, _) :: rest => .char c :: ofCharacters fuel rest

/-- Whether a pattern fits a whole text. -/
def fits : List Wildcard → Chars → Bool
  | [], text => text.isEmpty
  | .any :: rest, [] => fits rest []
  | .any :: rest, c :: text => fits rest (c :: text) || fits (.any :: rest) text
  | .some :: rest, _ :: text => fits rest text
  | .char c :: rest, d :: text => c == d && fits rest text
  | .class excludes ranges :: rest, d :: text =>
    (ranges.any fun range => range.1 ≤ d && d ≤ range.2) != excludes && fits rest text
  | _ :: _, [] => false
termination_by pattern text => (pattern.length, text.length)

/-- A text without the shortest or the longest beginning that fits a pattern. -/
def dropFront (longest : Bool) (pattern : List Wildcard) (text : Chars) : Chars :=
  let lengths := List.range (text.length + 1)
  let lengths := if longest then lengths.reverse else lengths
  match lengths.find? fun length => fits pattern (text.take length) with
  | Option.some length => text.drop length
  | none => text

/-- A text without the shortest or the longest end that fits a pattern. -/
def dropBack (longest : Bool) (pattern : List Wildcard) (text : Chars) : Chars :=
  let lengths := List.range (text.length + 1)
  let lengths := if longest then lengths else lengths.reverse
  match lengths.find? fun length => fits pattern (text.drop length) with
  | Option.some length => text.take length
  | none => text

end Wildcard

end ServerInventory.Host
