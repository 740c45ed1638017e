import ServerInventory.Host.Script
import ServerInventory.StringMap

/-!
Expressions with numbers of 64 bits and the usual operators on them, in their usual order.
Variables stand for the numbers that their values write.
-/

namespace ServerInventory.Host

/-- How far an expression has been evaluated. -/
structure Calculation where
  rest : Chars
  bindings : StringMap String
deriving Repr

/-- A part of an expression, or what is wrong with it. -/
abbrev Calculate (α : Type) := StateT Calculation (Except String) α

namespace Calculate

/-- The number that a numeral writes: hexadecimal or octal by its front, or decimal. -/
def numeral? (text : Chars) : Option Int :=
  let read (base : Nat) (digits : Chars) : Option Int := do
    let values ← digits.mapM Chars.hexValue?
    if values.isEmpty || values.any (base ≤ ·) then failure
    else return (values.foldl (fun number value => number * base + value) 0 : Nat)
  match text with
  | '0' :: x :: digits =>
    if x == 'x' || x == 'X' then read 16 digits else read 8 (x :: digits)
  | text => read 10 text

/-- The number of a value; an empty one counts as zero. -/
def valueOf (text : String) : Except String Int :=
  let trimmed := (Chars.trim text.toList)
  let (sign, digits) : Int × Chars :=
    match trimmed with
    | '-' :: rest => (-1, rest)
    | '+' :: rest => (1, rest)
    | rest => (1, rest)
  if trimmed.isEmpty then .ok 0
  else match numeral? digits with
    | some number => .ok (sign * number)
    | none => .error ("Illegal number: " ++ text)

/-- A number as 64 bits hold it. -/
def wrap (number : Int) : Int :=
  (Int64.ofInt number).toInt

/-- The operators with two sides and their order; of two with the same beginning the longer
one comes first. -/
def operators : List (String × Nat) :=
  [("||", 1), ("&&", 2), ("==", 6), ("!=", 6), ("<<", 8), (">>", 8), ("<=", 7), (">=", 7),
    ("|", 3), ("^", 4), ("&", 5), ("<", 7), (">", 7), ("+", 9), ("-", 9), ("*", 10),
    ("/", 10), ("%", 10)]

/-- The operators that change a variable. -/
def changes : List String :=
  ["<<=", ">>=", "+=", "-=", "*=", "/=", "%=", "&=", "^=", "|="]

def truth (holds : Bool) : Int :=
  if holds then 1 else 0

/-- The value of an operator between two numbers. -/
def apply (operator : String) (left right : Int) : Except String Int :=
  let bits (operation : UInt64 → UInt64 → UInt64) : Int :=
    (operation (Int64.ofInt left).toUInt64 (Int64.ofInt right).toUInt64).toInt64.toInt
  match operator with
  | "||" => .ok (truth (left != 0 || right != 0))
  | "&&" => .ok (truth (left != 0 && right != 0))
  | "==" => .ok (truth (left == right))
  | "!=" => .ok (truth (left != right))
  | "<=" => .ok (truth (left ≤ right))
  | ">=" => .ok (truth (right ≤ left))
  | "<" => .ok (truth (left < right))
  | ">" => .ok (truth (right < left))
  | "|" => .ok (bits (· ||| ·))
  | "^" => .ok (bits (· ^^^ ·))
  | "&" => .ok (bits (· &&& ·))
  | "<<" => .ok (bits (· <<< ·))
  | ">>" => .ok (wrap (left >>> (right % 64).toNat))
  | "+" => .ok (wrap (left + right))
  | "-" => .ok (wrap (left - right))
  | "*" => .ok (wrap (left * right))
  | "/" => if right = 0 then .error "division by zero" else .ok (wrap (Int.tdiv left right))
  | _ => if right = 0 then .error "division by zero" else .ok (wrap (Int.tmod left right))

def skipBlanks : Calculate Unit :=
  modify fun state =>
    { state with rest := state.rest.dropWhile fun c => c == ' ' || c == '\t' || c == '\n' }

/-- Moves over one of some signs, if it comes next. -/
def accept? (signs : List String) : Calculate (Option String) := do
  skipBlanks
  let rest := (← get).rest
  match signs.find? fun sign => sign.toList.isPrefixOf rest with
  | none => return none
  | some sign =>
    modify fun state => { state with rest := rest.drop sign.length }
    return some sign

/-- Changes a variable, unless nothing is to be done. -/
def assign (idle : Bool) (name : String) (value : Int) : Calculate Unit :=
  if idle then return ()
  else modify fun state =>
    { state with bindings := state.bindings.insert name (toString value) }

mutual

/-- A value, which may be assigned. Where `idle`, nothing is assigned and nothing can go
wrong with values. -/
def assignment : (fuel : Nat) → (idle : Bool) → Calculate Int
  | 0, _ => throw "too long"
  | fuel + 1, idle => do
    skipBlanks
    let before ← get
    let name := String.ofList (before.rest.takeWhile isNamePart)
    if isName name.toList then
      modify fun state => { state with rest := state.rest.drop name.length }
      match ← accept? ("==" :: "=" :: changes) with
      | some "==" =>
        set before
        conditional fuel idle
      | some "=" =>
        let value ← assignment fuel idle
        assign idle name value
        return value
      | some change =>
        let right ← assignment fuel idle
        let left ← valueOf (((← get).bindings.get? name).getD "")
        let value ← if idle then pure 0 else apply (change.dropEnd 1).toString left right
        assign idle name value
        return value
      | none =>
        set before
        conditional fuel idle
    else conditional fuel idle

/-- A value that may depend on another one. -/
def conditional : (fuel : Nat) → (idle : Bool) → Calculate Int
  | 0, _ => throw "too long"
  | fuel + 1, idle => do
    let test ← operation fuel 1 idle
    match ← accept? ["?"] with
    | none => return test
    | some _ =>
      let first ← assignment fuel (idle || test == 0)
      if (← accept? [":"]).isNone then throw "expecting ':'"
      let second ← conditional fuel (idle || test != 0)
      return if test != 0 then first else second

/-- Values between operators that bind at least as strongly as some order. -/
def operation : (fuel : Nat) → (order : Nat) → (idle : Bool) → Calculate Int
  | 0, _, _ => throw "too long"
  | fuel + 1, order, idle => do
    let left ← single fuel idle
    operationFrom fuel order idle left

def operationFrom : (fuel : Nat) → (order : Nat) → (idle : Bool) → Int → Calculate Int
  | 0, _, _, _ => throw "too long"
  | fuel + 1, order, idle, left => do
    let before ← get
    match ← accept? (operators.map Prod.fst) with
    | none => return left
    | some operator =>
      let own := (operators.lookup operator).getD 0
      if own < order then
        set before
        return left
      else
        let skips :=
          (operator == "&&" && left == 0) || (operator == "||" && left != 0)
        let right ← operation fuel (own + 1) (idle || skips)
        let value ← if idle then pure 0 else apply operator left right
        operationFrom fuel order idle value

/-- A number, a variable, or an expression in parentheses, behind signs for it alone. -/
def single : (fuel : Nat) → (idle : Bool) → Calculate Int
  | 0, _ => throw "too long"
  | fuel + 1, idle => do
    match ← accept? ["!", "~", "+", "-", "("] with
    | some "!" => return truth ((← single fuel idle) == 0)
    | some "~" => return -(← single fuel idle) - 1
    | some "+" => single fuel idle
    | some "-" => return wrap (-(← single fuel idle))
    | some _ =>
      let value ← assignment fuel idle
      if (← accept? [")"]).isNone then throw "expecting ')'"
      return value
    | none =>
      let text := (← get).rest.takeWhile isNamePart
      if text.isEmpty then throw "expecting primary"
      modify fun state => { state with rest := state.rest.drop text.length }
      if isName text then valueOf (((← get).bindings.get? (String.ofList text)).getD "")
      else match numeral? text with
        | some number => return wrap number
        | none => throw "expecting EOF"

end

/-- The value of an expression, and the variables behind it. -/
def value (bindings : StringMap String) (text : Chars) :
    Except String (Int × StringMap String) := do
  let whole : Calculate Int := do
    skipBlanks
    if (← get).rest.isEmpty then throw "expecting primary"
    let value ← assignment (8 * text.length + 16) false
    skipBlanks
    if !(← get).rest.isEmpty then throw "expecting EOF"
    return value
  let (value, state) ← whole.run { rest := text, bindings }
  return (value, state.bindings)

end Calculate

end ServerInventory.Host
