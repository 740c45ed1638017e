import ServerInventory.Text.Lines
import ServerInventory.Text.Numeral

/-!
Scripts of the command shell as trees: words with their quotes and substitutions,
redirections, and commands that are joined by pipes, by the success or failure of the
first one, or by nothing but their order.
-/

namespace ServerInventory.Host

mutual

/-- A part of a word. What is quoted stays in one piece and means nothing but itself. -/
inductive Piece where
  | text (text : Chars) (quoted : Bool)
  /-- The value of a variable or of an argument. -/
  | parameter (name : String) (form : Form) (quoted : Bool)
  /-- What commands write. -/
  | output (script : Script) (quoted : Bool)
  /-- The value of an expression with numbers. -/
  | number (expression : List Piece) (quoted : Bool)

/-- What of a value is meant. -/
inductive Form where
  | value
  | length
  /-- Another text in place of a value that is not there or, where `orEmpty`, is empty: `-`
  takes it, `=` keeps it as the value, `?` complains with it, and `+` takes it exactly
  where there is a value. -/
  | instead (sign : Char) (orEmpty : Bool) (word : List Piece)
  /-- Without a beginning or an end that fits a pattern. -/
  | without (atEnd longest : Bool) (pattern : List Piece)
  /-- Nothing that makes sense. -/
  | senseless

/-- Where a command reads from or writes to instead. -/
inductive Redirection where
  /-- One descriptor becomes another name of a second one, or is closed by a hyphen. -/
  | copy (descriptor : Nat) (target : List Piece)
  | write (descriptor : Nat) (appends : Bool) (path : List Piece)
  | read (descriptor : Nat) (path : List Piece)
  /-- A text that is part of the script. -/
  | given (descriptor : Nat) (text : List Piece)

inductive Script where
  | nothing
  /-- A command with its words, and the line on which it stands. -/
  | simple (line : Nat) (words : List (List Piece)) (redirections : List Redirection)
  /-- The second command reads what the first one writes. -/
  | pipe (first second : Script)
  /-- The second command runs if the first one succeeds. -/
  | both (first second : Script)
  /-- The second command runs if the first one fails. -/
  | either (first second : Script)
  | sequence (first second : Script)
  /-- A command that runs beside those behind it. -/
  | beside (body : Script)
  /-- A command whose success and failure are exchanged. -/
  | inverse (body : Script)
  /-- Commands that are redirected together, in a shell of their own or in this one. -/
  | group (own : Bool) (line : Nat) (body : Script) (redirections : List Redirection)
  | choice (test body otherwise : Script)
  /-- A command that is repeated while, or until, a test succeeds. -/
  | loop (untilSuccess : Bool) (test body : Script)
  /-- A command for each of some words, or for each argument. -/
  | each (name : String) (words : Option (List (List Piece))) (body : Script)
  /-- The command behind the first patterns of which one fits a word. -/
  | select (subject : List Piece) (cases : List (List (List Piece) × Script))
  | function (name : String) (body : Script)

end

abbrev Word := List Piece

instance : Inhabited Script := ⟨.nothing⟩

/-! ## Characters -/

def isNameStart (c : Char) : Bool :=
  c.isAlpha || c == '_'

def isNamePart (c : Char) : Bool :=
  c.isAlphanum || c == '_'

/-- Whether a text can be the name of a variable. -/
def isName (text : Chars) : Bool :=
  text.head?.any isNameStart && text.all isNamePart

/-- A character that ends a word where it is not quoted. -/
def endsWord (c : Char) : Bool :=
  " \t\n;&|<>()".toList.contains c

/-! ## Words -/

/-- The text of a word of which nothing is quoted or substituted. -/
def literal? : Word → Option Chars
  | [] => some []
  | .text text false :: rest => (literal? rest).map (text ++ ·)
  | _ => none

/-- Whether a part of a word is a word even if it is empty. -/
def Piece.isQuoted : Piece → Bool
  | .text _ quoted => quoted
  | .parameter _ _ quoted => quoted
  | .output _ quoted => quoted
  | .number _ quoted => quoted

/-- A variable and the word of its value, if a word assigns one. -/
def assignment? : Word → Option (String × Word)
  | .text text false :: rest =>
    match Chars.cut '=' text with
    | some (name, value) =>
      if isName name then
        some (String.ofList name, if value.isEmpty then rest else .text value false :: rest)
      else none
    | none => none
  | _ => none

end ServerInventory.Host
