import ServerInventory.Error
import ServerInventory.Text.Lines

/-!
What `hdparm -I` reports of the features of a drive: an indented section, in which a star
marks the features that are enabled.
-/

namespace ServerInventory.Hdparm

/-- The line above the section of features. -/
def heading : String := "Commands/features:"

/-- The feature that a line of the section names, and whether it is enabled. Blank lines
and the line above the columns name none. -/
def feature? (line : Chars) : Option (String × Bool) :=
  let row := Chars.trim line
  if row.isEmpty || "Enabled".toList.isPrefixOf row then none
  else match Chars.stripStart? ['*'] row with
    | some name => some (String.ofList (Chars.trim name), true)
    | none => some (String.ofList row, false)

/-- Whether a line still belongs to the section. -/
def isIndented (line : Chars) : Bool :=
  match line with
  | ' ' :: _ => true
  | '\t' :: _ => true
  | _ => false

/-- The lines behind the heading of the section, if it is there. -/
def section? (lines : List Chars) : Option (List Chars) :=
  match lines.dropWhile fun line => Chars.trim line != heading.toList with
  | [] => none
  | _ :: rest => some (rest.takeWhile isIndented)

/-- The features that `hdparm -I` lists. -/
def capabilities (output : String) : Except Error (List (String × Bool)) :=
  match section? (Chars.lines output.toList) with
  | none => .error (.parse "hdparm" "no Commands/features section")
  | some lines => .ok (lines.filterMap feature?)

end ServerInventory.Hdparm
