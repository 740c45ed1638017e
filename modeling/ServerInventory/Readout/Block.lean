import ServerInventory.Readout.Cleaned
import ServerInventory.StringMap
import ServerInventory.Text.Lines

/-!
The block format, in which many utilities print one block of `key: value` lines for each
part. A block begins at a line that holds its marker and ends before the first blank line;
a line is cut at its first colon, and lines without one say nothing.
-/

namespace ServerInventory

/-- What a block says. -/
abbrev Block := StringMap String

namespace Block

/-- The lines of every block. A block may begin inside another one. -/
def linesOf (marker : Chars) : List Chars → List (List Chars)
  | [] => []
  | line :: rest =>
    if Chars.contains marker line then
      ((line :: rest).takeWhile fun line => !Chars.allBlank line) :: linesOf marker rest
    else linesOf marker rest

/-- The lines of every block of a text. -/
def linesOfText (marker : String) (text : String) : List (List Chars) :=
  linesOf marker.toList (Chars.lines text.toList)

/-- The key and the value of a line. -/
def pair? (line : Chars) : Option (String × String) :=
  (Chars.cut ':' line).map fun parts =>
    (String.ofList (Chars.trim parts.1), String.ofList (Chars.trim parts.2))

/-- What some lines say; of several lines with one key the last counts. -/
def ofLines (lines : List Chars) : Block :=
  StringMap.ofList (lines.filterMap pair?)

/-- The blocks of a text in their order. -/
def ofText (marker : String) (text : String) : List Block :=
  (linesOfText marker text).map ofLines

/-- The first value that is not empty, among those of some keys. -/
def value? (block : Block) (keys : List String) : Option String :=
  (keys.filterMap block.get?).find? fun value => !value.isEmpty

/-- The first value that is not empty, cleaned; empty if there is none. -/
def text (block : Block) (keys : List String) : String :=
  ((block.value? keys).map cleaned).getD ""

end Block

end ServerInventory
