import ServerInventory.Text.Blank
import ServerInventory.Text.CaseTables

/-!
Small letters. `Text.lowercase` is the full Unicode mapping: one character may become two
(U+0130), and a capital sigma becomes the final form exactly at the end of a word, which
is the one rule that looks at neighbours. `Text.equalsIgnoringCase` compares by ASCII
letters alone.
-/

namespace ServerInventory

namespace Text

/-- The small form of a code point that the run covers. -/
def CaseRun.small? (run : CaseRun) (code : Nat) : Option Nat :=
  if run.first ≤ code ∧ code ≤ run.last ∧ (code - run.first) % run.stride = 0 then
    some (run.target + (code - run.first))
  else none

end Text

namespace Chars

open ServerInventory.Text (CaseRun caseRuns casedRanges caseIgnorableRanges inRanges)

/-- The small form of one character without regard to its neighbours. -/
def smallForm (c : Char) : Chars :=
  if c.toNat < 0x80 then [c.toLower]
  else if c.toNat = 0x130 then ['i', Char.ofNat 0x307]
  else match caseRuns.findSome? (·.small? c.toNat) with
    | some code => [Char.ofNat code]
    | none => [c]

/-- Capital, small or titlecase letters. -/
def isCased (c : Char) : Bool :=
  inRanges casedRanges c.toNat

/-- Characters through which a word-position test looks, such as an apostrophe. -/
def isCaseIgnorable (c : Char) : Bool :=
  inRanges caseIgnorableRanges c.toNat

/-- Whether the first character that a word-position test does not look through is cased. -/
def meetsCased (text : Chars) : Bool :=
  match text.dropWhile isCaseIgnorable with
  | [] => false
  | c :: _ => isCased c

/-- Small letters of a text that follows `afterCased`: whether the nearest character
before it that a word-position test does not look through is cased. -/
def lowercaseFrom (afterCased : Bool) : Chars → Chars
  | [] => []
  | c :: rest =>
    let small :=
      if c = 'Σ' then (if afterCased && !meetsCased rest then ['ς'] else ['σ'])
      else smallForm c
    small ++ lowercaseFrom (if isCaseIgnorable c then afterCased else isCased c) rest

/-- Small letters of a whole text. -/
def lowercase (text : Chars) : Chars :=
  lowercaseFrom false text

end Chars

namespace Text

/-- Small letters of a whole text. -/
def lowercase (text : String) : String :=
  String.ofList (Chars.lowercase text.toList)

/-- Equality of texts when the case of ASCII letters, and of no other, is disregarded. -/
def equalsIgnoringCase (left right : String) : Bool :=
  left.toList.map Char.toLower == right.toList.map Char.toLower

end Text

end ServerInventory
