import ServerInventory.Text.Lowercase

/-!
Texts as utilities print them, with what stands for absent data taken out.
-/

namespace ServerInventory

/-- What utilities print for data that they do not have, in small letters. -/
def placeholders : List String :=
  ["n/a", "na", "none", "unknown", "not specified", "to be filled by o.e.m."]

/-- A printed text without blanks around it; empty if it only stands for absent data. -/
def cleaned (text : String) : String :=
  let trimmed := Text.trim text
  if placeholders.contains (Text.lowercase trimmed) then "" else trimmed

end ServerInventory
