import ServerInventory.Proofs.Readout.Blocks
import ServerInventory.Proofs.Text.Returns
import ServerInventory.Readout.Hdparm

/-!
The section of features, read back from the text in which it is written. The section begins
behind its title and ends before the first line that is not indented; what stands in front
of the title and behind the section has no part in it (`Hdparm.capabilities_sheet`).
-/

namespace ServerInventory.Hdparm

/-! ## Sheets -/

/-- Blanks that fit into one line. -/
structure IsSpacing (gap : Chars) : Prop where
  blank : Chars.allBlank gap = true
  unbroken : '\n' ∉ gap

instance (gap : Chars) : Decidable (IsSpacing gap) :=
  decidable_of_iff (Chars.allBlank gap = true ∧ '\n' ∉ gap)
    ⟨fun ⟨blank, unbroken⟩ => ⟨blank, unbroken⟩, fun ⟨blank, unbroken⟩ => ⟨blank, unbroken⟩⟩

/-- Blanks in front of a row, a space or a tab first. -/
def IsIndent (indent : Chars) : Prop :=
  IsSpacing indent ∧ (indent.head? = some ' ' ∨ indent.head? = some '\t')

instance (indent : Chars) : Decidable (IsIndent indent) :=
  inferInstanceAs (Decidable (_ ∧ (_ ∨ _)))

/-- A line and what ends it. -/
structure Line where
  content : Chars
  ending : Chars.LineBreak

def Line.text (line : Line) : Chars :=
  line.content ++ line.ending.chars

/-- A row of the section: a feature, and the blanks in front of its star and its name. -/
structure Row where
  indent : Chars
  gap : Chars := []
  name : String
  enabled : Bool
  ending : Chars.LineBreak

namespace Row

/-- The row without its indent. -/
def body (row : Row) : Chars :=
  if row.enabled then '*' :: (row.gap ++ row.name.toList) else row.name.toList

def line (row : Row) : Line :=
  ⟨row.indent ++ row.body, row.ending⟩

/-- The feature that the row is written for, and whether it is enabled. -/
def feature (row : Row) : String × Bool :=
  (row.name, row.enabled)

/-- Whether a row can be told apart from the line above the columns, and a feature that is
not enabled from one that is. -/
structure WellFormed (row : Row) : Prop where
  indent : IsIndent row.indent
  gap : IsSpacing row.gap
  named : row.name ≠ ""
  trimmed : Text.trim row.name = row.name
  unbroken : '\n' ∉ row.name.toList
  plain : row.enabled = false →
    ¬['*'] <+: row.name.toList ∧ ¬"Enabled".toList <+: row.name.toList

instance (row : Row) : Decidable row.WellFormed :=
  decidable_of_iff
    (IsIndent row.indent ∧ IsSpacing row.gap ∧ row.name ≠ "" ∧ Text.trim row.name = row.name ∧
      '\n' ∉ row.name.toList ∧
      (row.enabled = false →
        ¬['*'] <+: row.name.toList ∧ ¬"Enabled".toList <+: row.name.toList))
    ⟨fun ⟨a, b, c, d, e, f⟩ => ⟨a, b, c, d, e, f⟩, fun ⟨a, b, c, d, e, f⟩ => ⟨a, b, c, d, e, f⟩⟩

end Row

/-- The line above the columns. -/
def IsColumns (line : Line) : Prop :=
  ∃ indent gap, IsIndent indent ∧ IsSpacing gap ∧
    line.content = indent ++ "Enabled".toList ++ gap ++ "Supported:".toList

/-- What is printed of a drive: lines of other content, the title of the section, perhaps the
line above the columns, a row for each feature, and what follows. -/
structure Sheet where
  front : List Line
  title : Line
  columns : Option Line
  rows : List Row
  rest : Chars

namespace Sheet

/-- The lines of the section. -/
def listed (sheet : Sheet) : List Line :=
  sheet.columns.toList ++ sheet.rows.map Row.line

def text (sheet : Sheet) : Chars :=
  (sheet.front ++ sheet.title :: sheet.listed).flatMap Line.text ++ sheet.rest

/-- Whether the title stands nowhere in front of the section, and what follows the section
does not begin with an indent. -/
structure WellFormed (sheet : Sheet) : Prop where
  front : ∀ line ∈ sheet.front,
    '\n' ∉ line.content ∧ Chars.trim line.content ≠ "Commands/features:".toList
  title : '\n' ∉ sheet.title.content ∧ Chars.trim sheet.title.content = "Commands/features:".toList
  columns : ∀ line ∈ sheet.columns, IsColumns line
  rows : ∀ row ∈ sheet.rows, row.WellFormed
  rest : sheet.rest.head? ≠ some ' ' ∧ sheet.rest.head? ≠ some '\t'

end Sheet

/-! ## Lines of a sheet -/

/-- A line as it is read. -/
def Line.kept (line : Line) : Chars :=
  line.ending.kept line.content

theorem Line.trim_kept (line : Line) : Chars.trim line.kept = Chars.trim line.content :=
  (line.ending.upToReturn_kept line.content).trim_eq

theorem lines_flatMap_text {lines : List Line} (unbroken : ∀ line ∈ lines, '\n' ∉ line.content)
    (rest : Chars) :
    Chars.lines (lines.flatMap Line.text ++ rest) = lines.map Line.kept ++ Chars.lines rest := by
  induction lines with
  | nil => rfl
  | cons line lines ih =>
    obtain ⟨first, later⟩ := List.forall_mem_cons.1 unbroken
    rw [List.flatMap_cons, List.append_assoc, Line.text, Chars.lines_break first, ih later]
    rfl

/-- What follows the section is no part of it. -/
theorem takeWhile_isIndented_lines {rest : Chars}
    (ends : rest.head? ≠ some ' ' ∧ rest.head? ≠ some '\t') :
    (Chars.lines rest).takeWhile isIndented = [] := by
  cases found : Chars.lines rest with
  | nil => rfl
  | cons line lines =>
    have begins : line <+: rest := Chars.prefix_of_mem_head?_lines (by rw [found]; rfl)
    refine List.takeWhile_cons_of_neg fun indented => ?_
    obtain ⟨more, rfl⟩ := begins
    unfold isIndented at indented
    split at indented
    · exact ends.1 rfl
    · exact ends.2 rfl
    · cases indented

theorem isIndented_append {indent : Chars} (isIndent : IsIndent indent) (body : Chars) :
    isIndented (indent ++ body) = true := by
  rcases isIndent.2 with space | tab
  · obtain ⟨more, rfl⟩ := List.head?_eq_some_iff.1 space
    rfl
  · obtain ⟨more, rfl⟩ := List.head?_eq_some_iff.1 tab
    rfl

theorem trim_indented {indent body : Chars} (isIndent : IsIndent indent)
    (trimmed : Chars.Trimmed body) : Chars.trim (indent ++ body) = body := by
  have blank := Chars.trim_surrounded isIndent.1.blank (rfl : Chars.allBlank [] = true) body
  rw [List.append_nil] at blank
  rw [blank, trimmed.trim_eq]

/-- A line that ends with a trimmed text has no carriage return to lose. -/
theorem Line.kept_of_trimmed {line : Line} {front body : Chars}
    (ends : line.content = front ++ body) (filled : body ≠ []) (trimmed : Chars.Trimmed body) :
    line.kept = line.content := by
  refine line.ending.kept_of_last fun last => ?_
  rw [ends, List.getLast?_append_of_ne_nil front filled] at last
  exact absurd (trimmed.last '\r' last) (by decide)

namespace Row

variable {row : Row}

theorem WellFormed.trimmed_name (wellFormed : row.WellFormed) : Chars.Trimmed row.name.toList := by
  rw [← Chars.trim_eq_self_iff, ← Text.toList_trim, wellFormed.trimmed]

theorem WellFormed.name_ne_nil (wellFormed : row.WellFormed) : row.name.toList ≠ [] :=
  fun empty => wellFormed.named (String.toList_eq_nil_iff.1 empty)

theorem WellFormed.unbroken_line (wellFormed : row.WellFormed) : '\n' ∉ row.line.content := by
  have indent := wellFormed.indent.1.unbroken
  have gap := wellFormed.gap.unbroken
  have name := wellFormed.unbroken
  rw [line, body]
  split <;> simp [indent, gap, name]

theorem WellFormed.body_ne_nil (wellFormed : row.WellFormed) : row.body ≠ [] := by
  rw [body]
  split
  · exact List.cons_ne_nil _ _
  · exact wellFormed.name_ne_nil

theorem WellFormed.trimmed_body (wellFormed : row.WellFormed) : Chars.Trimmed row.body := by
  have name := wellFormed.trimmed_name
  rw [body]
  split
  · refine ⟨fun c first => ?_, fun c last => ?_⟩
    · cases first
      decide
    · rw [← List.cons_append, List.getLast?_append_of_ne_nil _ wellFormed.name_ne_nil] at last
      exact name.last c last
  · exact name

theorem WellFormed.kept_line (wellFormed : row.WellFormed) : row.line.kept = row.line.content :=
  Line.kept_of_trimmed rfl wellFormed.body_ne_nil wellFormed.trimmed_body

/-- A row names the feature that it is written for. -/
theorem WellFormed.feature?_line (wellFormed : row.WellFormed) :
    feature? row.line.kept = some row.feature := by
  have trimmed := trim_indented wellFormed.indent wellFormed.trimmed_body
  rw [feature?, wellFormed.kept_line, line, trimmed, body, feature]
  cases enabled : row.enabled with
  | true =>
    have name : Chars.trim (row.gap ++ row.name.toList) = row.name.toList := by
      have blank := Chars.trim_surrounded wellFormed.gap.blank (rfl : Chars.allBlank [] = true)
        row.name.toList
      rw [List.append_nil] at blank
      rw [blank, wellFormed.trimmed_name.trim_eq]
    have starred : Chars.stripStart? ['*'] ('*' :: (row.gap ++ row.name.toList)) =
        some (row.gap ++ row.name.toList) := by
      simp [Chars.stripStart?]
    have other : ("Enabled".toList.isPrefixOf ('*' :: (row.gap ++ row.name.toList))) = false := rfl
    rw [if_pos rfl, List.isEmpty_cons, other, starred]
    dsimp only
    rw [name, String.ofList_toList]
    rfl
  | false =>
    obtain ⟨unstarred, other⟩ := wellFormed.plain enabled
    rw [← List.isPrefixOf_iff_prefix, Bool.not_eq_true] at unstarred other
    have filled : row.name.toList.isEmpty = false := by
      rw [List.isEmpty_eq_false_iff]
      exact wellFormed.name_ne_nil
    rw [if_neg Bool.false_ne_true, filled, other, Chars.stripStart?, unstarred]
    simp only [Bool.or_self, Bool.false_eq_true, if_false]
    rw [String.ofList_toList]

end Row

/-- The line above the columns is one of the section, but names no feature. -/
theorem feature?_columns {line : Line} (columns : IsColumns line) :
    '\n' ∉ line.content ∧ isIndented line.kept = true ∧ feature? line.kept = none := by
  obtain ⟨indent, gap, isIndent, isGap, content⟩ := columns
  rw [List.append_assoc, List.append_assoc] at content
  have trimmed : Chars.Trimmed ("Enabled".toList ++ (gap ++ "Supported:".toList)) := by
    refine ⟨fun c first => ?_, fun c last => ?_⟩
    · cases first
      decide
    · rw [← List.append_assoc, List.getLast?_append_of_ne_nil _ (by decide)] at last
      cases last
      decide
  have kept := Line.kept_of_trimmed content (List.cons_ne_nil _ _) trimmed
  refine ⟨?_, ?_, ?_⟩
  · simp [content, isIndent.1.unbroken, isGap.unbroken]
  · rw [kept, content]
    exact isIndented_append isIndent _
  · rw [feature?, kept, content, trim_indented isIndent trimmed]
    rfl

/-! ## The section -/

namespace Sheet

variable {sheet : Sheet}

theorem WellFormed.unbroken (wellFormed : sheet.WellFormed) :
    ∀ line ∈ sheet.front ++ sheet.title :: sheet.listed, '\n' ∉ line.content := by
  rw [List.forall_mem_append, List.forall_mem_cons, listed, List.forall_mem_append]
  refine ⟨fun line among => (wellFormed.front line among).1, wellFormed.title.1,
    fun line among => ?_, List.forall_mem_map.2 fun row among => ?_⟩
  · exact (feature?_columns (wellFormed.columns line (Option.mem_toList.1 among))).1
  · exact (wellFormed.rows row among).unbroken_line

theorem WellFormed.isIndented_listed (wellFormed : sheet.WellFormed) :
    ∀ line ∈ sheet.listed.map Line.kept, isIndented line = true := by
  rw [List.forall_mem_map, listed, List.forall_mem_append]
  refine ⟨fun line among => ?_, List.forall_mem_map.2 fun row among => ?_⟩
  · exact (feature?_columns (wellFormed.columns line (Option.mem_toList.1 among))).2.1
  · have row := wellFormed.rows row among
    rw [row.kept_line]
    exact isIndented_append row.indent _

/-- The section holds the lines between its title and what follows. -/
theorem WellFormed.section?_lines (wellFormed : sheet.WellFormed) :
    Hdparm.section? (Chars.lines sheet.text) = some (sheet.listed.map Line.kept) := by
  have front : ∀ line ∈ sheet.front.map Line.kept,
      (Chars.trim line != heading.toList) = true := by
    rw [List.forall_mem_map]
    intro line among
    rw [line.trim_kept, bne_iff_ne]
    exact (wellFormed.front line among).2
  have title : ¬(Chars.trim sheet.title.kept != heading.toList) = true := by
    rw [sheet.title.trim_kept, show Chars.trim sheet.title.content = heading.toList from
      wellFormed.title.2, bne_self_eq_false]
    exact Bool.false_ne_true
  rw [section?, text, lines_flatMap_text wellFormed.unbroken, List.map_append, List.map_cons,
    List.append_assoc, List.dropWhile_append_of_pos front, List.cons_append,
    List.dropWhile_cons_of_neg (p := fun line => Chars.trim line != heading.toList) title]
  dsimp only
  rw [List.takeWhile_append_of_pos wellFormed.isIndented_listed,
    takeWhile_isIndented_lines wellFormed.rest, List.append_nil]

theorem WellFormed.filterMap_feature? (wellFormed : sheet.WellFormed) :
    (sheet.listed.map Line.kept).filterMap feature? = sheet.rows.map Row.feature := by
  have columns : (sheet.columns.toList.map Line.kept).filterMap feature? = [] := by
    rw [List.filterMap_eq_nil_iff, List.forall_mem_map]
    intro line among
    exact (feature?_columns (wellFormed.columns line (Option.mem_toList.1 among))).2.2
  rw [listed, List.map_append, List.filterMap_append, columns, List.nil_append, List.map_map,
    List.filterMap_map, ← List.filterMap_eq_map]
  exact List.filterMap_congr fun row among => (wellFormed.rows row among).feature?_line

end Sheet

theorem section?_eq_none_iff {lines : List Chars} :
    Hdparm.section? lines = none ↔
      ∀ line ∈ lines, Chars.trim line ≠ "Commands/features:".toList := by
  have silent : (lines.dropWhile fun line => Chars.trim line != heading.toList) = [] ↔
      ∀ line ∈ lines, Chars.trim line ≠ "Commands/features:".toList := by
    simp only [List.dropWhile_eq_nil_iff, bne_iff_ne]
    rfl
  rw [section?, ← silent]
  split
  · next nothing => exact iff_of_true rfl nothing
  · next found => exact iff_of_false nofun (found ▸ List.cons_ne_nil _ _)

/-- The features of a sheet are read back in their order, whatever stands around the section;
and a text without the title of the section, and no other text, is refused. -/
theorem capabilities_sheet :
    (∀ sheet : Sheet, sheet.WellFormed → ∀ text : String,
      Block.IsWritten sheet.text text.toList →
        capabilities text = .ok (sheet.rows.map Row.feature)) ∧
    (∀ text : String,
      capabilities text = .error (.parse "hdparm" "no Commands/features section") ↔
        ∀ line ∈ Chars.lines text.toList, Chars.trim line ≠ "Commands/features:".toList) := by
  refine ⟨fun sheet wellFormed text written => ?_, fun text => ?_⟩
  · rw [capabilities, written.lines_eq, wellFormed.section?_lines]
    dsimp only
    rw [wellFormed.filterMap_feature?]
  · rw [← section?_eq_none_iff, capabilities]
    cases section? (Chars.lines text.toList) with
    | none => exact iff_of_true rfl rfl
    | some lines => exact iff_of_false nofun nofun

/-- A drive with two features, one of them enabled, a line of another section that is indented
like them, and lines ended in both ways. -/
def identified : Sheet where
  front := [⟨"\tModel Number: M5200".toList, .feed⟩]
  title := ⟨"Commands/features:".toList, .returnFeed⟩
  columns := some ⟨"\tEnabled\tSupported:".toList, .feed⟩
  rows :=
    [{ indent := "\t   ".toList, gap := ['\t'], name := "Enabled by vendor", enabled := true,
       ending := .feed },
     { indent := " \t".toList, name := "Security Mode * set", enabled := false,
       ending := .returnFeed }]
  rest := "Security:\n\tsupported".toList

theorem capabilities_sheet_identified :
    identified.WellFormed ∧
      capabilities ("\tModel Number: M5200\nCommands/features:\r\n\tEnabled\tSupported:\n" ++
        "\t   *\tEnabled by vendor\n \tSecurity Mode * set\r\nSecurity:\n\tsupported") =
        .ok [("Enabled by vendor", true), ("Security Mode * set", false)] := by
  have wellFormed : identified.WellFormed :=
    { front := by decide +kernel
      title := by decide +kernel
      columns := by
        rintro line ⟨⟩
        exact ⟨['\t'], ['\t'], by decide, by decide, rfl⟩
      rows := by decide +kernel
      rest := by decide }
  exact ⟨wellFormed, capabilities_sheet.1 identified wellFormed _ (.inl (by decide +kernel))⟩

end ServerInventory.Hdparm
