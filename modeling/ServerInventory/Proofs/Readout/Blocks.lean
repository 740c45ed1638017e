import ServerInventory.Proofs.StringMap
import ServerInventory.Proofs.Text.Lines
import ServerInventory.Proofs.Text.Trimming
import ServerInventory.Readout.Block

/-!
Blocks of `key: value` lines, read back from the text in which they are written. No block
reaches over a blank line (`Block.linesOf_append_blank`), so a text of paragraphs is read
paragraph by paragraph, and each of them says what was written into it
(`Block.ofText_written`).
-/

namespace ServerInventory.Block

/-! ## Lines of blocks -/

/-- A blank line ends a block whatever stands behind it. -/
theorem takeWhile_append_blank {blank : Chars} (isBlank : Chars.allBlank blank = true)
    (front rest : List Chars) :
    (front ++ blank :: rest).takeWhile (fun line => !Chars.allBlank line) =
      front.takeWhile fun line => !Chars.allBlank line := by
  induction front with
  | nil =>
    rw [List.nil_append, List.takeWhile_cons_of_neg (by rw [isBlank]; decide), List.takeWhile_nil]
  | cons line front ih =>
    rw [List.cons_append, List.takeWhile_cons, List.takeWhile_cons, ih]

section

variable {marker : Chars}

theorem linesOf_cons_marked {line : Chars} (marked : Chars.contains marker line = true)
    (rest : List Chars) :
    linesOf marker (line :: rest) =
      (line :: rest).takeWhile (fun line => !Chars.allBlank line) :: linesOf marker rest := by
  rw [linesOf, if_pos marked]

theorem linesOf_cons_unmarked {line : Chars} (unmarked : Chars.contains marker line = false)
    (rest : List Chars) : linesOf marker (line :: rest) = linesOf marker rest := by
  rw [linesOf, if_neg (ne_true_of_eq_false unmarked)]

/-- Lines without the marker begin no block. -/
theorem linesOf_append_unmarked {lines : List Chars}
    (unmarked : ∀ line ∈ lines, Chars.contains marker line = false) (rest : List Chars) :
    linesOf marker (lines ++ rest) = linesOf marker rest := by
  induction lines with
  | nil => rfl
  | cons line lines ih =>
    obtain ⟨first, later⟩ := List.forall_mem_cons.1 unmarked
    rw [List.cons_append, linesOf_cons_unmarked first, ih later]

/-- A blank line keeps the blocks before it apart from those behind it. -/
theorem linesOf_append_blank {blank : Chars} (isBlank : Chars.allBlank blank = true)
    (unmarked : Chars.contains marker blank = false) (front rest : List Chars) :
    linesOf marker (front ++ blank :: rest) = linesOf marker front ++ linesOf marker rest := by
  induction front with
  | nil => exact linesOf_cons_unmarked unmarked rest
  | cons line front ih =>
    cases marked : Chars.contains marker line with
    | true =>
      have ended := takeWhile_append_blank isBlank (line :: front) rest
      rw [List.cons_append] at ended
      rw [List.cons_append, linesOf_cons_marked marked, linesOf_cons_marked marked, ih, ended,
        List.cons_append]
    | false =>
      rw [List.cons_append, linesOf_cons_unmarked marked, linesOf_cons_unmarked marked, ih]

/-- A marker that is not blank itself stands in no blank line. -/
theorem contains_of_allBlank (visible : ∃ c ∈ marker, Chars.isBlank c = false) {line : Chars}
    (blank : Chars.allBlank line = true) : Chars.contains marker line = false := by
  obtain ⟨c, among, seen⟩ := visible
  rw [← Bool.not_eq_true, Chars.contains_iff]
  intro part
  rw [Chars.allBlank_iff.1 blank c (part.subset among)] at seen
  cases seen

/-- Lines of which the first alone holds the marker are one block, if none is blank. -/
theorem linesOf_single {first : Chars} {others : List Chars}
    (marked : Chars.contains marker first = true)
    (unmarked : ∀ line ∈ others, Chars.contains marker line = false)
    (filled : ∀ line ∈ first :: others, Chars.allBlank line = false) :
    linesOf marker (first :: others) = [first :: others] := by
  have whole : (first :: others).takeWhile (fun line => !Chars.allBlank line) = first :: others :=
    List.takeWhile_eq_self_iff.2 fun line among => by rw [filled line among]; rfl
  have none := linesOf_append_unmarked unmarked []
  rw [List.append_nil] at none
  rw [linesOf_cons_marked marked, whole, none, linesOf]

end

/-! ## What a line says -/

/-- A line is cut at its first colon. -/
theorem pair?_append {key : Chars} (uncut : ':' ∉ key) (value : Chars) :
    pair? (key ++ ':' :: value) =
      some (String.ofList (Chars.trim key), String.ofList (Chars.trim value)) := by
  rw [pair?, Chars.cut_append uncut]
  rfl

/-- Lines that give a value to a key and say no more of the key after that. -/
def Gives (lines : List Chars) (key : String) (value : Chars) : Prop :=
  ∃ early label late, lines = early ++ (label ++ ':' :: value) :: late ∧ ':' ∉ label ∧
    String.ofList (Chars.trim label) = key ∧ ∀ line ∈ late, ∀ pair ∈ pair? line, pair.1 ≠ key

theorem Gives.get?_ofLines {lines : List Chars} {key : String} {value : Chars}
    (gives : Gives lines key value) :
    (ofLines lines).get? key = some (String.ofList (Chars.trim value)) := by
  obtain ⟨early, label, late, rfl, uncut, rfl, silent⟩ := gives
  have none : ((late.filterMap pair?).reverse.lookup (String.ofList (Chars.trim label))) = none := by
    rw [List.lookup_eq_none_iff]
    intro pair among
    obtain ⟨line, later, said⟩ := List.mem_filterMap.1 (List.mem_reverse.1 among)
    exact bne_iff_ne.2 (silent line later pair said).symm
  rw [ofLines, StringMap.get?_ofList, List.filterMap_append,
    List.filterMap_cons_some (pair?_append uncut value), List.reverse_append, List.reverse_cons,
    List.append_assoc, List.lookup_append, none, Option.none_or, List.singleton_append,
    StringMap.lookup_cons_eq_ite, if_pos rfl]

/-! ## Written blocks -/

/-- A line of a written block: a key, a value, and what ends the line. -/
structure Row where
  key : String
  value : String
  ending : Chars.LineBreak

namespace Row

def line (row : Row) : Chars :=
  row.key.toList ++ ':' :: ' ' :: row.value.toList

def text (row : Row) : Chars :=
  row.line ++ row.ending.chars

/-- Whether key and value may stand in one line so that they can be told apart again. -/
structure WellFormed (row : Row) : Prop where
  key_trimmed : Text.trim row.key = row.key
  key_uncut : ':' ∉ row.key.toList
  key_unbroken : '\n' ∉ row.key.toList
  value_trimmed : Text.trim row.value = row.value
  value_unbroken : '\n' ∉ row.value.toList

instance (row : Row) : Decidable row.WellFormed :=
  decidable_of_iff
    (Text.trim row.key = row.key ∧ ':' ∉ row.key.toList ∧ '\n' ∉ row.key.toList ∧
      Text.trim row.value = row.value ∧ '\n' ∉ row.value.toList)
    ⟨fun ⟨a, b, c, d, e⟩ => ⟨a, b, c, d, e⟩, fun ⟨a, b, c, d, e⟩ => ⟨a, b, c, d, e⟩⟩

end Row

/-- Blank lines, at least one of them. -/
structure IsGap (gap : Chars) : Prop where
  blank : Chars.allBlank gap = true
  ends : gap.getLast? = some '\n'

/-- What may stand before the first block: nothing, or a text without the marker and the
blank lines that set it off. -/
def IsFront (marker front : Chars) : Prop :=
  front = [] ∨ ∃ text ending gap, front = text ++ Chars.LineBreak.chars ending ++ gap ∧
    ¬marker <:+: text ∧ IsGap gap

/-- A written block and the blank text behind it. -/
structure Paragraph where
  rows : List Row
  gap : Chars

namespace Paragraph

def text (paragraph : Paragraph) : Chars :=
  paragraph.rows.flatMap Row.text ++ paragraph.gap

/-- Whether a paragraph has rows, a key in each that no other one has, and the marker in
the first row alone. -/
structure WellFormed (marker : Chars) (paragraph : Paragraph) : Prop where
  rows : ∀ row ∈ paragraph.rows, row.WellFormed
  keys : (paragraph.rows.map Row.key).Nodup
  marked : ∃ first others, paragraph.rows = first :: others ∧ marker <:+: first.line ∧
    ∀ row ∈ others, ¬marker <:+: row.line
  blank : Chars.allBlank paragraph.gap = true

end Paragraph

/-- What is written of a text: all of it, or all but the line break behind its last line. -/
def IsWritten (whole text : Chars) : Prop :=
  text = whole ∨ ∃ c ∈ text.getLast?, (c ≠ '\n' ∧ c ≠ '\r') ∧
    ∃ ending : Chars.LineBreak, whole = text ++ ending.chars

theorem IsWritten.lines_eq {whole text : Chars} (written : IsWritten whole text) :
    Chars.lines text = Chars.lines whole := by
  rcases written with rfl | ⟨c, last, open_, ending, rfl⟩
  · rfl
  · exact (Chars.lines_append_break last open_ ending).symm

namespace Row

variable {row : Row}

theorem WellFormed.unbroken (wellFormed : row.WellFormed) : '\n' ∉ row.line := by
  have key := wellFormed.key_unbroken
  have value := wellFormed.value_unbroken
  simp [line, key, value]

theorem WellFormed.pair?_line (wellFormed : row.WellFormed) :
    pair? row.line = some (row.key, row.value) := by
  have space : Chars.allBlank [' '] = true := by decide
  have nothing : Chars.allBlank [] = true := rfl
  have blank := Chars.trim_surrounded space nothing row.value.toList
  rw [List.append_nil, List.singleton_append] at blank
  have key := wellFormed.key_trimmed
  have value := wellFormed.value_trimmed
  rw [Text.trim] at key value
  rw [line, pair?_append wellFormed.key_uncut, blank, key, value]

theorem not_allBlank_line (row : Row) : Chars.allBlank row.line = false := by
  rw [← Bool.not_eq_true, Chars.allBlank_iff]
  intro blank
  exact absurd (blank ':' (by simp [line])) (by decide)

theorem WellFormed.last_ne_return (wellFormed : row.WellFormed) :
    row.line.getLast? ≠ some '\r' := by
  have trimmed : Chars.Trimmed row.value.toList := by
    rw [← Chars.trim_eq_self_iff, ← Text.toList_trim, wellFormed.value_trimmed]
  intro last
  cases value : row.value.toList with
  | nil =>
    rw [line, value, List.getLast?_append_of_ne_nil _ (List.cons_ne_nil _ _)] at last
    exact absurd last (by decide)
  | cons c rest =>
    rw [line, value, List.getLast?_append_of_ne_nil _ (List.cons_ne_nil _ _),
      List.getLast?_cons_cons, List.getLast?_cons_cons] at last
    have visible := trimmed.last '\r' (value ▸ last)
    exact absurd visible (by decide)

theorem WellFormed.lines_text (wellFormed : row.WellFormed) (rest : Chars) :
    Chars.lines (row.text ++ rest) = row.line :: Chars.lines rest := by
  rw [text, Chars.lines_break wellFormed.unbroken,
    row.ending.kept_of_last wellFormed.last_ne_return]

end Row

theorem lines_rows {rows : List Row} (wellFormed : ∀ row ∈ rows, row.WellFormed) (rest : Chars) :
    Chars.lines (rows.flatMap Row.text ++ rest) = rows.map Row.line ++ Chars.lines rest := by
  induction rows with
  | nil => rfl
  | cons row rows ih =>
    obtain ⟨first, later⟩ := List.forall_mem_cons.1 wellFormed
    rw [List.flatMap_cons, List.append_assoc, first.lines_text, ih later]
    rfl

theorem allBlank_of_mem_lines {gap line : Chars} (blank : Chars.allBlank gap = true)
    (among : line ∈ Chars.lines gap) : Chars.allBlank line = true :=
  Chars.allBlank_iff.2 fun c inLine =>
    Chars.allBlank_iff.1 blank c ((Chars.infix_of_mem_lines among).subset inLine)

section

variable {marker : Chars}

/-- Blank lines behind a block change nothing. -/
theorem linesOf_append_blanks (visible : ∃ c ∈ marker, Chars.isBlank c = false)
    {blanks : List Chars} (blank : ∀ line ∈ blanks, Chars.allBlank line = true)
    (lines : List Chars) : linesOf marker (lines ++ blanks) = linesOf marker lines := by
  cases blanks with
  | nil => rw [List.append_nil]
  | cons first blanks =>
    obtain ⟨isBlank, others⟩ := List.forall_mem_cons.1 blank
    have none := linesOf_append_unmarked (fun line among =>
      contains_of_allBlank visible (others line among)) []
    rw [List.append_nil] at none
    rw [linesOf_append_blank isBlank (contains_of_allBlank visible isBlank), none, linesOf,
      List.append_nil]

/-- Blank lines between blocks keep them apart. -/
theorem linesOf_append_gap (visible : ∃ c ∈ marker, Chars.isBlank c = false) {gap : Chars}
    (isGap : IsGap gap) (lines rest : List Chars) :
    linesOf marker (lines ++ Chars.lines gap ++ rest) = linesOf marker lines ++ linesOf marker rest := by
  have blank : ∀ line ∈ Chars.lines gap, Chars.allBlank line = true :=
    fun _ => allBlank_of_mem_lines isGap.blank
  cases found : Chars.lines gap with
  | nil =>
    have nonempty : gap ≠ [] := fun empty => by
      rw [empty] at isGap
      cases isGap.ends
    exact absurd found (Chars.lines_ne_nil nonempty)
  | cons first others =>
    rw [found] at blank
    obtain ⟨isBlank, later⟩ := List.forall_mem_cons.1 blank
    rw [List.append_assoc, List.cons_append,
      linesOf_append_blank isBlank (contains_of_allBlank visible isBlank),
      linesOf_append_unmarked fun line among => contains_of_allBlank visible (later line among)]

namespace Paragraph

variable {paragraph : Paragraph}

theorem WellFormed.linesOf_rows (wellFormed : paragraph.WellFormed marker) :
    linesOf marker (paragraph.rows.map Row.line) = [paragraph.rows.map Row.line] := by
  obtain ⟨first, others, rows, marked, unmarked⟩ := wellFormed.marked
  rw [rows, List.map_cons]
  refine linesOf_single (Chars.contains_iff.2 marked) ?_ ?_
  · rintro line among
    obtain ⟨row, later, rfl⟩ := List.mem_map.1 among
    rw [← Bool.not_eq_true, Chars.contains_iff]
    exact unmarked row later
  · rw [← List.map_cons, ← rows]
    rintro line among
    obtain ⟨row, -, rfl⟩ := List.mem_map.1 among
    exact row.not_allBlank_line

/-- The last paragraph of a text is one block. -/
theorem WellFormed.linesOf_text (visible : ∃ c ∈ marker, Chars.isBlank c = false)
    (wellFormed : paragraph.WellFormed marker) :
    linesOf marker (Chars.lines paragraph.text) = [paragraph.rows.map Row.line] := by
  rw [text, lines_rows wellFormed.rows,
    linesOf_append_blanks visible fun _ => allBlank_of_mem_lines wellFormed.blank,
    wellFormed.linesOf_rows]

/-- A paragraph with a gap behind it is a block in front of those that follow. -/
theorem WellFormed.linesOf_text_append (visible : ∃ c ∈ marker, Chars.isBlank c = false)
    (wellFormed : paragraph.WellFormed marker) (isGap : IsGap paragraph.gap) (rest : Chars) :
    linesOf marker (Chars.lines (paragraph.text ++ rest)) =
      paragraph.rows.map Row.line :: linesOf marker (Chars.lines rest) := by
  rw [text, List.append_assoc, lines_rows wellFormed.rows, Chars.lines_append_of_last isGap.ends,
    ← List.append_assoc, linesOf_append_gap visible isGap, wellFormed.linesOf_rows]
  rfl

end Paragraph

theorem linesOf_paragraphs (visible : ∃ c ∈ marker, Chars.isBlank c = false)
    {paragraphs : List Paragraph} (wellFormed : ∀ paragraph ∈ paragraphs, paragraph.WellFormed marker)
    (gaps : ∀ paragraph ∈ paragraphs.dropLast, IsGap paragraph.gap) :
    linesOf marker (Chars.lines (paragraphs.flatMap Paragraph.text)) =
      paragraphs.map fun paragraph => paragraph.rows.map Row.line := by
  induction paragraphs with
  | nil => rfl
  | cons paragraph paragraphs ih =>
    obtain ⟨first, later⟩ := List.forall_mem_cons.1 wellFormed
    cases paragraphs with
    | nil =>
      rw [List.flatMap_singleton, first.linesOf_text visible]
      rfl
    | cons next paragraphs =>
      rw [List.dropLast_cons_cons] at gaps
      obtain ⟨gap, gaps⟩ := List.forall_mem_cons.1 gaps
      rw [List.flatMap_cons, first.linesOf_text_append visible gap, ih later gaps]
      rfl

/-- What stands before the first block has no part in any. -/
theorem linesOf_front (visible : ∃ c ∈ marker, Chars.isBlank c = false) {front : Chars}
    (isFront : IsFront marker front) (rest : Chars) :
    linesOf marker (Chars.lines (front ++ rest)) = linesOf marker (Chars.lines rest) := by
  rcases isFront with rfl | ⟨text, ending, gap, rfl, unmarked, isGap⟩
  · rfl
  · have ended : (text ++ ending.chars).getLast? = some '\n' := by
      cases ending <;> simp [Chars.LineBreak.chars]
    rw [List.append_assoc, Chars.lines_append_of_last ended,
      Chars.lines_append_of_last isGap.ends, linesOf_append_unmarked fun line among => ?_,
      linesOf_append_unmarked fun line among => ?_]
    · exact contains_of_allBlank visible (allBlank_of_mem_lines isGap.blank among)
    · rw [← Bool.not_eq_true, Chars.contains_iff]
      exact fun part => unmarked (part.trans (Chars.infix_of_mem_lines_break ending among))

end

/-! ## What a written block says -/

theorem get?_ofLines_rows {rows : List Row} (wellFormed : ∀ row ∈ rows, row.WellFormed)
    (distinct : (rows.map Row.key).Nodup) (key value : String) :
    (ofLines (rows.map Row.line)).get? key = some value ↔
      ∃ row ∈ rows, row.key = key ∧ row.value = value := by
  have pairs : (rows.map Row.line).filterMap pair? = rows.map fun row => (row.key, row.value) := by
    rw [List.filterMap_map, ← List.filterMap_eq_map]
    exact List.filterMap_congr fun row among => (wellFormed row among).pair?_line
  have apart : (rows.map fun row => (row.key, row.value)).Pairwise fun left right =>
      right.1 ≠ left.1 := by
    rw [List.pairwise_map]
    exact (List.pairwise_map.1 distinct).imp Ne.symm
  rw [ofLines, pairs, StringMap.get?_ofList,
    StringMap.lookup_eq_some_iff_mem (List.pairwise_reverse.2 apart), List.mem_reverse]
  simp only [List.mem_map, Prod.mk.injEq]

/-- Written blocks are read back: as many as there are paragraphs, in their order, and each
with the values that its rows give to their keys. -/
theorem ofText_written {marker : String} (visible : ∃ c ∈ marker.toList, Chars.isBlank c = false)
    {front : Chars} (isFront : IsFront marker.toList front) {paragraphs : List Paragraph}
    (wellFormed : ∀ paragraph ∈ paragraphs, paragraph.WellFormed marker.toList)
    (gaps : ∀ paragraph ∈ paragraphs.dropLast, IsGap paragraph.gap) {text : String}
    (written : IsWritten (front ++ paragraphs.flatMap Paragraph.text) text.toList) :
    List.Forall₂
      (fun paragraph block => ∀ key value, block.get? key = some value ↔
        ∃ row ∈ paragraph.rows, row.key = key ∧ row.value = value)
      paragraphs (ofText marker text) := by
  have lines := linesOf_paragraphs visible wellFormed gaps
  rw [ofText, linesOfText, written.lines_eq, linesOf_front visible isFront, lines, List.map_map,
    List.forall₂_map_right_iff]
  exact List.forall₂_same.2 fun paragraph among =>
    get?_ofLines_rows (wellFormed paragraph among).rows (wellFormed paragraph among).keys

/-- Two adapters: lines ended in both ways, a value with colons and one that is empty, and a
blank line of a space and a tab between them. -/
def adapters : List Paragraph :=
  [{ rows := [⟨"Adapter ID", "0", .returnFeed⟩, ⟨"PCI Address", "0000:3b:00.0", .feed⟩,
        ⟨"Serial", "", .feed⟩]
     gap := " \t\r\n".toList },
   { rows := [⟨"Adapter ID", "1", .feed⟩], gap := [] }]

/-- The two adapters behind a title, with no line break at the end. -/
theorem ofText_adapters :
    List.Forall₂
      (fun paragraph block => ∀ key value, block.get? key = some value ↔
        ∃ row ∈ paragraph.rows, row.key = key ∧ row.value = value)
      adapters
      (ofText "Adapter" ("Controllers\r\n\nAdapter ID: 0\r\nPCI Address: 0000:3b:00.0\n" ++
        "Serial: \n \t\r\nAdapter ID: 1")) := by
  have rows : ∀ paragraph ∈ adapters, ∀ row ∈ paragraph.rows, row.WellFormed := by
    decide +kernel
  refine ofText_written ⟨'A', by decide, by decide⟩
    (.inr ⟨"Controllers".toList, .returnFeed, ['\n'], rfl, by decide +kernel, by decide, rfl⟩) ?_ ?_
    (.inr ⟨'1', by decide +kernel, by decide, .feed, by decide +kernel⟩)
  · obtain ⟨first, second⟩ := List.forall_mem_cons.1 rows
    refine List.forall_mem_cons.2 ⟨⟨first, ?_, ⟨_, _, rfl, ?_, ?_⟩, ?_⟩,
      List.forall_mem_singleton.2
        ⟨List.forall_mem_singleton.1 second, ?_, ⟨_, _, rfl, ?_, nofun⟩, ?_⟩⟩ <;>
      decide +kernel
  · exact List.forall_mem_singleton.2 ⟨by decide, by decide⟩

end ServerInventory.Block
