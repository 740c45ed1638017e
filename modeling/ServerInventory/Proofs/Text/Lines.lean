import Mathlib
import ServerInventory.Text.Lines

/-!
A text taken apart into its lines. A line is what stands before a line feed, less one
carriage return at its end; lines can be read off the beginning of a text (`lines_feed`),
and a text that ends with a line feed keeps its lines to itself (`lines_append`).
-/

namespace ServerInventory.Chars

/-! ## Stretches and cuts -/

theorem contains_iff {part text : Chars} : contains part text = true ↔ part <:+: text := by
  induction text with
  | nil => rw [contains, List.isEmpty_iff, List.infix_nil]
  | cons c rest ih =>
    rw [contains, Bool.or_eq_true, List.isPrefixOf_iff_prefix, ih, List.infix_cons_iff]

theorem cut_append {mark : Char} {before : Chars} (absent : mark ∉ before) (after : Chars) :
    cut mark (before ++ mark :: after) = some (before, after) := by
  induction before with
  | nil => exact cut_cons_self mark after
  | cons c before ih =>
    rw [List.mem_cons, not_or] at absent
    rw [List.cons_append, cut_cons_ne (Ne.symm absent.1), ih absent.2]
    rfl

theorem stripStart?_eq_some_iff {part text rest : Chars} :
    stripStart? part text = some rest ↔ text = part ++ rest := by
  rw [stripStart?, Option.ite_none_right_eq_some, List.isPrefixOf_iff_prefix]
  constructor
  · rintro ⟨⟨after, rfl⟩, same⟩
    rw [List.drop_left] at same
    rw [Option.some.inj same]
  · rintro rfl
    exact ⟨List.prefix_append part rest, congrArg some List.drop_left⟩

theorem stripEnd?_eq_some_iff {part text rest : Chars} :
    stripEnd? part text = some rest ↔ text = rest ++ part := by
  simp only [stripEnd?, Option.map_eq_some_iff, stripStart?_eq_some_iff]
  constructor
  · rintro ⟨backwards, same, rfl⟩
    rw [← List.reverse_reverse text, same, List.reverse_append, List.reverse_reverse]
  · rintro rfl
    exact ⟨rest.reverse, List.reverse_append, List.reverse_reverse rest⟩

/-- A part that does not come again is taken away once. -/
theorem stripAllStart_append {part rest : Chars} (other : ¬ part <+: rest) (bound : Nat) :
    stripAllStart part (bound + 1) (part ++ rest) = rest := by
  have kept : stripStart? part rest = none :=
    if_neg fun again => other (List.isPrefixOf_iff_prefix.1 again)
  rw [stripAllStart, stripStart?_eq_some_iff.2 rfl]
  cases bound with
  | zero => rfl
  | succ bound =>
    dsimp only
    rw [stripAllStart, kept]

/-! ## Lines -/

/-- A text without one carriage return at its end. -/
def dropReturn (text : Chars) : Chars :=
  if text.getLast? = some '\r' then text.dropLast else text

theorem dropReturn_append_return (text : Chars) : dropReturn (text ++ ['\r']) = text := by
  rw [dropReturn, if_pos List.getLast?_concat, List.dropLast_concat]

theorem dropReturn_of_last {text : Chars} (last : text.getLast? ≠ some '\r') :
    dropReturn text = text :=
  if_neg last

theorem dropReturn_cons_cons (c d : Char) (rest : Chars) :
    dropReturn (c :: d :: rest) = c :: dropReturn (d :: rest) := by
  rw [dropReturn, dropReturn, List.getLast?_cons_cons, List.dropLast_cons_cons]
  split <;> rfl

theorem dropReturn_prefix_of (text : Chars) : dropReturn text <+: text := by
  rw [dropReturn]
  split
  · exact List.dropLast_prefix text
  · exact List.prefix_refl text

/-- The first line of a text, and the lines of what stands behind it. -/
theorem lines_feed {line : Chars} (unbroken : '\n' ∉ line) (rest : Chars) :
    lines (line ++ '\n' :: rest) = dropReturn line :: lines rest := by
  induction line with
  | nil => exact lines.eq_2 rest
  | cons c line ih =>
    rw [List.mem_cons, not_or] at unbroken
    have other : c = '\n' → False := fun feed => unbroken.1 feed.symm
    cases line with
    | nil =>
      by_cases return_ : c = '\r'
      · subst return_
        exact lines.eq_3 rest
      · have last : [c].getLast? ≠ some '\r' := fun same => return_ (Option.some.inj same)
        rw [List.cons_append, lines.eq_4 c _ other fun _ same => absurd same return_,
          List.nil_append, lines.eq_2, dropReturn_of_last last]
        rfl
    | cons d line =>
      have apart : ∀ more, c = '\r' → d :: line ++ '\n' :: rest = '\n' :: more → False :=
        fun _ _ same => unbroken.2 (List.mem_cons.2 (.inl (List.cons.inj same).1.symm))
      rw [List.cons_append, lines.eq_4 c _ other apart, ih unbroken.2, dropReturn_cons_cons]
      rfl

theorem lines_unbroken {line : Chars} (unbroken : '\n' ∉ line) (nonempty : line ≠ []) :
    lines line = [line] := by
  induction line with
  | nil => exact absurd rfl nonempty
  | cons c line ih =>
    rw [List.mem_cons, not_or] at unbroken
    have apart : ∀ more, c = '\r' → line = '\n' :: more → False :=
      fun _ _ same => unbroken.2 (same ▸ List.mem_cons_self)
    rw [lines.eq_4 c line (fun feed => unbroken.1 feed.symm) apart]
    cases line with
    | nil => rfl
    | cons d line =>
      rw [ih unbroken.2 (List.cons_ne_nil d line)]
      rfl

/-- What ends a line. -/
inductive LineBreak where
  | feed
  | returnFeed

namespace LineBreak

def chars : LineBreak → Chars
  | feed => ['\n']
  | returnFeed => ['\r', '\n']

/-- What a line break leaves of the text before it: a carriage return there counts as a
part of the break. -/
def kept : LineBreak → Chars → Chars
  | feed, line => dropReturn line
  | returnFeed, line => line

theorem kept_prefix_of (ending : LineBreak) (line : Chars) : ending.kept line <+: line := by
  cases ending with
  | feed => exact dropReturn_prefix_of line
  | returnFeed => exact List.prefix_refl line

theorem kept_of_last (ending : LineBreak) {line : Chars} (last : line.getLast? ≠ some '\r') :
    ending.kept line = line := by
  cases ending with
  | feed => exact dropReturn_of_last last
  | returnFeed => rfl

end LineBreak

/-- The first line of a text, whichever way it is ended. -/
theorem lines_break {line : Chars} (unbroken : '\n' ∉ line) (ending : LineBreak) (rest : Chars) :
    lines (line ++ ending.chars ++ rest) = ending.kept line :: lines rest := by
  rw [List.append_assoc]
  cases ending with
  | feed => exact lines_feed unbroken rest
  | returnFeed =>
    have returned : '\n' ∉ line ++ ['\r'] := by
      rw [List.mem_append, not_or]
      exact ⟨unbroken, by decide⟩
    have split : line ++ (LineBreak.returnFeed.chars ++ rest) = line ++ ['\r'] ++ '\n' :: rest := by
      rw [List.append_assoc]
      rfl
    rw [split, lines_feed returned, dropReturn_append_return]
    rfl

/-- Induction along the lines of a text. -/
@[elab_as_elim]
theorem lineInduction {motive : Chars → Prop} (unbroken : ∀ line, '\n' ∉ line → motive line)
    (feed : ∀ line rest, '\n' ∉ line → motive rest → motive (line ++ '\n' :: rest))
    (text : Chars) : motive text := by
  by_cases broken : '\n' ∈ text
  · obtain ⟨line, rest, rfl, none⟩ := List.eq_append_cons_of_mem broken
    exact feed line rest none (lineInduction unbroken feed rest)
  · exact unbroken text broken
termination_by text.length
decreasing_by
  subst_vars
  rw [List.length_append, List.length_cons]
  omega

theorem lines_ne_nil {text : Chars} (nonempty : text ≠ []) : lines text ≠ [] := by
  induction text using lineInduction with
  | unbroken line none =>
    rw [lines_unbroken none nonempty]
    exact List.cons_ne_nil _ _
  | feed line rest none _ =>
    rw [lines_feed none]
    exact List.cons_ne_nil _ _

/-- A text that ends with a line feed shares no line with the text behind it. -/
theorem lines_append (text rest : Chars) :
    lines (text ++ '\n' :: rest) = lines (text ++ ['\n']) ++ lines rest := by
  induction text using lineInduction with
  | unbroken line none =>
    rw [lines_feed none, lines_feed none]
    rfl
  | feed line more none ih =>
    rw [List.append_assoc, List.append_assoc, List.cons_append, List.cons_append,
      lines_feed none, lines_feed none, ih]
    rfl

theorem lines_append_of_last {text : Chars} (last : text.getLast? = some '\n') (rest : Chars) :
    lines (text ++ rest) = lines text ++ lines rest := by
  obtain ⟨front, rfl⟩ := List.getLast?_eq_some_iff.1 last
  rw [List.append_assoc, List.singleton_append, lines_append]

/-- The line break at the end of a text adds no line to it. -/
theorem lines_append_break {text : Chars} {c : Char} (last : text.getLast? = some c)
    (open_ : c ≠ '\n' ∧ c ≠ '\r') (ending : LineBreak) :
    lines (text ++ ending.chars) = lines text := by
  induction text using lineInduction with
  | unbroken line none =>
    have nonempty : line ≠ [] := fun empty => by
      rw [empty] at last
      cases last
    have kept := ending.kept_of_last fun same => open_.2 (Option.some.inj (last.symm.trans same))
    have single := lines_break none ending []
    rw [List.append_nil, kept, lines_nil] at single
    rw [single, lines_unbroken none nonempty]
  | feed line rest none ih =>
    cases rest with
    | nil =>
      rw [List.getLast?_concat] at last
      exact absurd (Option.some.inj last).symm open_.1
    | cons d rest =>
      rw [List.getLast?_append_of_ne_nil _ (List.cons_ne_nil _ _), List.getLast?_cons_cons] at last
      rw [List.append_assoc, List.cons_append, lines_feed none, lines_feed none, ih last]

/-- Behind a line feed stand the lines of another text, so its stretches will do. -/
theorem infix_of_mem_lines_feed {first text rest line : Chars} (none : '\n' ∉ first)
    (later : line ∈ lines text → line <:+: rest) (among : line ∈ lines (first ++ '\n' :: text)) :
    line <:+: first ++ '\n' :: rest := by
  rw [lines_feed none] at among
  rcases List.mem_cons.1 among with rfl | behind
  · exact ((dropReturn_prefix_of first).trans (List.prefix_append first _)).isInfix
  · exact (later behind).trans
      ((List.suffix_cons '\n' rest).trans (List.suffix_append first _)).isInfix

/-- Every line is a stretch of the text. -/
theorem infix_of_mem_lines {text line : Chars} (among : line ∈ lines text) : line <:+: text := by
  induction text using lineInduction with
  | unbroken whole none =>
    rcases eq_or_ne whole [] with rfl | nonempty
    · cases among
    · rw [lines_unbroken none nonempty, List.mem_singleton] at among
      exact among ▸ List.infix_rfl
  | feed first rest none ih => exact infix_of_mem_lines_feed none ih among

/-- A text begins with its first line. -/
theorem prefix_of_mem_head?_lines {text line : Chars} (first : line ∈ (lines text).head?) :
    line <+: text := by
  induction text using lineInduction with
  | unbroken whole none =>
    rcases eq_or_ne whole [] with rfl | nonempty
    · cases first
    · rw [lines_unbroken none nonempty] at first
      cases first
      exact List.prefix_refl _
  | feed whole rest none _ =>
    rw [lines_feed none] at first
    cases first
    exact (dropReturn_prefix_of whole).trans (List.prefix_append whole _)

/-- A line break adds no line that was not in the text before it. -/
theorem infix_of_mem_lines_break {text line : Chars} (ending : LineBreak)
    (among : line ∈ lines (text ++ ending.chars)) : line <:+: text := by
  induction text using lineInduction with
  | unbroken whole none =>
    have single := lines_break none ending []
    rw [List.append_nil] at single
    rw [single, lines_nil, List.mem_singleton] at among
    exact among ▸ (ending.kept_prefix_of whole).isInfix
  | feed first rest none ih =>
    rw [List.append_assoc, List.cons_append] at among
    exact infix_of_mem_lines_feed none ih among

end ServerInventory.Chars
