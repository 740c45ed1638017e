import ServerInventory.Proofs.Text.Lines
import ServerInventory.Proofs.Text.Trimming

/-!
Carriage returns at the ends of lines. A line feed behind a text may take a carriage return
off its last line (`Chars.lines_append_feed`). That goes unnoticed wherever a line is only
searched for a marker, trimmed, cut at a character or taken apart into words.
-/

namespace ServerInventory.Chars

/-- One line with or without a carriage return more at its end. -/
inductive UpToReturn : Chars → Chars → Prop
  | same (line : Chars) : UpToReturn line line
  | returned (line : Chars) : UpToReturn line (line ++ ['\r'])

theorem upToReturn_dropReturn (line : Chars) : UpToReturn (dropReturn line) line := by
  rw [dropReturn]
  split
  · next last =>
    obtain ⟨front, rfl⟩ := List.getLast?_eq_some_iff.1 last
    rw [List.dropLast_concat]
    exact .returned front
  · exact .same line

theorem LineBreak.upToReturn_kept (ending : LineBreak) (line : Chars) :
    UpToReturn (ending.kept line) line := by
  cases ending with
  | feed => exact upToReturn_dropReturn line
  | returnFeed => exact .same line

/-- A line feed behind a text may take a carriage return off its last line; behind a text
without an open line it makes a line of its own. -/
theorem lines_append_feed (text : Chars) :
    List.Forall₂ UpToReturn (lines (text ++ ['\n'])) (lines text) ∨
      lines (text ++ ['\n']) = lines text ++ [[]] := by
  induction text using lineInduction with
  | unbroken line none =>
    rcases eq_or_ne line [] with rfl | nonempty
    · exact .inr rfl
    · rw [lines_feed none, lines_unbroken none nonempty]
      exact .inl (.cons (upToReturn_dropReturn line) .nil)
  | feed line rest none ih =>
    rw [List.append_assoc, List.cons_append, lines_feed none, lines_feed none]
    rcases ih with alike | more
    · exact .inl (.cons (.same _) alike)
    · rw [more]
      exact .inr rfl

/-! ## What is done to a line -/

theorem cut_append_right {mark : Char} {more : Chars} (absent : mark ∉ more) (text : Chars) :
    cut mark (text ++ more) = (cut mark text).map fun parts => (parts.1, parts.2 ++ more) := by
  induction text with
  | nil =>
    rw [List.nil_append, cut, Option.map_none, Option.eq_none_iff_forall_ne_some]
    rintro ⟨before, after⟩ found
    exact absent (eq_of_cut_eq_some found ▸ List.mem_append_right before List.mem_cons_self)
  | cons c text ih =>
    by_cases same : c = mark
    · subst same
      rw [List.cons_append, cut_cons_self, cut_cons_self]
      rfl
    · rw [List.cons_append, cut_cons_ne same, cut_cons_ne same, ih, Option.map_map, Option.map_map]
      rfl

theorem words_cons (c : Char) (rest : Chars) :
    words (c :: rest) =
      if isBlank c then words rest
      else match rest with
        | [] => [[c]]
        | next :: _ => if isBlank next then [c] :: words rest else pushFront c (words rest) :=
  words.eq_def (c :: rest)

/-- A blank at the end of a text belongs to no word. -/
theorem words_append_blank {c : Char} (blank : isBlank c = true) (text : Chars) :
    words (text ++ [c]) = words text := by
  have alone : words [c] = [] := by rw [words_cons, if_pos blank, words]
  induction text with
  | nil => exact alone
  | cons first text ih =>
    rw [List.cons_append, words_cons, words_cons, ih]
    cases text with
    | nil =>
      dsimp only [List.nil_append]
      rw [if_pos blank, words]
    | cons next text => rfl

namespace UpToReturn

variable {left right : Chars}

theorem contains_eq {marker : Chars} (unreturned : '\r' ∉ marker) (alike : UpToReturn left right) :
    contains marker left = contains marker right := by
  cases alike with
  | same => rfl
  | returned =>
    rw [Bool.eq_iff_iff, contains_iff, contains_iff, List.infix_concat_iff]
    refine ⟨.inr, fun part => part.elim (fun ending => ?_) id⟩
    rcases List.suffix_concat_iff.1 ending with rfl | ⟨front, rfl, -⟩
    · exact List.nil_infix
    · exact absurd (List.mem_append_right front (List.mem_singleton_self '\r')) unreturned

theorem allBlank_eq (alike : UpToReturn left right) : allBlank left = allBlank right := by
  cases alike with
  | same => rfl
  | returned =>
    have blank : [ '\r' ].all isBlank = true := by decide
    rw [allBlank, allBlank, List.all_append, blank, Bool.and_true]

theorem trim_eq (alike : UpToReturn left right) : trim left = trim right := by
  cases alike with
  | same => rfl
  | returned => exact (trim_surrounded (rfl : allBlank [] = true) (by decide) left).symm

theorem words_eq (alike : UpToReturn left right) : words left = words right := by
  cases alike with
  | same => rfl
  | returned => exact (words_append_blank (by decide) left).symm

end UpToReturn

end ServerInventory.Chars
