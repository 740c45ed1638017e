import ServerInventory.Proofs.Readout.Blocks
import ServerInventory.Proofs.Text.Returns
import ServerInventory.Readout.Listing

/-!
Texts set apart by a blank line. No block reaches over the blank line, so what two texts
say together is what the first says and then what the second says
(`readouts_paragraphs`). The texts may be anything at all; the one trace that the
blank line leaves is that it may take a carriage return off the last line before it, and
nothing that is read out of a block takes notice of that.
-/

namespace ServerInventory

/-- Lists of things that come to the same, one by one, come to the same. -/
theorem map_eq_of_forall₂ {α β γ : Type} {related : α → β → Prop} {f : α → γ} {g : β → γ}
    (same : ∀ a b, related a b → f a = g b) {left : List α} {right : List β}
    (each : List.Forall₂ related left right) : left.map f = right.map g := by
  rw [← List.forall₂_eq_eq_eq, List.forall₂_map_left_iff, List.forall₂_map_right_iff]
  exact each.imp same

namespace Block

/-! ## Lines up to carriage returns -/

/-- What a line says does not depend on a carriage return at its end. -/
theorem pair?_eq {left right : Chars} (alike : Chars.UpToReturn left right) :
    pair? left = pair? right := by
  cases alike with
  | same => rfl
  | returned =>
    rw [pair?, pair?, Chars.cut_append_right (by decide), Option.map_map]
    refine Option.map_congr fun parts _ => ?_
    dsimp only [Function.comp]
    rw [(Chars.UpToReturn.returned parts.2).trim_eq]

/-- Lines that are the same up to one carriage return at the end of each. -/
abbrev AlikeLines : List Chars → List Chars → Prop :=
  List.Forall₂ Chars.UpToReturn

variable {left right : List Chars}

theorem AlikeLines.takeWhile (alike : AlikeLines left right) :
    AlikeLines (left.takeWhile fun line => !Chars.allBlank line)
      (right.takeWhile fun line => !Chars.allBlank line) := by
  induction alike with
  | nil => exact .nil
  | cons here _ ih =>
    rw [List.takeWhile_cons, List.takeWhile_cons, here.allBlank_eq]
    split
    · exact .cons here ih
    · exact .nil

theorem AlikeLines.linesOf {marker : Chars} (unreturned : '\r' ∉ marker)
    (alike : AlikeLines left right) :
    List.Forall₂ AlikeLines (linesOf marker left) (linesOf marker right) := by
  induction alike with
  | nil => exact .nil
  | cons here others ih =>
    rw [Block.linesOf, Block.linesOf, here.contains_eq unreturned]
    split
    · exact .cons (AlikeLines.takeWhile (.cons here others)) ih
    · exact ih

theorem AlikeLines.ofLines_eq (alike : AlikeLines left right) : ofLines left = ofLines right := by
  have pairs : left.filterMap pair? = right.filterMap pair? := by
    induction alike with
    | nil => rfl
    | cons here _ ih => rw [List.filterMap_cons, List.filterMap_cons, pair?_eq here, ih]
  rw [ofLines, ofLines, pairs]

theorem AlikeLines.nic_eq (alike : AlikeLines left right) : Mlxup.nic left = Mlxup.nic right := by
  have columns : left.map Chars.words = right.map Chars.words :=
    map_eq_of_forall₂ (fun _ _ here => here.words_eq) alike
  have versions : Mlxup.versions left = Mlxup.versions right := by
    rw [Mlxup.versions, Mlxup.versions, columns]
  rw [Mlxup.nic, Mlxup.nic, Mlxup.firmware?, Mlxup.firmware?, versions, alike.ofLines_eq]

/-! ## Two texts -/

/-- The lines of the blocks of two texts between which a blank line stands. -/
theorem linesOfText_paragraphs {marker : String} (nonempty : marker ≠ "")
    (unreturned : '\r' ∉ marker.toList) (before after : String) :
    ∃ blocks, linesOfText marker (before ++ "\n\n" ++ after) =
        blocks ++ linesOfText marker after ∧
      List.Forall₂ AlikeLines blocks (linesOfText marker before) := by
  have unmarked : Chars.contains marker.toList [] = false := by
    rw [Chars.contains, List.isEmpty_eq_false_iff]
    exact fun empty => nonempty (String.toList_eq_nil_iff.1 empty)
  have whole : (before ++ "\n\n" ++ after).toList =
      before.toList ++ '\n' :: '\n' :: after.toList := by
    rw [String.toList_append, String.toList_append, List.append_assoc]
    rfl
  have lines : Chars.lines (before ++ "\n\n" ++ after).toList =
      Chars.lines (before.toList ++ ['\n']) ++ [] :: Chars.lines after.toList := by
    rw [whole, Chars.lines_append, Chars.lines.eq_2]
  refine ⟨linesOf marker.toList (Chars.lines (before.toList ++ ['\n'])), ?_, ?_⟩
  · rw [linesOfText, lines, linesOf_append_blank rfl unmarked]
    rfl
  · rcases Chars.lines_append_feed before.toList with alike | more
    · exact AlikeLines.linesOf unreturned alike
    · -- The blank line stands alone, and no block begins there.
      rw [more, linesOf_append_blank rfl unmarked, linesOf, List.append_nil]
      exact List.forall₂_same.2 fun lines _ => List.forall₂_same.2 fun line _ => .same line

/-- What is read out of blocks without notice of a carriage return at the end of a line is
read out of two texts one after the other. -/
theorem map_linesOfText_paragraphs {α : Type} {read : List Chars → α}
    (heedless : ∀ left right, AlikeLines left right → read left = read right)
    {marker : String} (nonempty : marker ≠ "") (unreturned : '\r' ∉ marker.toList)
    (before after : String) :
    (linesOfText marker (before ++ "\n\n" ++ after)).map read =
      (linesOfText marker before).map read ++ (linesOfText marker after).map read := by
  obtain ⟨blocks, lines, alike⟩ := linesOfText_paragraphs nonempty unreturned before after
  rw [lines, List.map_append, map_eq_of_forall₂ heedless alike]

theorem ofText_paragraphs {marker : String} (nonempty : marker ≠ "")
    (unreturned : '\r' ∉ marker.toList) (before after : String) :
    ofText marker (before ++ "\n\n" ++ after) = ofText marker before ++ ofText marker after :=
  map_linesOfText_paragraphs (fun _ _ => AlikeLines.ofLines_eq) nonempty unreturned before after

end Block

/-- What is read out of two texts with a blank line between them is what is read out of the
first, and behind it what is read out of the second: the blocks of any marker that a line can
hold, the controllers and drives of `mvcli`, the drives of `msecli`, and the cards of `mlxup`. -/
theorem readouts_paragraphs (before after : String) :
    (∀ marker : String, marker ≠ "" → '\r' ∉ marker.toList →
      Block.ofText marker (before ++ "\n\n" ++ after) =
        Block.ofText marker before ++ Block.ofText marker after) ∧
    Mvcli.storageControllers (before ++ "\n\n" ++ after) =
      Mvcli.storageControllers before ++ Mvcli.storageControllers after ∧
    Mvcli.drives (before ++ "\n\n" ++ after) = Mvcli.drives before ++ Mvcli.drives after ∧
    Msecli.drives (before ++ "\n\n" ++ after) = Msecli.drives before ++ Msecli.drives after ∧
    Mlxup.nics (before ++ "\n\n" ++ after) = Mlxup.nics before ++ Mlxup.nics after := by
  refine ⟨fun marker nonempty unreturned => ?_, ?_, ?_, ?_, ?_⟩
  · exact Block.ofText_paragraphs nonempty unreturned before after
  · rw [Mvcli.storageControllers, Block.ofText_paragraphs (by decide) (by decide), List.map_append]
    rfl
  · rw [Mvcli.drives, Block.ofText_paragraphs (by decide) (by decide), List.map_append]
    rfl
  · rw [Msecli.drives, Block.ofText_paragraphs (by decide) (by decide), List.map_append]
    rfl
  · exact Block.map_linesOfText_paragraphs (fun _ _ => Block.AlikeLines.nic_eq) (by decide)
      (by decide) before after

/-- A carriage return at the end of the first text and a second text that begins inside a
block make no difference. -/
theorem readouts_paragraphs_adapters :
    "Adapter ID" ≠ "" ∧ '\r' ∉ "Adapter ID".toList ∧
      Block.ofText "Adapter ID" ("Adapter ID: 0\r" ++ "\n\n" ++ "Product: 9230\nAdapter ID: 1") =
        Block.ofText "Adapter ID" "Adapter ID: 0\r" ++
          Block.ofText "Adapter ID" "Product: 9230\nAdapter ID: 1" :=
  ⟨by decide, by decide, (readouts_paragraphs _ _).1 "Adapter ID" (by decide) (by decide)⟩

end ServerInventory
