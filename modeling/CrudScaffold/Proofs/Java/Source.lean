import Mathlib.Tactic.Lemma
import CrudScaffold.Java.Source

/-!
# Lines of source text

The text of a source file is the text of its lines, and the lines of a list of code are those of its
parts one after the other. So lines that stand together in the code of a file stand together in its
text, which is what `Code.Shows` says of a text: nothing is before, between or behind them but whole
lines.
-/

namespace CrudScaffold.Code

/-- The text of some lines, with a line end behind each. -/
def textOf (lines : List String) : String := String.join (lines.map (· ++ "\n"))

/-- Some lines stand one below the other in a text, at a level. -/
def Shows (text : String) (level : Nat) (block : List String) : Prop :=
  ∃ before after, text = textOf (before ++ block.map (indented level) ++ after)

/-- The text of a file is that of its lines. -/
lemma render_eq (code : List Code) : render code = textOf (linesOf 0 code) := rfl

@[simp] lemma linesOf_append (level : Nat) (a b : List Code) :
    linesOf level (a ++ b) = linesOf level a ++ linesOf level b := by
  induction a with
  | nil => rfl
  | cons c a ih => rw [List.cons_append, linesOf, linesOf, ih, List.append_assoc]

/-- Code that is put together block by block is written block by block. -/
lemma linesOf_flatMap {α : Type} (level : Nat) (code : α → List Code) (l : List α) :
    linesOf level (l.flatMap code) = l.flatMap fun a => linesOf level (code a) := by
  induction l with
  | nil => rfl
  | cons a l ih => rw [List.flatMap_cons, linesOf_append, ih, List.flatMap_cons]

/-- Lines are written as they are, at their level. -/
lemma linesOf_map_line (level : Nat) (block : List String) :
    linesOf level (block.map line) = block.map (indented level) := by
  induction block with
  | nil => rfl
  | cons text block ih =>
    rw [List.map_cons, linesOf, ih, lines, List.map_cons, List.singleton_append]

/-- A list of code is written between what comes before and what comes behind it. -/
lemma exists_linesOf_append (level : Nat) {code part : List Code} (h : part <:+: code) :
    ∃ before after, linesOf level code = before ++ linesOf level part ++ after := by
  obtain ⟨before, after, rfl⟩ := h
  exact ⟨linesOf level before, linesOf level after, by rw [linesOf_append, linesOf_append]⟩

/-- Lines in the body of the last block of a file stand together in its text, one level deeper. -/
lemma shows_of_infix_body {head : List Code} {opening closing : String} {body : List Code}
    {block : List String} (h : block.map line <:+: body) :
    Shows (render (head ++ [.block opening body closing])) 1 block := by
  obtain ⟨before, after, hlines⟩ := exists_linesOf_append 1 h
  rw [linesOf_map_line] at hlines
  refine ⟨linesOf 0 head ++ (indented 0 opening :: before), after ++ [indented 0 closing], ?_⟩
  rw [render_eq, linesOf_append, linesOf, linesOf, lines, Nat.zero_add, hlines]
  simp

end CrudScaffold.Code
