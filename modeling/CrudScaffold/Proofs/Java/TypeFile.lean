import CrudScaffold.Proofs.Java.Source
import CrudScaffold.Proofs.List

/-!
# Files of one type

A Java file names its package on the first line, lists its imports behind a blank one, and declares
one public type. `Code.IsTypeFile` says this of the code of a file. Of its text the same is read
line by line: `Code.textLines` cuts a text where its lines end, whatever it was made from, so a name
that has a line end in it would show here as two lines.
-/

namespace CrudScaffold.Code

/-! ### Reading a text -/

/-- The lines of a text. -/
def textLines (text : String) : List String := (text.toList.splitOn '\n').map String.ofList

/-- What the line of an import begins with. -/
def importWord : String := "import "

/-- The lines with imports that a Java file lists below its package and a blank line. -/
def importBlock (text : String) : List String :=
  ((textLines text).drop 2).takeWhile fun line => importWord.toList.isPrefixOf line.toList

/-- A line of a text declares a public class or a public interface of a name. -/
def DeclaresType (text name : String) : Prop :=
  ∃ line ∈ textLines text,
    ("public class " ++ name ++ " ").toList <+: line.toList ∨
      ("public interface " ++ name ++ " ").toList <+: line.toList

/-! ### Lines of written text -/

variable {text name package : String} {rest : List String}

@[simp] lemma toList_textOf_cons (text : String) (rest : List String) :
    (textOf (text :: rest)).toList = text.toList ++ '\n' :: (textOf rest).toList := by
  simp [textOf]

@[simp] lemma toList_textOf_append (a b : List String) :
    (textOf (a ++ b)).toList = (textOf a).toList ++ (textOf b).toList := by
  simp [textOf]

/-- A line that has no line end in it is the first line of its text. -/
lemma textLines_textOf_cons (h : '\n' ∉ text.toList) (rest : List String) :
    textLines (textOf (text :: rest)) = text :: textLines (textOf rest) := by
  rw [textLines, toList_textOf_cons, List.splitOn_append_cons_self, List.splitOn_eq_singleton h,
    List.singleton_append, List.map_cons, String.ofList_toList, textLines]

/-- The lines of written texts are the lines of each of them, and nothing is behind the last line
end. -/
lemma textLines_textOf (texts : List String) :
    textLines (textOf texts) = texts.flatMap textLines ++ [""] := by
  induction texts with
  | nil => rfl
  | cons text texts ih =>
    rw [textLines, toList_textOf_cons, List.splitOn_append_cons_self, List.map_append,
      List.flatMap_cons, List.append_assoc, ← ih, textLines, textLines]

/-- Lines that have no line end in them are the first lines of their text. -/
lemma textLines_textOf_append {lines : List String} (h : ∀ l ∈ lines, '\n' ∉ l.toList)
    (rest : List String) :
    textLines (textOf (lines ++ rest)) = lines ++ textLines (textOf rest) := by
  induction lines with
  | nil => rfl
  | cons l lines ih =>
    rw [List.cons_append, textLines_textOf_cons (h l List.mem_cons_self),
      ih fun l' hl' => h l' (List.mem_cons_of_mem l hl'), List.cons_append]

/-- What a written line begins with is at the beginning of a line of the text. -/
lemma exists_textLine {lines : List String} {word : String} {cs : List Char} (htext : text ∈ lines)
    (hword : text.toList = word.toList ++ cs) (h : '\n' ∉ word.toList) :
    ∃ l ∈ textLines (textOf lines), word.toList <+: l.toList := by
  induction lines with
  | nil => exact absurd htext List.not_mem_nil
  | cons first lines ih =>
    have hsplit : textLines (textOf (first :: lines)) =
        (first.toList.splitOn '\n').map String.ofList ++ textLines (textOf lines) := by
      rw [textLines, toList_textOf_cons, List.splitOn_append_cons_self, List.map_append, textLines]
    rcases List.mem_cons.mp htext with rfl | htext
    · obtain ⟨d, ds, hd⟩ := List.exists_cons_of_ne_nil (List.splitOn_ne_nil '\n' cs)
      have hfirst : text.toList.splitOn '\n' = (word.toList ++ d) :: ds := by
        rw [hword, splitOn_append_of_notMem h, hd]
        rfl
      refine ⟨String.ofList (word.toList ++ d), ?_, ?_⟩
      · rw [hsplit, hfirst]
        exact List.mem_append_left _ List.mem_cons_self
      · rw [String.toList_ofList]
        exact List.prefix_append _ _
    · obtain ⟨l, hl, hprefix⟩ := ih htext
      exact ⟨l, hsplit ▸ List.mem_append_right _ hl, hprefix⟩

/-- The first line of a text begins like the first line that was written. -/
lemma exists_textLines_eq {c : Char} {cs : List Char} (htext : text.toList = c :: cs)
    (hc : c ≠ '\n') : ∃ l ls, textLines (textOf (text :: rest)) = l :: ls ∧
      l.toList.head? = some c := by
  obtain ⟨d, ds, hd⟩ := List.exists_cons_of_ne_nil
    (List.splitOn_ne_nil '\n' (cs ++ '\n' :: (textOf rest).toList))
  have hnotMem : '\n' ∉ [c] := fun h => hc (List.mem_singleton.mp h).symm
  have hsplit := splitOn_append_of_notMem hnotMem (cs ++ '\n' :: (textOf rest).toList)
  rw [hd, List.modifyHead_cons] at hsplit
  refine ⟨String.ofList ([c] ++ d), ds.map String.ofList, ?_, by simp⟩
  rw [textLines, toList_textOf_cons, htext]
  exact congrArg (List.map String.ofList) hsplit

/-! ### The import block -/

/-- A name has been put in, and the others are still there. -/
lemma mem_insertName {n m : String} {names : List String} :
    n ∈ insertName m names ↔ n = m ∨ n ∈ names := by
  induction names with
  | nil => simp [insertName]
  | cons k names ih =>
    rw [insertName]
    split_ifs with hlt heq
    · exact List.mem_cons
    · subst heq
      simp
    · rw [List.mem_cons, ih, List.mem_cons]
      exact or_left_comm

/-- Sorting keeps all names. -/
lemma mem_sortedNames {n : String} {names : List String} : n ∈ sortedNames names ↔ n ∈ names := by
  induction names with
  | nil => exact Iff.rfl
  | cons m names ih =>
    change n ∈ insertName m (sortedNames names) ↔ n ∈ m :: names
    rw [mem_insertName, ih, List.mem_cons]

/-- A name that is put in its place keeps the others in order and is not repeated. -/
lemma pairwise_insertName {n : String} {names : List String} (h : names.Pairwise (· < ·)) :
    (insertName n names).Pairwise (· < ·) := by
  induction names with
  | nil => exact List.pairwise_singleton _ n
  | cons m names ih =>
    obtain ⟨hm, hnames⟩ := List.pairwise_cons.mp h
    rw [insertName]
    split_ifs with hlt heq
    · have hall : ∀ k ∈ m :: names, n < k :=
        List.forall_mem_cons.mpr ⟨hlt, fun k hk => String.lt_trans hlt (hm k hk)⟩
      exact List.pairwise_cons.mpr ⟨hall, h⟩
    · exact h
    · refine List.pairwise_cons.mpr ⟨fun k hk => ?_, ih hnames⟩
      rcases mem_insertName.mp hk with rfl | hk
      · exact Std.lt_of_le_of_ne (String.not_lt.mp hlt) (Ne.symm heq)
      · exact hm k hk

/-- Sorted names are in order and not repeated. -/
lemma pairwise_sortedNames (names : List String) : (sortedNames names).Pairwise (· < ·) := by
  induction names with
  | nil => exact .nil
  | cons n names ih => exact pairwise_insertName ih

@[simp] lemma indented_zero (text : String) : indented 0 text = text := by
  rw [indented]
  split_ifs with h
  · exact (String.isEmpty_iff.mp h).symm
  · refine String.toList_injective ?_
    simp

/-- The lines of the head of a Java file. -/
lemma linesOf_preamble (package : String) (imports : List String) :
    linesOf 0 (preamble package imports) =
      s!"package {package};" ::
        ((if (sortedNames imports).isEmpty then []
          else "" :: (sortedNames imports).map fun i => s!"import {i};") ++ [""]) := by
  have hlines : ∀ names : List String,
      linesOf 0 (names.map fun i => line s!"import {i};") = names.map fun i => s!"import {i};" := by
    intro names
    have hmap := linesOf_map_line 0 (names.map fun i => s!"import {i};")
    rw [List.map_map, List.map_map] at hmap
    simpa only [Function.comp_def, indented_zero] using hmap
  rw [preamble]
  simp only [linesOf_append]
  split_ifs with hempty
  · simp [linesOf, lines, blank, indented_zero]
  · simp [linesOf, lines, blank, indented_zero, hlines]

/-- The line of a package has no more line ends than the package. -/
lemma lineEnd_notMem_packageLine (h : '\n' ∉ package.toList) :
    '\n' ∉ (s!"package {package};").toList := by
  change '\n' ∉ ("package " ++ package ++ ";").toList
  simp [h]

/-- The line of an import has no more line ends than the name in it. -/
lemma lineEnd_notMem_importLine {i : String} (h : '\n' ∉ i.toList) :
    '\n' ∉ (s!"import {i};").toList := by
  change '\n' ∉ ("import " ++ i ++ ";").toList
  simp [h]

/-- The line of an import begins like one. -/
lemma isPrefixOf_importLine (i : String) :
    importWord.toList.isPrefixOf (s!"import {i};").toList := by
  rw [List.isPrefixOf_iff_prefix]
  change importWord.toList <+: (importWord ++ i ++ ";").toList
  rw [String.toList_append, String.toList_append, List.append_assoc]
  exact List.prefix_append _ _

/-- The imports of a Java file are read as they are written. -/
lemma importBlock_textOf {imports : List String} (hpackage : '\n' ∉ package.toList)
    (himports : ∀ i ∈ imports, '\n' ∉ i.toList) {c : Char} {cs : List Char}
    (htext : text.toList = c :: cs) (hc : c ≠ '\n') (hi : c ≠ 'i') :
    importBlock (textOf (linesOf 0 (preamble package imports) ++ text :: rest)) =
      (sortedNames imports).map fun i => s!"import {i};" := by
  have himport : ∀ l ∈ (sortedNames imports).map fun i => s!"import {i};", '\n' ∉ l.toList := by
    intro l hl
    obtain ⟨i, hi, rfl⟩ := List.mem_map.mp hl
    exact lineEnd_notMem_importLine (himports i (mem_sortedNames.mp hi))
  have hblank : '\n' ∉ ("" : String).toList := List.not_mem_nil
  rw [importBlock, linesOf_preamble, List.cons_append,
    textLines_textOf_cons (lineEnd_notMem_packageLine hpackage)]
  split_ifs with hempty
  · -- no line is listed, and the next one is not an import
    obtain ⟨l, ls, hl, hfirst⟩ : ∃ l ls, textLines (textOf (text :: rest)) = l :: ls ∧ _ :=
      exists_textLines_eq htext hc
    have hno : importWord.toList.isPrefixOf l.toList = false := by
      rw [Bool.eq_false_iff]
      intro hprefix
      obtain ⟨t, ht⟩ := List.isPrefixOf_iff_prefix.mp hprefix
      rw [← ht] at hfirst
      exact hi (Option.some.inj hfirst).symm
    rw [List.nil_append, List.singleton_append, textLines_textOf_cons hblank, hl,
      List.isEmpty_iff.mp hempty]
    simp [hno]
  · rw [List.cons_append, List.cons_append, textLines_textOf_cons hblank, List.append_assoc,
      textLines_textOf_append himport, List.singleton_append, textLines_textOf_cons hblank,
      List.drop_succ_cons, List.drop_succ_cons, List.drop_zero, List.takeWhile_append_of_pos,
      List.takeWhile_cons]
    · simp [importWord]
    · intro l hl
      obtain ⟨i, -, rfl⟩ := List.mem_map.mp hl
      exact isPrefixOf_importLine i

/-! ### Files of one type -/

/-- The code of a Java file with its package and imports, which declares a public type of a name
under some annotations. -/
def IsTypeFile (code : List Code) (package : String) (imports : List String) (name : String) :
    Prop :=
  ∃ (annotations : List String) (header : String) (body : List Code),
    code = preamble package imports ++ (annotations.map line ++ [braces header body]) ∧
      (∀ a ∈ annotations, ∃ cs, a.toList = '@' :: cs) ∧
      ∃ word ∈ ["public class ", "public interface "], ∃ rest,
        header ++ " \x7b" = word ++ name ++ " " ++ rest

/-- A class under annotations makes up a Java file. -/
lemma isTypeFile_class {annotations : List String} {header : String} (package : String)
    (imports : List String) (body : List Code) (h : ∀ a ∈ annotations, ∃ cs, a.toList = '@' :: cs)
    (hheader : header = "public class " ++ name) :
    IsTypeFile (preamble package imports ++ (annotations.map line ++ [braces header body])) package
      imports name := by
  refine ⟨annotations, header, body, rfl, h, "public class ", List.mem_cons_self, "\x7b", ?_⟩
  have hbrace : " \x7b" = " " ++ "\x7b" := rfl
  rw [hheader, hbrace, String.append_assoc, String.append_assoc, String.append_assoc]

namespace IsTypeFile

variable {code : List Code} {imports : List String} (h : IsTypeFile code package imports name)

include h

/-- A Java file begins with its package. -/
lemma head?_textLines (hpackage : '\n' ∉ package.toList) :
    (textLines (render code)).head? = some s!"package {package};" := by
  obtain ⟨annotations, header, body, rfl, -, -⟩ := h
  rw [render_eq, linesOf_append, linesOf_preamble, List.cons_append,
    textLines_textOf_cons (lineEnd_notMem_packageLine hpackage), List.head?_cons]

/-- A Java file declares its type. -/
lemma declaresType (hname : '\n' ∉ name.toList) : DeclaresType (render code) name := by
  obtain ⟨annotations, header, body, rfl, -, word, hword, rest, hheader⟩ := h
  have hline : header ++ " \x7b" ∈
      linesOf 0 (preamble package imports ++ (annotations.map line ++ [braces header body])) := by
    rw [linesOf_append, linesOf_append, braces, linesOf, lines, indented_zero]
    simp
  have hnoEnd : '\n' ∉ (word ++ name ++ " ").toList := by
    have hno : '\n' ∉ word.toList := by
      rcases List.mem_pair.mp hword with rfl | rfl <;> decide
    simp [hno, hname]
  have hlist : (header ++ " \x7b").toList = (word ++ name ++ " ").toList ++ rest.toList := by
    rw [hheader, String.toList_append]
  obtain ⟨l, hl, hprefix⟩ := exists_textLine hline hlist hnoEnd
  rw [render_eq]
  rcases List.mem_pair.mp hword with rfl | rfl
  · exact ⟨l, hl, .inl hprefix⟩
  · exact ⟨l, hl, .inr hprefix⟩

/-- The import block of a Java file holds its imports in order. -/
lemma importBlock_render (hpackage : '\n' ∉ package.toList)
    (himports : ∀ i ∈ imports, '\n' ∉ i.toList) :
    importBlock (render code) = (sortedNames imports).map fun i => s!"import {i};" := by
  obtain ⟨annotations, header, body, rfl, hannotations, word, hword, rest, hheader⟩ := h
  rw [render_eq, linesOf_append]
  cases annotations with
  | nil =>
    obtain ⟨cs, hcs⟩ : ∃ cs, (header ++ " \x7b").toList = 'p' :: cs := by
      rw [hheader]
      rcases List.mem_pair.mp hword with rfl | rfl <;> exact ⟨_, by simp; rfl⟩
    rw [List.map_nil, List.nil_append, braces, linesOf, lines, List.cons_append, List.cons_append,
      indented_zero]
    exact importBlock_textOf hpackage himports hcs (by decide) (by decide)
  | cons a annotations =>
    obtain ⟨cs, hcs⟩ := hannotations a List.mem_cons_self
    rw [List.map_cons, List.cons_append, linesOf, lines, List.singleton_append, indented_zero]
    exact importBlock_textOf hpackage himports hcs (by decide) (by decide)

end IsTypeFile

end CrudScaffold.Code
