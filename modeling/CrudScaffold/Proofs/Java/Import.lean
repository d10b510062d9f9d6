import Mathlib.Data.List.DropRight
import CrudScaffold.Proofs.Java.Line

/-!
# Simple names in a Java file

Behind its imports a Java file calls what it imports by simple names, the parts behind the last
dots. A simple name can stand for one type only: two imports of single types that end in the same
simple name are refused, and so is one that ends in the name of the type that the file itself
declares. Imports of a whole package give way to all of these and never clash.

`Code.ImportsApart` says of a text, line by line, that it has no such clash. Of a file of one type
this is seen from what it imports and from the name of its type
(`Code.IsTypeFile.importsApart_render_iff`).
-/

namespace CrudScaffold.Code

/-! ### Reading a text -/

/-- What the line of an import asks for, without its first word and its semicolon. -/
def importedName (line : String) : String :=
  String.ofList (line.toList.drop importWord.length).dropLast

/-- The names of what a text imports, in the order of its lines. -/
def importedNames (text : String) : List String := (importBlock text).map importedName

/-- An import asks for a single type, not for all types of a package. -/
def IsSingle (i : String) : Prop := ¬ ".*".toList <:+ i.toList

/-- Whether an import asks for a single type is seen from its end. -/
instance : DecidablePred IsSingle :=
  fun i => inferInstanceAs (Decidable (¬ ".*".toList <:+ i.toList))

/-- The single types that a text imports. -/
def singleImports (text : String) : List String :=
  ((importBlock text).map importedName).filter fun i => IsSingle i

/-- The part of a full name behind its last dot. -/
def simpleName (i : String) : String := String.ofList (i.toList.rtakeWhile (· ≠ '.'))

/-- What the declaration of a public type begins with. -/
def typeWords : List String := ["public class ", "public interface "]

/-- The name of the public type that a line begins to declare. -/
def declaredName? (line : String) : Option String :=
  (typeWords.find? fun word => word.toList.isPrefixOf line.toList).map fun word =>
    String.ofList ((line.toList.drop word.length).takeWhile (· ≠ ' '))

/-- The name of the first public type that a text declares. -/
def declaredType? (text : String) : Option String := (textLines text).findSome? declaredName?

/-- Different single types that a text imports have different simple names, and none of them is
called like the type that the text declares. -/
structure ImportsApart (text : String) : Prop where
  imports : ∀ i ∈ singleImports text, ∀ j ∈ singleImports text, simpleName i = simpleName j → i = j
  declared : ∀ i ∈ singleImports text, ∀ n ∈ declaredType? text, simpleName i ≠ n

/-! ### Names -/

variable {text name package : String} {rest : List String}

/-- The simple name of a type is its name in its package. -/
lemma simpleName_append {n : String} (package : String) (hn : '.' ∉ n.toList) :
    simpleName (package ++ "." ++ n) = n := by
  have hall : ∀ c ∈ n.toList.reverse, decide (c ≠ '.') = true := by
    intro c hc
    refine decide_eq_true fun hdot => hn ?_
    exact hdot ▸ List.mem_reverse.mp hc
  have hlist : (package ++ "." ++ n).toList.reverse =
      n.toList.reverse ++ '.' :: package.toList.reverse := by simp
  rw [simpleName, List.rtakeWhile, hlist, List.takeWhile_append_of_pos hall, List.takeWhile_cons]
  simp

/-- The simple name of a given name is found among its characters. -/
lemma simpleName_ofList (cs : List Char) :
    simpleName (String.ofList cs) = String.ofList (cs.rtakeWhile (· ≠ '.')) := by
  rw [simpleName, String.toList_ofList]

/-- A line says what it imports. -/
lemma importedName_importLine (i : String) : importedName s!"import {i};" = i := by
  have hlist : (s!"import {i};").toList = importWord.toList ++ (i.toList ++ [';']) := by
    change ("import " ++ i ++ ";").toList = _
    simp [importWord]
  rw [importedName, hlist, ← String.length_toList, List.drop_left, List.dropLast_concat,
    String.ofList_toList]

/-- A line that does not begin like a public declaration declares nothing. -/
lemma declaredName?_eq_none (h : ¬ "pu".toList <+: text.toList) : declaredName? text = none := by
  have hwords : ∀ word ∈ typeWords, "pu".toList <+: word.toList := by decide
  rw [declaredName?, Option.map_eq_none_iff, List.find?_eq_none]
  intro word hword hprefix
  exact h ((hwords word hword).trans (List.isPrefixOf_iff_prefix.mp hprefix))

/-- The line of a public declaration says what it declares. -/
lemma declaredName?_eq_some {word : String} (hword : word ∈ typeWords) (hname : ' ' ∉ name.toList)
    (h : (word ++ name ++ " ").toList <+: text.toList) : declaredName? text = some name := by
  obtain ⟨tail, htail⟩ := h
  have hlist : text.toList = word.toList ++ (name.toList ++ ' ' :: tail) := by
    rw [← htail]
    simp
  have hfind : typeWords.find? (fun w => w.toList.isPrefixOf text.toList) = some word := by
    have hfound : word.toList <+: text.toList := hlist ▸ List.prefix_append _ _
    rcases List.mem_pair.mp hword with rfl | rfl
    · exact List.find?_cons_of_pos (List.isPrefixOf_iff_prefix.mpr hfound)
    · -- the one word is no beginning of the other
      have hother : ¬ "public class ".toList.isPrefixOf text.toList := by
        intro hclass
        have hshort := List.prefix_of_prefix_length_le (List.isPrefixOf_iff_prefix.mp hclass) hfound
          (by decide)
        exact absurd hshort (by decide)
      rw [typeWords, List.find?_cons_of_neg (by exact hother)]
      exact List.find?_cons_of_pos (List.isPrefixOf_iff_prefix.mpr hfound)
  have hall : ∀ c ∈ name.toList, decide (c ≠ ' ') = true := by
    intro c hc
    exact decide_eq_true fun hspace => hname (hspace ▸ hc)
  rw [declaredName?, hfind, Option.map_some, hlist, ← String.length_toList, List.drop_left,
    List.takeWhile_append_of_pos hall, List.takeWhile_cons]
  simp

/-! ### Files of one type -/

/-- The first line of a text begins with what the first written line begins with. -/
lemma exists_textLines_cons {word cs : List Char} (htext : text.toList = word ++ cs)
    (h : '\n' ∉ word) (rest : List String) :
    ∃ l ls, textLines (textOf (text :: rest)) = l :: ls ∧ word <+: l.toList := by
  obtain ⟨d, ds, hd⟩ := List.exists_cons_of_ne_nil
    (List.splitOn_ne_nil '\n' (cs ++ '\n' :: (textOf rest).toList))
  have hsplit := splitOn_append_of_notMem h (cs ++ '\n' :: (textOf rest).toList)
  rw [hd, List.modifyHead_cons] at hsplit
  refine ⟨String.ofList (word ++ d), ds.map String.ofList, ?_, ?_⟩
  · rw [textLines, toList_textOf_cons, htext, List.append_assoc]
    exact congrArg (List.map String.ofList) hsplit
  · rw [String.toList_ofList]
    exact List.prefix_append word d

/-- A line that is written under others which declare nothing is the first declaration. -/
lemma declaredType?_textOf {before : List String} {word : String} {cs : List Char}
    (hbefore : ∀ l ∈ before, '\n' ∉ l.toList ∧ ¬ "pu".toList <+: l.toList)
    (hword : word ∈ typeWords)
    (hname : ∀ c ∈ name.toList, c ≠ ' ' ∧ c ≠ '\n')
    (htext : text.toList = (word ++ name ++ " ").toList ++ cs) :
    declaredType? (textOf (before ++ text :: rest)) = some name := by
  have hspace : ' ' ∉ name.toList := fun h => (hname _ h).1 rfl
  have hnoEnd : '\n' ∉ (word ++ name ++ " ").toList := by
    have hend : '\n' ∉ name.toList := fun h => (hname _ h).2 rfl
    have hno : ∀ w ∈ typeWords, '\n' ∉ w.toList := by decide
    simp [hno word hword, hend]
  have hnone : before.findSome? declaredName? = none :=
    List.findSome?_eq_none_iff.mpr fun l hl => declaredName?_eq_none (hbefore l hl).2
  obtain ⟨l, ls, hl, hprefix⟩ := exists_textLines_cons htext hnoEnd rest
  rw [declaredType?, textLines_textOf_append fun l hl => (hbefore l hl).1, hl,
    List.findSome?_append, hnone, List.findSome?_cons, declaredName?_eq_some hword hspace hprefix]
  rfl

namespace IsTypeFile

variable {code : List Code} {imports : List String} (h : IsTypeFile code package imports name)
  (hlines : ∀ a, line a ∈ code → '\n' ∉ a.toList)

include h hlines

/-- If the lines of a Java file are lines, its package and its imports are written on one line. -/
lemma lineEnd_notMem :
    (∀ l ∈ linesOf 0 (preamble package imports), '\n' ∉ l.toList) ∧ '\n' ∉ package.toList ∧
      ∀ i ∈ imports, '\n' ∉ i.toList := by
  obtain ⟨annotations, header, body, rfl, -, -⟩ := h
  have hhead : ∀ l ∈ linesOf 0 (preamble package imports), '\n' ∉ l.toList :=
    fun l hl => hlines l (List.mem_append_left _ (line_mem_preamble.mpr hl))
  refine ⟨hhead, ?_, fun i hi => ?_⟩
  · have hpackage := hhead _ (mem_linesOf_preamble.mpr (.inl rfl))
    change '\n' ∉ ("package " ++ package ++ ";").toList at hpackage
    simpa using hpackage
  · have himport := hhead _ (mem_linesOf_preamble.mpr (.inr (.inr ⟨i, hi, rfl⟩)))
    change '\n' ∉ ("import " ++ i ++ ";").toList at himport
    simpa using himport

/-- A Java file imports its imports in order. -/
lemma importedNames_render : importedNames (render code) = sortedNames imports := by
  obtain ⟨-, hpackage, himports⟩ := h.lineEnd_notMem hlines
  rw [importedNames, h.importBlock_render hpackage himports, List.map_map]
  exact (List.map_congr_left fun i _ => importedName_importLine i).trans (List.map_id _)

/-- The types that a Java file imports are those among its imports that are single types. -/
lemma mem_singleImports {i : String} :
    i ∈ singleImports (render code) ↔ i ∈ imports ∧ IsSingle i := by
  have hnames : (importBlock (render code)).map importedName = sortedNames imports :=
    h.importedNames_render hlines
  rw [singleImports, hnames, List.mem_filter, mem_sortedNames, decide_eq_true_iff]

/-- The type that a Java file declares is the one that it is named after. -/
lemma declaredType?_render (hname : ∀ c ∈ name.toList, c ≠ ' ' ∧ c ≠ '\n') :
    declaredType? (render code) = some name := by
  obtain ⟨hhead, -, -⟩ := h.lineEnd_notMem hlines
  obtain ⟨annotations, header, body, rfl, hannotations, word, hword, rest, hheader⟩ := h
  have hpreamble : ∀ l ∈ linesOf 0 (preamble package imports), ¬ "pu".toList <+: l.toList := by
    intro l hl
    rcases mem_linesOf_preamble.mp hl with rfl | rfl | ⟨i, -, rfl⟩
    · change ¬ "pu".toList <+: ("package " ++ package ++ ";").toList
      simp
    · decide
    · change ¬ "pu".toList <+: ("import " ++ i ++ ";").toList
      simp
  have hmarked : ∀ a ∈ annotations, '\n' ∉ a.toList ∧ ¬ "pu".toList <+: a.toList := by
    intro a ha
    obtain ⟨cs, hcs⟩ := hannotations a ha
    refine ⟨hlines a ?_, ?_⟩
    · exact List.mem_append_right _ (List.mem_append_left _ (List.mem_map_of_mem ha))
    · rw [hcs]
      simp
  have hannotationLines : linesOf 0 (annotations.map line) = annotations := by
    rw [linesOf_map_line, List.map_congr_left fun a _ => indented_zero a, List.map_id']
  rw [render_eq, linesOf_append, linesOf_append, hannotationLines, braces, linesOf, lines,
    indented_zero, List.cons_append, ← List.append_assoc]
  have hall : ∀ l ∈ linesOf 0 (preamble package imports) ++ annotations,
      '\n' ∉ l.toList ∧ ¬ "pu".toList <+: l.toList :=
    List.forall_mem_append.mpr ⟨fun l hl => ⟨hhead l hl, hpreamble l hl⟩, hmarked⟩
  have htext : (header ++ " \x7b").toList = (word ++ name ++ " ").toList ++ rest.toList := by
    rw [hheader, String.toList_append]
  exact declaredType?_textOf hall hword hname htext

/-- Whether the imports of a Java file clash is seen from the names in it: from its imports and from
the type that it declares. -/
lemma importsApart_render_iff (hname : ∀ c ∈ name.toList, c ≠ ' ' ∧ c ≠ '\n') :
    ImportsApart (render code) ↔
      (∀ i ∈ imports, ∀ j ∈ imports, IsSingle i → IsSingle j →
        simpleName i = simpleName j → i = j) ∧
        ∀ i ∈ imports, IsSingle i → simpleName i ≠ name := by
  have hmem : ∀ i, i ∈ singleImports (render code) ↔ i ∈ imports ∧ IsSingle i :=
    fun i => h.mem_singleImports hlines
  have hdeclared := h.declaredType?_render hlines hname
  constructor
  · intro happart
    refine ⟨fun i hi j hj hsi hsj => ?_, fun i hi hsi => ?_⟩
    · exact happart.imports i ((hmem i).mpr ⟨hi, hsi⟩) j ((hmem j).mpr ⟨hj, hsj⟩)
    · exact happart.declared i ((hmem i).mpr ⟨hi, hsi⟩) name hdeclared
  · rintro ⟨himports, htype⟩
    refine ⟨fun i hi j hj => ?_, fun i hi n hn => ?_⟩
    · obtain ⟨hi, hsi⟩ := (hmem i).mp hi
      obtain ⟨hj, hsj⟩ := (hmem j).mp hj
      exact himports i hi j hj hsi hsj
    · obtain ⟨hi, hsi⟩ := (hmem i).mp hi
      rw [hdeclared] at hn
      exact Option.some.inj hn ▸ htype i hi hsi

end IsTypeFile

end CrudScaffold.Code
