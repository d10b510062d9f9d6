import Mathlib.Data.List.TakeWhile
import CrudScaffold.Proofs.Java.TypeFile

/-!
# Lines of a Java file without their indentation

What a line of a Java file says does not depend on how deep it stands. `Code.codeLines` reads the
lines of a text and leaves out the blanks that they begin with. If no piece of some code has a line
end in it, these are the pieces one after the other, whatever blocks they are in
(`Code.codeLines_render`). Two more ways to read a line are used where several files have to agree:
`Code.headers` finds the lines that open a type or a method, and `Code.wordsBehind` the words that
stand behind a mark.
-/

namespace CrudScaffold

@[simp] lemma toString_text (t : String) : toString t = t := rfl

namespace Code

/-! ### Reading lines -/

/-- A line without the blanks that it begins with. -/
def trimmed (line : String) : String := String.ofList (line.toList.dropWhile (· = ' '))

/-- The lines of a text without the blanks that they begin with. -/
def codeLines (text : String) : List String := (textLines text).map trimmed

/-- A line begins like the declaration of a type, a method or a field. -/
def beginsMember (line : String) : Bool :=
  ["public ", "private "].any fun word => word.toList.isPrefixOf line.toList

/-- What a line says that opens a type or a method, without the brace behind it. -/
def header? (line : String) : Option String :=
  if beginsMember line && line.toList.getLast? == some '\x7b' then
    some (String.ofList line.toList.dropLast.dropLast)
  else none

/-- The headers of the types and methods in a text. -/
def headers (text : String) : List String := (codeLines text).filterMap header?

/-- The first word of a text, behind the blanks that it may begin with. -/
def firstWord (text : List Char) : String :=
  String.ofList ((text.dropWhile (· = ' ')).takeWhile (· ≠ ' '))

/-- The words that stand behind a mark, one for every place where it stands. -/
def wordsBehind (mark : List Char) : List Char → List String
  | [] => []
  | c :: cs =>
    if mark.isPrefixOf (c :: cs) then
      firstWord ((c :: cs).drop mark.length) :: wordsBehind mark cs
    else wordsBehind mark cs

/-- The words that stand behind an annotation in a line. -/
def wordsAt (marker line : String) : List String :=
  wordsBehind ('@' :: marker.toList) line.toList

/-- The words that stand behind an annotation in the lines of a text. -/
def annotated (marker text : String) : List String :=
  (codeLines text).flatMap (wordsAt marker)

/-! ### Pieces of code -/

mutual

/-- The texts that a piece of code is made of, without regard to its blocks. -/
def texts : Code → List String
  | line text => [text]
  | block opening body closing => opening :: textsOf body ++ [closing]

/-- The texts that a list of code is made of. -/
def textsOf : List Code → List String
  | [] => []
  | c :: cs => texts c ++ textsOf cs

end

variable {text package : String} {code : List Code}

@[simp] lemma textsOf_append (a b : List Code) : textsOf (a ++ b) = textsOf a ++ textsOf b := by
  induction a with
  | nil => rfl
  | cons c a ih => rw [List.cons_append, textsOf, textsOf, ih, List.append_assoc]

/-- The texts of code that is put together block by block are those of the blocks. -/
lemma textsOf_flatMap {α : Type} (f : α → List Code) (l : List α) :
    textsOf (l.flatMap f) = l.flatMap fun a => textsOf (f a) := by
  induction l with
  | nil => rfl
  | cons a l ih => rw [List.flatMap_cons, textsOf_append, ih, List.flatMap_cons]

/-- The texts of lines are these lines. -/
lemma textsOf_map_line (block : List String) : textsOf (block.map line) = block := by
  induction block with
  | nil => rfl
  | cons text block ih => rw [List.map_cons, textsOf, ih, texts, List.singleton_append]

mutual

/-- What does not depend on indentation is the same for a written line and for its text. -/
theorem map_lines {α : Type*} {f : String → α} (hf : ∀ level text, f (indented level text) = f text)
    (level : Nat) : ∀ c : Code, (lines level c).map f = (texts c).map f
  | line text => by rw [lines, texts, List.map_singleton, List.map_singleton, hf]
  | block opening body closing => by
    simp only [lines, texts, List.map_append, List.map_cons, List.map_nil, hf,
      map_linesOf hf (level + 1) body]

/-- It is the same for the lines of a list of code. -/
theorem map_linesOf {α : Type*} {f : String → α}
    (hf : ∀ level text, f (indented level text) = f text) (level : Nat) :
    ∀ code : List Code, (linesOf level code).map f = (textsOf code).map f
  | [] => rfl
  | c :: cs => by
    rw [linesOf, textsOf, List.map_append, List.map_append, map_lines hf level c,
      map_linesOf hf level cs]

end

/-- A character is in a text if it is in what was written, line ends and indentation apart. -/
lemma mem_render_iff {c : Char} (hend : c ≠ '\n') (hblank : c ≠ ' ') (code : List Code) :
    c ∈ (render code).toList ↔ ∃ t ∈ textsOf code, c ∈ t.toList := by
  have htext : ∀ lines : List String,
      c ∈ (textOf lines).toList ↔ ∃ l ∈ lines, c ∈ l.toList := by
    intro lines
    induction lines with
    | nil => simp [textOf]
    | cons l lines ih => simp [toList_textOf_cons, ih, hend]
  have hindented : ∀ (level : Nat) (text : String),
      decide (c ∈ (indented level text).toList) = decide (c ∈ text.toList) := by
    intro level text
    rw [indented]
    split_ifs with hempty
    · rw [String.isEmpty_iff.mp hempty]
    · simp [hblank]
  have hmap : (linesOf 0 code).map (fun l => decide (c ∈ l.toList)) =
      (textsOf code).map fun t => decide (c ∈ t.toList) := map_linesOf hindented 0 code
  have hlines := congrArg (true ∈ ·) hmap
  simp only [List.mem_map, decide_eq_true_iff] at hlines
  rw [render_eq, htext, hlines]

/-- Indentation makes no difference to the lines of a text, the first of which it is before. -/
lemma codeLines_indented (level : Nat) (text : String) :
    codeLines (indented level text) = codeLines text := by
  rw [indented]
  split_ifs with hempty
  · rw [String.isEmpty_iff.mp hempty]
  · have hblanks : '\n' ∉ List.replicate (4 * level) ' ' := by simp
    have htrimmed : ∀ first : List Char,
        trimmed (String.ofList (List.replicate (4 * level) ' ' ++ first)) =
          trimmed (String.ofList first) := by
      intro first
      have hall : ∀ c ∈ List.replicate (4 * level) ' ', decide (c = ' ') = true :=
        fun c hc => decide_eq_true (List.eq_of_mem_replicate hc)
      rw [trimmed, trimmed, String.toList_ofList, String.toList_ofList,
        List.dropWhile_append_of_pos hall]
    obtain ⟨first, others, hlines⟩ := List.exists_cons_of_ne_nil
      (List.splitOn_ne_nil '\n' text.toList)
    rw [codeLines, codeLines, textLines, textLines, String.toList_append, String.toList_ofList,
      splitOn_append_of_notMem hblanks, hlines, List.modifyHead_cons, List.map_cons, List.map_cons,
      List.map_cons, List.map_cons, htrimmed]

/-- The lines of a file are the lines of its texts, whatever these are. -/
lemma codeLines_render_eq_flatMap (code : List Code) :
    codeLines (render code) = (textsOf code).flatMap codeLines ++ [""] := by
  have hlines : (linesOf 0 code).flatMap codeLines = (textsOf code).flatMap codeLines := by
    rw [List.flatMap, List.flatMap, map_linesOf codeLines_indented]
  rw [render_eq, codeLines, textLines_textOf, List.map_append, List.map_flatMap, ← hlines]
  rfl

/-- A text that does not begin with a blank is left as it is. -/
lemma trimmed_eq_self (h : text.toList.head? ≠ some ' ') : trimmed text = text := by
  have hdrop : text.toList.dropWhile (· = ' ') = text.toList := by
    cases htext : text.toList with
    | nil => rfl
    | cons c cs =>
      rw [htext, List.head?_cons] at h
      have hc : ¬ decide (c = ' ') = true :=
        fun hblank => h (congrArg some (of_decide_eq_true hblank))
      exact List.dropWhile_cons_of_neg hc
  rw [trimmed, hdrop, String.ofList_toList]

/-- A text without a line end is one line. -/
lemma codeLines_eq_singleton (h : '\n' ∉ text.toList) : codeLines text = [trimmed text] := by
  rw [codeLines, textLines, List.splitOn_eq_singleton h, List.map_singleton, List.map_singleton,
    String.ofList_toList]

/-- The lines of a text are the texts of its code if these have no line end in them. -/
lemma codeLines_render (h : ∀ t ∈ textsOf code, '\n' ∉ t.toList) :
    codeLines (render code) = (textsOf code).map trimmed ++ [""] := by
  rw [codeLines_render_eq_flatMap, List.flatMap_congr fun t ht => codeLines_eq_singleton (h t ht)]
  exact congrArg (· ++ [""]) List.map_eq_flatMap.symm

/-- A text that is one line without indentation. -/
structure IsFlush (text : String) : Prop where
  oneLine : '\n' ∉ text.toList
  flush : text.toList.head? ≠ some ' '

/-- Texts that are lines without indentation are read as they are. -/
lemma flatMap_codeLines {texts : List String} (h : ∀ t ∈ texts, IsFlush t) :
    texts.flatMap codeLines = texts := by
  have hlines : ∀ t ∈ texts, codeLines t = [t] := by
    intro t ht
    rw [codeLines_eq_singleton (h t ht).oneLine, trimmed_eq_self (h t ht).flush]
  rw [List.flatMap_congr hlines]
  exact List.flatMap_singleton' texts

/-- The texts of a part of some code stand together among its texts. -/
lemma textsOf_isInfix {part code : List Code} (h : part <:+: code) :
    textsOf part <:+: textsOf code := by
  obtain ⟨before, after, rfl⟩ := h
  exact ⟨textsOf before, textsOf after, by rw [textsOf_append, textsOf_append]⟩

/-- Code in the body of an annotated type is read line by line. -/
lemma infix_codeLines_of_infix_body {head part body : List Code}
    {marker opening closing : String}
    (hlines : ∀ t ∈ textsOf (head ++ [line marker, block opening body closing]),
      '\n' ∉ t.toList)
    (h : part <:+: body) :
    (textsOf part).map trimmed <:+:
      codeLines (render (head ++ [line marker, block opening body closing])) := by
  have hbody : textsOf body <:+:
      textsOf (head ++ [line marker, block opening body closing]) := by
    refine ⟨textsOf head ++ [marker, opening], [closing], ?_⟩
    rw [textsOf_append, textsOf, textsOf, textsOf, texts, texts]
    simp
  rw [codeLines_render hlines]
  exact (((textsOf_isInfix h).trans hbody).map trimmed).trans (List.prefix_append _ _).isInfix

/-! ### The head of a file -/

/-- The head of a Java file is made of lines only. -/
lemma preamble_eq_map_line (package : String) (imports : List String) :
    preamble package imports = (linesOf 0 (preamble package imports)).map line := by
  rw [linesOf_preamble, preamble]
  split_ifs with hempty
  · simp [blank]
  · simp [blank, Function.comp_def]

/-- Its texts are its lines. -/
lemma textsOf_preamble (package : String) (imports : List String) :
    textsOf (preamble package imports) = linesOf 0 (preamble package imports) := by
  have htexts := congrArg textsOf (preamble_eq_map_line package imports)
  rwa [textsOf_map_line] at htexts

/-- Its pieces are its lines. -/
lemma line_mem_preamble {imports : List String} :
    line text ∈ preamble package imports ↔ text ∈ linesOf 0 (preamble package imports) := by
  constructor
  · intro h
    rw [preamble_eq_map_line] at h
    obtain ⟨l, hl, he⟩ := List.mem_map.mp h
    cases he
    exact hl
  · intro h
    rw [preamble_eq_map_line]
    exact List.mem_map_of_mem h

/-- The head of a Java file has the line of the package, those of the imports and blank lines. -/
lemma mem_linesOf_preamble {imports : List String} {l : String} :
    l ∈ linesOf 0 (preamble package imports) ↔
      l = s!"package {package};" ∨ l = "" ∨ ∃ i ∈ imports, l = s!"import {i};" := by
  have hline : ∀ names : List String,
      (∃ i ∈ names, s!"import {i};" = l) ↔ ∃ i ∈ names, l = s!"import {i};" :=
    fun names => exists_congr fun i => and_congr_right fun _ => eq_comm
  rw [linesOf_preamble]
  split_ifs with hempty
  · have hnone : imports = [] := by
      refine List.eq_nil_iff_forall_not_mem.mpr fun i hi => ?_
      rw [← mem_sortedNames, List.isEmpty_iff.mp hempty] at hi
      exact absurd hi List.not_mem_nil
    simp [hnone]
  · simp only [List.mem_cons, List.mem_append, List.mem_map, List.not_mem_nil, or_false, hline,
      mem_sortedNames]
    exact or_congr_right ⟨fun h => h.elim id .inl, .inl⟩

/-- The head of a Java file has no more of a character than its package and its imports have. -/
lemma notMem_preamble {imports : List String} {c : Char}
    (hwords : ∀ w ∈ ["package ", "import ", ";"], c ∉ w.toList) (hpackage : c ∉ package.toList)
    (himports : ∀ i ∈ imports, c ∉ i.toList) :
    ∀ l ∈ linesOf 0 (preamble package imports), c ∉ l.toList := by
  have hline : ∀ word ∈ ["package ", "import "], ∀ name : String, c ∉ name.toList →
      c ∉ (word ++ name ++ ";").toList := by
    intro word hword name hname
    have hfirst := hwords word (List.mem_append_left [";"] hword)
    have hlast := hwords ";" (by decide)
    simp only [String.toList_append, List.mem_append, not_or]
    exact ⟨⟨hfirst, hname⟩, hlast⟩
  intro l hl
  rcases mem_linesOf_preamble.mp hl with rfl | rfl | ⟨i, hi, rfl⟩
  · exact hline "package " (by decide) package hpackage
  · exact List.not_mem_nil
  · exact hline "import " (by decide) i (himports i hi)

/-! ### Headers -/

section Headers

variable {header : String}

/-- The headers of the types and methods in some code. -/
def codeHeaders (code : List Code) : List String :=
  ((textsOf code).map trimmed).filterMap header?

/-- The headers in a text are those in its code. -/
lemma headers_render (h : ∀ t ∈ textsOf code, '\n' ∉ t.toList) :
    headers (render code) = codeHeaders code := by
  have hempty : [""].filterMap header? = [] := rfl
  rw [headers, codeLines_render h, List.filterMap_append, hempty, List.append_nil, codeHeaders]

@[simp] lemma codeHeaders_append (a b : List Code) :
    codeHeaders (a ++ b) = codeHeaders a ++ codeHeaders b := by
  rw [codeHeaders, textsOf_append, List.map_append, List.filterMap_append, codeHeaders, codeHeaders]

/-- A text ends like the last part that it is put together from. -/
lemma getLast?_append_ne (a : String) {b : String}
    (hb : b.toList.getLast?.any fun c => c ≠ '\x7b') : (a ++ b).toList.getLast? ≠ some '\x7b' := by
  rw [String.toList_append, List.getLast?_append]
  cases hlast : b.toList.getLast? with
  | none => simp [hlast] at hb
  | some c =>
    rw [hlast] at hb
    simpa using hb

/-- A text that does not end in a brace is no header. -/
lemma header?_eq_none_of_getLast? (h : text.toList.getLast? ≠ some '\x7b') :
    header? text = none := by
  simp [header?, h]

/-- A text that does not begin with a letter that declarations begin with is no header. -/
lemma header?_eq_none_of_head? (h : text.toList.head? ≠ some 'p') : header? text = none := by
  have hbegins : beginsMember text = false := by
    refine List.any_eq_false.mpr fun word hword hprefix => h ?_
    obtain ⟨tail, htail⟩ := List.isPrefixOf_iff_prefix.mp hprefix
    rw [← htail]
    rcases List.mem_pair.mp hword with rfl | rfl <;> simp
  simp [header?, hbegins]

/-- A text that does not end in a brace is no header without its indentation either. -/
lemma header?_trimmed_eq_none (h : text.toList.getLast? ≠ some '\x7b') :
    header? (trimmed text) = none := by
  refine header?_eq_none_of_getLast? fun hlast => h ?_
  obtain ⟨blanks, hblanks⟩ := List.dropWhile_suffix (p := (· = ' ')) (l := text.toList)
  rw [trimmed, String.toList_ofList] at hlast
  rw [← hblanks, List.getLast?_append, hlast]
  rfl

/-- Lines that do not end in a brace are no headers. -/
lemma codeHeaders_cons_line (h : text.toList.getLast? ≠ some '\x7b') (code : List Code) :
    codeHeaders (line text :: code) = codeHeaders code := by
  rw [codeHeaders, textsOf, texts, List.singleton_append, List.map_cons,
    List.filterMap_cons_none (header?_trimmed_eq_none h), codeHeaders]

/-- The head of a file has no headers. -/
lemma codeHeaders_preamble (package : String) (imports : List String) :
    codeHeaders (preamble package imports) = [] := by
  rw [codeHeaders, textsOf_preamble, List.filterMap_eq_nil_iff]
  intro l hl
  obtain ⟨t, ht, rfl⟩ := List.mem_map.mp hl
  refine header?_trimmed_eq_none ?_
  rcases mem_linesOf_preamble.mp ht with rfl | rfl | ⟨i, -, rfl⟩
  · exact getLast?_append_ne _ (by decide)
  · decide
  · exact getLast?_append_ne _ (by decide)

/-- What begins like a declaration begins with its first word, whatever stands behind it. -/
lemma beginsMember_append (h : beginsMember text) (rest : String) :
    beginsMember (text ++ rest) ∧ trimmed (text ++ rest) = text ++ rest := by
  obtain ⟨word, hword, hprefix⟩ := List.any_eq_true.mp h
  have hlong : word.toList <+: (text ++ rest).toList := by
    rw [String.toList_append]
    exact (List.isPrefixOf_iff_prefix.mp hprefix).trans (List.prefix_append _ _)
  refine ⟨List.any_eq_true.mpr ⟨word, hword, List.isPrefixOf_iff_prefix.mpr hlong⟩,
    trimmed_eq_self ?_⟩
  obtain ⟨tail, htail⟩ := hlong
  rw [← htail]
  rcases List.mem_pair.mp hword with rfl | rfl <;> simp

/-- What begins like a declaration is a header if a brace stands behind it. -/
lemma header?_append_brace (h : beginsMember header) :
    header? (header ++ " \x7b") = some header := by
  have hbegins := (beginsMember_append h " \x7b").1
  have hlist : (header ++ " \x7b").toList = header.toList ++ [' ', '\x7b'] := by simp
  rw [header?, hbegins, hlist]
  simp

/-- A declaration in braces is a header, and there may be others in its body. -/
lemma codeHeaders_cons_braces (h : beginsMember header) (body code : List Code) :
    codeHeaders (braces header body :: code) =
      header :: (codeHeaders body ++ codeHeaders code) := by
  have hopens : header? (trimmed (header ++ " \x7b")) = some header := by
    rw [(beginsMember_append h " \x7b").2, header?_append_brace h]
  have hcloses : [trimmed "\x7d"].filterMap header? = [] := rfl
  rw [codeHeaders, braces, textsOf, texts, List.cons_append, List.cons_append, List.map_cons,
    List.filterMap_cons_some hopens, List.map_append, List.map_append, List.map_singleton,
    List.filterMap_append, List.filterMap_append, hcloses, List.append_nil, codeHeaders,
    codeHeaders]

end Headers

/-! ### Annotations -/

section Annotations

variable {marker before word : String}

/-- Before the first mark there is nothing to find. -/
lemma wordsBehind_append (mark : List Char) {a : List Char} {c : Char} (h : c ∉ a) (b : List Char) :
    wordsBehind (c :: mark) (a ++ b) = wordsBehind (c :: mark) b := by
  induction a with
  | nil => rfl
  | cons d a ih =>
    obtain ⟨hd, ha⟩ := not_or.mp (List.mem_cons.not.mp h)
    have hno : (c :: mark).isPrefixOf (d :: (a ++ b)) = false := by
      simp [List.isPrefixOf, hd]
    rw [List.cons_append, wordsBehind, hno]
    exact ih ha

/-- The first word of a text is what stands between two blanks. -/
lemma firstWord_eq {word : List Char} (hword : ' ' ∉ word) (hne : word ≠ []) (after : List Char) :
    firstWord (' ' :: (word ++ ' ' :: after)) = String.ofList word := by
  obtain ⟨c, cs, rfl⟩ := List.exists_cons_of_ne_nil hne
  have hall : ∀ d ∈ c :: cs, decide (d ≠ ' ') = true :=
    fun d hd => decide_eq_true fun hblank => hword (hblank ▸ hd)
  have hfirst : ¬ decide (c = ' ') = true := by simpa using hall c List.mem_cons_self
  have hdrop : (' ' :: (c :: cs ++ ' ' :: after)).dropWhile (· = ' ') =
      c :: cs ++ ' ' :: after := by
    rw [List.dropWhile_cons_of_pos (by rfl)]
    exact List.dropWhile_cons_of_neg hfirst
  have hstop : (' ' :: after).takeWhile (· ≠ ' ') = [] := rfl
  rw [firstWord, hdrop, List.takeWhile_append_of_pos hall, hstop, List.append_nil]

/-- The word behind a mark is found, and the search goes on behind it. -/
lemma wordsBehind_cons_append {mark word : List Char} {c : Char} (hmark : c ∉ mark)
    (hword : c ∉ word) (hblank : ' ' ∉ word) (hne : word ≠ []) (hc : c ≠ ' ') (after : List Char) :
    wordsBehind (c :: mark) (c :: (mark ++ ' ' :: (word ++ ' ' :: after))) =
      String.ofList word :: wordsBehind (c :: mark) after := by
  have hprefix : (c :: mark).isPrefixOf (c :: (mark ++ ' ' :: (word ++ ' ' :: after))) :=
    List.isPrefixOf_iff_prefix.mpr (List.prefix_append (c :: mark) _)
  have hdrop : (c :: (mark ++ ' ' :: (word ++ ' ' :: after))).drop (c :: mark).length =
      ' ' :: (word ++ ' ' :: after) :=
    List.drop_left
  have hrest : c ∉ mark ++ ' ' :: (word ++ [' ']) := by
    simp [hmark, hword, hc]
  have hsplit : mark ++ ' ' :: (word ++ ' ' :: after) =
      mark ++ ' ' :: (word ++ [' ']) ++ after := by simp
  rw [wordsBehind, if_pos hprefix, hdrop, firstWord_eq hblank hne, hsplit,
    wordsBehind_append mark hrest]

/-- Before the first annotation there are no words behind it. -/
lemma wordsAt_append (h : '@' ∉ before.toList) (rest : String) :
    wordsAt marker (before ++ rest) = wordsAt marker rest := by
  rw [wordsAt, String.toList_append, wordsBehind_append _ h, wordsAt]

/-- Without annotations there are no words behind them. -/
lemma wordsAt_eq_nil (h : '@' ∉ text.toList) : wordsAt marker text = [] := by
  have htext : wordsAt marker (text ++ "") = wordsAt marker "" := wordsAt_append h ""
  rwa [String.append_empty] at htext

/-- Another annotation is passed over. -/
lemma wordsAt_at_append {rest : String} (h : ¬ marker.toList <+: rest.toList) :
    wordsAt marker ("@" ++ rest) = wordsAt marker rest := by
  have hno : ¬ ('@' :: marker.toList).isPrefixOf ('@' :: rest.toList) := by
    rw [List.isPrefixOf_iff_prefix, List.cons_prefix_cons]
    exact fun hprefix => h hprefix.2
  have hlist : ("@" ++ rest).toList = '@' :: rest.toList := by simp
  rw [wordsAt, hlist, wordsBehind, if_neg hno, wordsAt]

/-- The word behind the first annotation is found, and the search goes on behind it. -/
lemma wordsAt_append_word (hmarker : '@' ∉ marker.toList) (hbefore : '@' ∉ before.toList)
    (hword : '@' ∉ word.toList ∧ ' ' ∉ word.toList ∧ word.toList ≠ []) (after : String) :
    wordsAt marker (before ++ ("@" ++ (marker ++ " " ++ word ++ " " ++ after))) =
      word :: wordsAt marker after := by
  obtain ⟨hat, hblank, hne⟩ := hword
  have hlist : ("@" ++ (marker ++ " " ++ word ++ " " ++ after)).toList =
      '@' :: (marker.toList ++ ' ' :: (word.toList ++ ' ' :: after.toList)) := by simp
  rw [wordsAt_append hbefore, wordsAt, hlist,
    wordsBehind_cons_append hmarker hat hblank hne (by decide), String.ofList_toList, wordsAt]

/-- The words behind an annotation in the texts of some code. -/
def codeAnnotated (marker : String) (code : List Code) : List String :=
  (textsOf code).flatMap (wordsAt marker)

@[simp] lemma codeAnnotated_append (marker : String) (a b : List Code) :
    codeAnnotated marker (a ++ b) =
      codeAnnotated marker a ++ codeAnnotated marker b := by
  rw [codeAnnotated, textsOf_append, List.flatMap_append, codeAnnotated, codeAnnotated]

/-- The words behind an annotation in a text are those in its code. -/
lemma annotated_render (h : ∀ t ∈ textsOf code, '\n' ∉ t.toList) :
    annotated marker (render code) = codeAnnotated marker code := by
  have htrimmed : ∀ t : String, wordsAt marker (trimmed t) = wordsAt marker t := by
    intro t
    have hblanks : '@' ∉ (String.ofList (t.toList.takeWhile (· = ' '))).toList := by
      rw [String.toList_ofList]
      exact fun hmem => absurd (List.mem_takeWhile_imp hmem) (by decide)
    have hsplit : t = String.ofList (t.toList.takeWhile (· = ' ')) ++ trimmed t := by
      refine String.toList_injective ?_
      simp [trimmed]
    conv_rhs => rw [hsplit, wordsAt_append hblanks]
  have hempty : [""].flatMap (wordsAt marker) = [] := rfl
  rw [annotated, codeLines_render h, List.flatMap_append, hempty, List.append_nil, List.flatMap_map]
  simp only [htrimmed, codeAnnotated]

end Annotations

end Code

end CrudScaffold
