import CrudScaffold.Proofs.Toml.Order

/-!
# What is printed is read again

The pieces of a document are what it is printed as, line by line and header by header. If they make
the document and each of them can be read again, then the text of the document is read as a document
of the same pieces, each in its own place (`Toml.Document.exists_reread`), and that one is printed
as the same text.
-/

namespace CrudScaffold.Toml

/-! ### Places -/

lemma exists_place_of_mem_placedLines {i : ℕ} {lines : List Line} {l : Line}
    (hl : l ∈ placedLines i lines) : ∃ j, l.place = some j ∧ i ≤ j := by
  induction lines generalizing i with
  | nil => cases hl
  | cons first lines ih =>
    rw [placedLines] at hl
    rcases List.mem_cons.mp hl with rfl | hl
    · exact ⟨i, rfl, Nat.le_refl i⟩
    · obtain ⟨j, hj, hle⟩ := ih hl
      exact ⟨j, hj, Nat.le_of_succ_le hle⟩

lemma rising_placedLines (i : ℕ) (lines : List Line) : Rising Line.place (placedLines i lines) := by
  refine ⟨fun l hl => ?_, ?_⟩
  · obtain ⟨j, hj, -⟩ := exists_place_of_mem_placedLines hl
    rw [hj]
    rfl
  · induction lines generalizing i with
    | nil => exact .nil
    | cons first lines ih =>
      refine .cons (fun l hl j k hj hk => ?_) (ih (i + 1))
      obtain ⟨k', hk', hle⟩ := exists_place_of_mem_placedLines hl
      obtain rfl := Option.some.inj hj
      obtain rfl := Option.some.inj (hk.symm.trans hk')
      exact hle

lemma exists_place_of_mem_placed {first : Bool} {i : ℕ} {stanzas : List Stanza} {s : Stanza}
    (hs : s ∈ Stanza.placed first i stanzas) : ∃ j, s.place = some j ∧ i ≤ j := by
  induction stanzas generalizing first i with
  | nil => cases hs
  | cons s' stanzas ih =>
    rw [Stanza.placed] at hs
    rcases List.mem_cons.mp hs with rfl | hs
    · exact ⟨i, rfl, Nat.le_refl i⟩
    · obtain ⟨j, hj, hle⟩ := ih hs
      exact ⟨j, hj, by omega⟩

lemma rising_placed (first : Bool) (i : ℕ) (stanzas : List Stanza) :
    Rising Stanza.place (Stanza.placed first i stanzas) := by
  refine ⟨fun s hs => ?_, ?_⟩
  · obtain ⟨j, hj, -⟩ := exists_place_of_mem_placed hs
    rw [hj]
    rfl
  · induction stanzas generalizing first i with
    | nil => exact .nil
    | cons s' stanzas ih =>
      refine .cons (fun s hs j k hj hk => ?_) (ih false _)
      obtain ⟨k', hk', hle⟩ := exists_place_of_mem_placed hs
      obtain rfl := Option.some.inj hj
      obtain rfl := Option.some.inj (hk.symm.trans hk')
      omega

lemma rising_lines_of_mem_placed {first : Bool} {i : ℕ} {stanzas : List Stanza} {s : Stanza}
    (hs : s ∈ Stanza.placed first i stanzas) : Rising Line.place s.lines := by
  induction stanzas generalizing first i with
  | nil => cases hs
  | cons s' stanzas ih =>
    rw [Stanza.placed] at hs
    rcases List.mem_cons.mp hs with rfl | hs
    · exact rising_placedLines _ _
    · exact ih hs

/-! ### Pieces that can be read again -/

/-- A line that can be printed and read again. -/
structure Line.IsLegible (l : Line) : Prop where
  written : l.printed.statement.IsWritten
  parents : bareParents l.path.parents = l.path.parents

/-- A stanza that can be printed and read again. -/
structure Stanza.IsLegible (s : Stanza) : Prop where
  written : ∀ first, (s.printed.header first).IsWritten
  parents : bareParents s.path.parents = s.path.parents
  trimmed : s.path.key.inner.after = ""
  single : s.path.parents = [] → s.path.key.inner.before = ""
  lines : ∀ l ∈ s.lines, l.IsLegible

/-- The last key of a header as it is read again. -/
def Key.filled (k : Key) : Key where
  name := k.name
  raw := k.raw
  inner := ⟨k.inner.before, ""⟩
  outer := some (k.outer.getD ⟨"", ""⟩)

lemma forall₂_placedLines {lines : List Line} (h : ∀ l ∈ lines, l.IsLegible) (i : ℕ) :
    List.Forall₂ Line.Alike (placedLines i (lines.map Line.printed)) lines := by
  induction lines generalizing i with
  | nil => exact .nil
  | cons l lines ih =>
    obtain ⟨hl, hlines⟩ := List.forall_mem_cons.mp h
    exact .cons ⟨hl.parents, rfl, rfl⟩ (ih hlines (i + 1))

lemma forall₂_placed {stanzas : List Stanza} (h : ∀ s ∈ stanzas, s.IsLegible)
    (first : Bool) (i : ℕ) :
    List.Forall₂ (Stanza.Alike Key.filled) (Stanza.placed first i (stanzas.map Stanza.printed))
      stanzas := by
  induction stanzas generalizing first i with
  | nil => exact .nil
  | cons s stanzas ih =>
    obtain ⟨hs, hstanzas⟩ := List.forall_mem_cons.mp h
    refine .cons ?_ (ih hstanzas false _)
    obtain ⟨⟨parents, name, raw, ⟨before, after⟩, outer, place⟩, repeated, head, lines⟩ := s
    have hafter := hs.trimmed
    have hsingle := hs.single
    dsimp only at hafter hsingle
    subst hafter
    have hinner : (if parents.isEmpty then "" else before) = before := by
      cases parents with
      | nil => exact (hsingle rfl).symm
      | cons k parents => rfl
    refine ⟨hs.parents, ?_, rfl, rfl, rfl, rfl, forall₂_placedLines hs.lines _⟩
    dsimp only [Stanza.printed, Path.printed, Path.unplaced, Key.filled]
    rw [hinner]

/-! ### Printing again -/

lemma bareParents_bareParents (parents : List Key) :
    bareParents (bareParents parents) = bareParents parents := by
  cases parents with
  | nil => rfl
  | cons first more =>
    have hmore : (more.map Key.bare).map Key.bare = more.map Key.bare := by
      rw [List.map_map]
      rfl
    rw [bareParents, bareParents, hmore]
    rfl

lemma isEmpty_bareParents (parents : List Key) :
    (bareParents parents).isEmpty = parents.isEmpty := by
  cases parents <;> rfl

lemma Line.statement_placed (l : Line) (i : ℕ) :
    (l.printed.placed i).printed.statement = l.printed.statement := by
  obtain ⟨⟨parents, key⟩, literal, around⟩ := l
  simp only [Line.statement, Line.printed, Line.placed, Path.printed, bareParents_bareParents,
    isEmpty_bareParents, Option.getD_some]
  cases parents <;> rfl

lemma statements_placedLines (lines : List Line) (i : ℕ) :
    ((placedLines i (lines.map Line.printed)).map Line.printed).map Line.statement =
      (lines.map Line.printed).map Line.statement := by
  induction lines generalizing i with
  | nil => rfl
  | cons l lines ih =>
    rw [List.map_cons, placedLines, List.map_cons, List.map_cons, List.map_cons, ih,
      Line.statement_placed]

lemma isEmpty_placedLines (lines : List Line) (i : ℕ) :
    (placedLines i lines).isEmpty = lines.isEmpty := by
  cases lines <;> rfl

/-- A header that has been read again is printed as before, also if it is the first statement. -/
lemma Stanza.statements_placed (stanzas : List Stanza) (first : Bool) (i : ℕ) :
    Stanza.statements first ((Stanza.placed first i (stanzas.map Stanza.printed)).map
      Stanza.printed) = Stanza.statements first (stanzas.map Stanza.printed) := by
  induction stanzas generalizing first i with
  | nil => rfl
  | cons s stanzas ih =>
    rw [List.map_cons, Stanza.placed, List.map_cons, Stanza.statements, Stanza.statements, ih]
    obtain ⟨⟨parents, key⟩, repeated, head, lines⟩ := s
    simp only [Stanza.header, Stanza.printed, Path.printed, Path.unplaced, bareParents_bareParents,
      isEmpty_bareParents, Option.getD_some, statements_placedLines]
    cases parents <;> rfl

/-! ### Documents -/

namespace Document

variable (d : Document)

/-- The lines of a document in the order they are printed. -/
def lines : List Line := (Entries.lines d.entries).map Line.bare

/-- The pieces of a document in the order they are printed. -/
def pieces : List Piece := d.lines.map .line ++ d.stanzas.map .stanza

/-- The lines of a document as they are read again. -/
def rereadLines : List Line := placedLines 1 (d.lines.map Line.printed)

/-- The stanzas of a document as they are read again. -/
def rereadStanzas : List Stanza :=
  Stanza.placed d.lines.isEmpty (1 + d.lines.length) (d.stanzas.map Stanza.printed)

/-- The pieces of a document as they are read again. -/
def reread : List Piece := d.rereadLines.map .line ++ d.rereadStanzas.map .stanza

lemma layout_eq_pieces :
    d.layout = (d.lines.map Line.printed, d.stanzas.map Stanza.printed) := by
  rw [layout_eq, lines, List.map_map]
  exact congrArg (·, _) (List.map_congr_left fun l _ => l.printed_bare.symm)

lemma statements_eq : d.statements = (d.lines.map Line.printed).map Line.statement ++
    Stanza.statements d.lines.isEmpty (d.stanzas.map Stanza.printed) := by
  rw [statements, layout_eq_pieces, List.isEmpty_map]

lemma areRising_reread : AreRising d.rereadLines d.rereadStanzas where
  front := rising_placedLines _ _
  headers := rising_placed _ _ _
  inner _ hs := rising_lines_of_mem_placed hs

/-- A document that the pieces of another one make, as they are read again, has the text of that
one. -/
lemma write_of_reread {e : Document} (h : Makes d.reread e.entries) (hafter : e.after = d.after) :
    e.write = d.write := by
  obtain ⟨-, -, hlayout⟩ := Document.layout_of_makes h d.areRising_reread
  have hempty : (d.rereadLines.map Line.printed).isEmpty = d.lines.isEmpty := by
    rw [List.isEmpty_map, rereadLines, isEmpty_placedLines, List.isEmpty_map]
  have hstatements : e.statements = d.statements := by
    rw [statements, hlayout, statements_eq, hempty, rereadLines, statements_placedLines,
      rereadStanzas, Stanza.statements_placed]
  rw [write_eq, write_eq, hstatements, hafter]

end Document

/-! ### Reading -/

lemma Entries.foldlM_addSection? (stanzas : List Stanza) (entries : Entries) :
    (stanzas.map Stanza.section).foldlM Entries.addSection? entries =
      addAll? (stanzas.map Piece.stanza) entries := by
  induction stanzas generalizing entries with
  | nil => rfl
  | cons s stanzas ih =>
    rw [List.map_cons, List.map_cons, addAll?_cons, List.foldlM_cons]
    exact congrArg _ (funext ih)

/-- Nothing need stand in front of a statement. -/
lemma isFront_empty : IsFront "" := by
  intro rest hrest
  rw [String.toList_empty, List.nil_append, gap, hrest, between, Nat.sub_self, List.take_zero]
  rfl

/-- No statement begins with the mark of an encoding. -/
lemma statements?_mark (fuel : ℕ) (cs : List Char) : statements? fuel ('\uFEFF' :: cs) = none := by
  cases fuel with
  | zero => rfl
  | succ fuel =>
    have hgap := isFront_empty ('\uFEFF' :: cs) (isStart_of_notMem_stops (by decide) cs)
    rw [String.toList_empty, List.nil_append] at hgap
    have hnone : assignment? "" ('\uFEFF' :: cs) = none := by rfl
    rw [statements?, hgap]
    change (assignment? "" ('\uFEFF' :: cs) >>= _) = _
    rw [hnone]
    rfl

lemma length_le_length_flatMap {α β : Type*} {f : α → List β} {l : List α}
    (h : ∀ a ∈ l, f a ≠ []) : l.length ≤ (l.flatMap f).length := by
  induction l with
  | nil => exact Nat.le_refl _
  | cons a l ih =>
    obtain ⟨ha, hl⟩ := List.forall_mem_cons.mp h
    have hpos := List.length_pos_iff.mpr ha
    have hle := ih hl
    rw [List.flatMap_cons, List.length_append, List.length_cons]
    omega

lemma Statement.text_ne_nil (st : Statement) : st.text.toList ≠ [] := by
  cases st <;> simp [Statement.text]

lemma isPrinted_of_mem {lines : List Line} : ∀ l ∈ lines.map Line.printed, l.IsPrinted := by
  intro l hl
  obtain ⟨l, -, rfl⟩ := List.mem_map.mp hl
  exact l.isPrinted_printed

namespace Document

variable {d : Document}

/-- The text of a document whose statements can be read again is read as its pieces. -/
lemma parse?_write (hall : ∀ st ∈ d.statements, st.IsWritten) (hafter : IsTail d.after) :
    parse? d.write = (Entries.addAll? d.reread []).map fun entries => ⟨entries, d.after⟩ := by
  have htext : d.write.toList =
      (d.statements.flatMap fun st => st.text.toList) ++ d.after.toList := by
    rw [write_eq, String.toList_append, String.toList_join, List.flatMap_map]
  have hlength : d.statements.length < d.write.toList.length + 1 := by
    have hle := length_le_length_flatMap fun (st : Statement) (_ : st ∈ d.statements) =>
      st.text_ne_nil
    rw [htext, List.length_append]
    omega
  have hread := statements?_text hall hafter hlength
  rw [← htext] at hread
  have hmark : dropMark d.write.toList = d.write.toList := by
    unfold dropMark
    split
    · rename_i cs hcs
      rw [hcs, statements?_mark] at hread
      cases hread
    · rfl
  have hstanzas : ∀ s ∈ d.stanzas.map Stanza.printed, ∀ l ∈ s.lines, l.IsPrinted := by
    intro s hs
    obtain ⟨s, -, rfl⟩ := List.mem_map.mp hs
    exact isPrinted_of_mem
  have hsections := sections_statements (@isPrinted_of_mem d.lines) hstanzas d.lines.isEmpty 1
  rw [List.length_map, ← statements_eq] at hsections
  unfold parse?
  dsimp only
  rw [hmark, hread]
  change (Entries.putAll? (sections (d.statements.zipIdx 1)).1 [] >>= fun entries =>
    (sections (d.statements.zipIdx 1)).2.foldlM Entries.addSection? entries >>= _) = _
  rw [hsections]
  dsimp only
  rw [Entries.putAll?_member, reread, Entries.addAll?_append]
  change (Entries.addAll? (d.rereadLines.map Piece.line) [] >>= _) = _
  cases Entries.addAll? (d.rereadLines.map Piece.line) [] with
  | none => rfl
  | some start =>
    have hmore := Entries.foldlM_addSection? d.rereadStanzas start
    change (List.foldlM Entries.addSection? start (d.rereadStanzas.map Stanza.section) >>= _) =
      (Entries.addAll? (d.rereadStanzas.map Piece.stanza) start).map _
    rw [hmore]
    cases Entries.addAll? (d.rereadStanzas.map Piece.stanza) start <;> rfl

lemma isWritten_of_mem_statements {stanzas : List Stanza} (h : ∀ s ∈ stanzas, s.IsLegible)
    {first : Bool} {st : Statement} (hst : st ∈
      Stanza.statements first (stanzas.map Stanza.printed)) :
    st.IsWritten := by
  induction stanzas generalizing first with
  | nil => cases hst
  | cons s stanzas ih =>
    obtain ⟨hs, hstanzas⟩ := List.forall_mem_cons.mp h
    rw [List.map_cons, Stanza.statements, List.mem_cons, List.mem_append] at hst
    rcases hst with rfl | hst | hst
    · exact hs.written first
    · obtain ⟨l', hl', rfl⟩ := List.mem_map.mp hst
      obtain ⟨l, hl, rfl⟩ := List.mem_map.mp hl'
      exact (hs.lines l hl).written
    · exact ih hstanzas hst

/-- **What is printed is read again.** A document that its own pieces make, all of which can be read
again, is printed as a text that gives a document of these pieces again. That one has the same
text. -/
theorem exists_reread (h : Makes d.pieces d.entries) (hlines : ∀ l ∈ d.lines, l.IsLegible)
    (hstanzas : ∀ s ∈ d.stanzas, s.IsLegible) (hafter : IsTail d.after) :
    ∃ e : Document, parse? d.write = some e ∧ e.write = d.write ∧
      Entries.addAll? d.reread [] = some e.entries ∧ Makes d.reread e.entries ∧
      List.Forall₂ (Piece.Alike Key.filled) d.reread d.pieces := by
  have halike : List.Forall₂ (Piece.Alike Key.filled) d.reread d.pieces :=
    List.rel_append (Piece.Rel.map_line (forall₂_placedLines hlines 1))
      (Piece.Rel.map_stanza (forall₂_placed hstanzas _ _))
  obtain ⟨entries₁, hmakes₁⟩ := (alike_of_makes Key.filled).1 h d.reread halike
  obtain ⟨entries, hadd, hmakes⟩ := exists_addAll?_of_makes.1 hmakes₁
  have hall : ∀ st ∈ d.statements, st.IsWritten := by
    intro st hst
    rw [statements_eq, List.mem_append] at hst
    rcases hst with hst | hst
    · obtain ⟨l', hl', rfl⟩ := List.mem_map.mp hst
      obtain ⟨l, hl, rfl⟩ := List.mem_map.mp hl'
      exact (hlines l hl).written
    · exact isWritten_of_mem_statements hstanzas hst
  refine ⟨⟨entries, d.after⟩, ?_, write_of_reread d hmakes rfl, hadd, hmakes, halike⟩
  rw [parse?_write hall hafter, hadd]
  rfl

end Document

end CrudScaffold.Toml
