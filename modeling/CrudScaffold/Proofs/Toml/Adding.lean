import CrudScaffold.Proofs.Toml.Source

/-!
# Lines are added to a table

A table that was read gets lines that were never written. They are printed behind its other lines,
and a table that had no header gets one for them, somewhere among the headers that go on under its
name (`Toml.Grows`). What is printed makes the table with the new lines
(`Toml.MakesItem.exists_grows`).
-/

namespace CrudScaffold.Toml

/-! ### What never was written comes last -/

/-- Of two kinds of lines those that have a place are printed first. -/
lemma exists_append_of_before {printed lines added : List Line}
    (hperm : printed.Perm (lines ++ added)) (hordered : printed.Pairwise fun a b => a.before b)
    (hlines : Rising Line.place lines) (hadded : ∀ l ∈ added, l.place = none) :
    ∃ added', printed = lines ++ added' ∧ added'.Perm added := by
  have hsplit : printed = printed.filter (fun l => l.place.isSome) ++
      printed.filter fun l => !l.place.isSome := by
    clear hperm
    induction printed with
    | nil => rfl
    | cons l printed ih =>
      obtain ⟨hl, hordered⟩ := List.pairwise_cons.mp hordered
      have ih := ih hordered
      rw [List.filter_cons, List.filter_cons]
      by_cases hplace : l.place.isSome
      · rw [if_pos hplace, if_neg (by simp [hplace]), List.cons_append, ← ih]
      · -- behind a line without a place no line has one
        have hnone : printed.filter (fun l => l.place.isSome) = [] :=
          List.filter_eq_nil_iff.mpr fun l' hl' hsome =>
            hplace (((Line.before_iff l l').mp (hl l' hl')).2 hsome)
        rw [hnone, List.nil_append] at ih
        rw [if_neg hplace, if_pos (by simp [hplace]), hnone, List.nil_append, ← ih]
  have hfront : (lines ++ added).filter (fun l => l.place.isSome) = lines := by
    rw [List.filter_append, List.filter_eq_self.mpr hlines.placed,
      List.filter_eq_nil_iff.mpr fun l hl => by simp [hadded l hl], List.append_nil]
  have hrear : (lines ++ added).filter (fun l => !l.place.isSome) = added := by
    rw [List.filter_append, List.filter_eq_nil_iff.mpr fun l hl => by simp [hlines.placed l hl],
      List.filter_eq_self.mpr fun l hl => by simp [hadded l hl], List.nil_append]
  have hplaced := hperm.filter fun l => l.place.isSome
  have hunplaced := hperm.filter fun l => !l.place.isSome
  rw [hfront] at hplaced
  rw [hrear] at hunplaced
  refine ⟨_, ?_, hunplaced⟩
  have hsame : printed.filter (fun l => l.place.isSome) = lines :=
    hlines.eq_of_perm hplaced ((hordered.imp fun h => ((Line.before_iff _ _).mp h).1).filter _)
  rw [← hsame]
  exact hsplit

/-- A stanza more stands somewhere among those that have places. -/
lemma exists_split_of_inOrder {printed stanzas : List Stanza} {s : Stanza}
    (hperm : printed.Perm (s :: stanzas)) (hordered : InOrder Stanza.place printed)
    (hstanzas : Rising Stanza.place stanzas) :
    ∃ before behind, printed = before ++ s :: behind ∧ before ++ behind = stanzas := by
  obtain ⟨before, behind, rfl⟩ := List.append_of_mem (hperm.symm.subset List.mem_cons_self)
  have hrest : (before ++ behind).Perm stanzas :=
    (List.perm_cons s).mp (List.perm_middle.symm.trans hperm)
  refine ⟨before, behind, rfl, hstanzas.eq_of_perm hrest (hordered.sublist ?_)⟩
  exact List.Sublist.append_left (List.sublist_cons_self s behind) before

/-! ### The pieces of one name -/

/-- Lines and stanzas are those of an item, in the order that a document prints them. -/
structure Prints (key : Key) (item : Item) (front : List Line) (headers : List Stanza) : Prop where
  lines : front.Perm ((item.lines [] key).map Line.bare)
  ordered : front.Pairwise fun a b => a.before b
  stanzas : headers.Perm ((item.blocks [] key).filterMap Block.plain?)
  inOrder : InOrder Stanza.place headers

lemma Item.name_of_mem_lines {key : Key} {item : Item} {l : Line} (hl : l ∈ item.lines [] key) :
    (Piece.line l.bare).name = key.name := by
  cases item with
  | value literal around => rw [List.mem_singleton.mp hl]; rfl
  | table head inner =>
    rw [Item.lines] at hl
    split at hl
    · rw [List.nil_append, linesOf_eq_map] at hl
      obtain ⟨l, -, rfl⟩ := List.mem_map.mp hl
      rfl
    · cases hl
  | tables members => cases hl

lemma name_of_plain?_under {key : Key} {blocks : List Block} {s : Stanza}
    (hs : s ∈ (blocks.map (Block.under [key])).filterMap Block.plain?) :
    (Piece.stanza s).name = key.name := by
  obtain ⟨b, hb, hs⟩ := List.mem_filterMap.mp hs
  obtain ⟨b, -, rfl⟩ := List.mem_map.mp hb
  rw [Block.plain?_under] at hs
  obtain ⟨s, -, rfl⟩ := Option.map_eq_some_iff.mp hs
  rfl

lemma name_of_plain?_own {key : Key} {repeated : Bool} {head : Head} {lines : List Line}
    {s : Stanza}
    (hs : (⟨some ⟨[], key⟩, repeated, head, lines⟩ : Block).plain? = some s) :
    (Piece.stanza s).name = key.name := by
  rw [Block.plain?, Option.bind_some] at hs
  split at hs
  · obtain rfl := Option.some.inj hs
    rfl
  · cases hs

lemma Item.name_of_mem_blocks {key : Key} {item : Item} {s : Stanza}
    (hs : s ∈ (item.blocks [] key).filterMap Block.plain?) : (Piece.stanza s).name = key.name := by
  cases item with
  | value literal around => cases hs
  | table head inner =>
    rw [Item.blocks, List.filterMap_append, List.mem_append, List.nil_append, blocksOf_eq_map] at hs
    rcases hs with hs | hs
    · obtain ⟨b, hb, hs⟩ := List.mem_filterMap.mp hs
      split at hb
      · cases hb
      · rw [List.mem_singleton.mp hb] at hs
        exact name_of_plain?_own hs
    · exact name_of_plain?_under hs
  | tables members =>
    rw [Item.blocks] at hs
    induction members with
    | nil => cases hs
    | cons m members ih =>
      obtain ⟨head, inner⟩ := m
      rw [memberBlocks, List.filterMap_append, List.filterMap_append, List.mem_append,
        List.mem_append, List.nil_append, blocksOf_eq_map] at hs
      rcases hs with (hs | hs) | hs
      · obtain ⟨b, hb, hs⟩ := List.mem_filterMap.mp hs
        rw [List.mem_singleton.mp hb] at hs
        exact name_of_plain?_own hs
      · exact name_of_plain?_under hs
      · exact ih hs

/-- Of what the entries of a table give, that with the name of an entry is what this entry gives. -/
lemma filter_flatMap_of_name {α : Type*} (f : Key × Item → List α) (name : α → String)
    (hname : ∀ e, ∀ a ∈ f e, name a = e.1.name) {entries : Entries} (hnodup : entries.names.Nodup)
    {e : Key × Item} (he : e ∈ entries) :
    (entries.flatMap f).filter (fun a => decide (name a = e.1.name)) = f e := by
  obtain ⟨left, right, rfl⟩ := List.append_of_mem he
  rw [Entries.names_append, Entries.names_cons] at hnodup
  obtain ⟨-, hright, hleft⟩ := List.nodup_append.mp hnodup
  have hnone : ∀ more : Entries, e.1.name ∉ more.names →
      (more.flatMap f).filter (fun a => decide (name a = e.1.name)) = [] := by
    intro more hmore
    refine List.filter_eq_nil_iff.mpr fun a ha hsame => hmore ?_
    obtain ⟨e', he', ha⟩ := List.mem_flatMap.mp ha
    rw [← of_decide_eq_true hsame, hname e' a ha]
    exact List.mem_map_of_mem he'
  have hown : (f e).filter (fun a => decide (name a = e.1.name)) = f e :=
    List.filter_eq_self.mpr fun a ha => decide_eq_true (hname e a ha)
  rw [List.flatMap_append, List.flatMap_cons, List.filter_append, List.filter_append, hown,
    hnone left fun hmem => hleft _ hmem _ List.mem_cons_self rfl,
    hnone right (List.nodup_cons.mp hright).1, List.append_nil, List.nil_append]

namespace Document

variable (d : Document)

/-- The lines of a name that a document prints. -/
def linesOf (name : String) : List Line :=
  d.lines.filter fun l => decide ((Piece.line l).name = name)

/-- The stanzas of a name that a document prints. -/
def stanzasOf (name : String) : List Stanza :=
  d.stanzas.filter fun s => decide ((Piece.stanza s).name = name)

lemma piecesOf_eq (name : String) :
    piecesOf name d.pieces = (d.linesOf name).map .line ++ (d.stanzasOf name).map .stanza := by
  rw [pieces, piecesOf_append, piecesOf, piecesOf, List.filter_map, List.filter_map]
  rfl

variable {d}

/-- What a document prints of a name is what the entry of that name gives. -/
lemma prints (hnodup : d.entries.names.Nodup) {e : Key × Item} (he : e ∈ d.entries) :
    Prints e.1 e.2 (d.linesOf e.1.name) (d.stanzasOf e.1.name) := by
  refine ⟨?_, ?_, ?_, ?_⟩
  · have hlines : d.lines.Perm (d.entries.flatMap fun e => (e.2.lines [] e.1).map Line.bare) := by
      rw [lines, ← List.map_flatMap, ← linesOf_eq_flatMap]
      exact (List.mergeSort_perm _ _).map _
    have hown := filter_flatMap_of_name (fun e => (e.2.lines [] e.1).map Line.bare)
      (fun l => (Piece.line l).name) (fun e l hl => ?_) hnodup he
    · rw [← hown]
      exact hlines.filter _
    · obtain ⟨l', hl', rfl⟩ := List.mem_map.mp hl
      exact Item.name_of_mem_lines hl'
  · exact (List.pairwise_map.mpr (Entries.pairwise_lines d.entries)).filter _
  · have hstanzas : d.stanzas.Perm
        (d.entries.flatMap fun e => (e.2.blocks [] e.1).filterMap Block.plain?) := by
      rw [← List.filterMap_flatMap, ← blocksOf_eq_flatMap]
      exact d.perm_stanzas
    have hown := filter_flatMap_of_name (fun e => (e.2.blocks [] e.1).filterMap Block.plain?)
      (fun s => (Piece.stanza s).name) (fun e s hs => Item.name_of_mem_blocks hs) hnodup he
    rw [← hown]
    exact hstanzas.filter _
  · exact d.inOrder_stanzas.filter _

end Document

/-! ### What is printed of an item -/

section Printed

variable {key : Key} {head : Head} {inner : Entries} {pieces : List Piece} {item : Item}
  {lines front : List Line} {stanzas headers : List Stanza}

/-- An item that pieces in rising places make is printed as these pieces. -/
lemma MakesItem.printed_eq (h : MakesItem (lines.map .line ++ stanzas.map .stanza) key item)
    (hrising : AreRising lines stanzas) (hprints : Prints key item front headers) :
    front = lines ∧ headers = stanzas := by
  have hlines := h.perm_lines
  have hstanzas := h.perm_stanzas
  rw [linesIn_append, linesIn_map_line, linesIn_map_stanza, List.append_nil] at hlines
  rw [stanzasIn_append, stanzasIn_map_line, stanzasIn_map_stanza, List.nil_append] at hstanzas
  have hblocks := hstanzas.perm (fun b hb => Item.exists_lines hb) hrising.inner
  exact ⟨hrising.front.eq_of_perm (hprints.lines.trans hlines)
      (hprints.ordered.imp fun h => ((Line.before_iff _ _).mp h).1),
    hrising.headers.eq_of_perm (hprints.stanzas.trans hblocks) hprints.inOrder⟩

/-- The headers inside a table that is made of pieces are those among the pieces. -/
lemma Makes.perm_under (h : Makes pieces inner) (key : Key)
    (hrising : ∀ s ∈ stanzasIn pieces, Rising Line.place s.lines) :
    ((blocksOf [key] inner).filterMap Block.plain?).Perm
      ((stanzasIn pieces).map (Stanza.under key)) := by
  have hunder := h.perm_stanzas.under key
  rw [← blocksOf_eq_map] at hunder
  refine hunder.perm (fun b hb => exists_lines_of_mem_blocksOf hb) fun s hs => ?_
  obtain ⟨s', hs', rfl⟩ := List.mem_map.mp hs
  exact hrising s' hs'

end Printed

/-! ### Lines that never were written -/

/-- Lines with single keys that never were written. -/
structure AreNew (added : List Line) : Prop where
  single : ∀ l ∈ added, l.path.parents = []
  place : ∀ l ∈ added, l.place = none

section Added

variable {key : Key} {head : Head} {inner : Entries} {pieces : List Piece} {added : List Line}
  (hnew : AreNew added)

include hnew

lemma Line.bare_of_new {l : Line} (hl : l ∈ added) : l.bare = l := by
  have hsingle := hnew.single l hl
  obtain ⟨⟨parents, key⟩, literal, around⟩ := l
  obtain rfl := hsingle
  rfl

lemma linesOf_entry : linesOf [] (added.map Line.entry) = added := by
  rw [linesOf_eq_flatMap, List.flatMap_map]
  have hone : ∀ l ∈ added, (Line.entry l).2.lines [] (Line.entry l).1 = [l] := by
    intro l hl
    have hsingle := hnew.single l hl
    obtain ⟨⟨parents, key⟩, literal, around⟩ := l
    obtain rfl := hsingle
    rfl
  rw [List.flatMap_congr hone]
  exact List.flatMap_singleton' added

omit hnew in
lemma blocksOf_entry (parents : List Key) (added : List Line) :
    blocksOf parents (added.map Line.entry) = [] := by
  rw [blocksOf_eq_flatMap, List.flatMap_map]
  exact List.flatMap_eq_nil_iff.mpr fun _ _ => rfl

/-- The lines of a table with new ones are those that it had and the new ones. -/
lemma Makes.perm_lines_added (h : Makes pieces inner) :
    ((linesOf [] (inner ++ added.map Line.entry)).map Line.bare).Perm
      (linesIn pieces ++ added) := by
  have hsame : added.map Line.bare = added :=
    (List.map_congr_left fun l hl => Line.bare_of_new hnew hl).trans (List.map_id _)
  rw [linesOf_eq_flatMap, List.flatMap_append, ← linesOf_eq_flatMap, ← linesOf_eq_flatMap,
    linesOf_entry hnew, List.map_append, hsame]
  exact h.perm_lines.append_right added

/-- New lines are printed behind the other ones of a table. -/
lemma Makes.exists_added (h : Makes pieces inner) (hrising : Rising Line.place (linesIn pieces)) :
    ∃ added', (Entries.lines (inner ++ added.map Line.entry)).map Line.bare =
      linesIn pieces ++ added' ∧ added'.Perm added :=
  exists_append_of_before (((List.mergeSort_perm _ _).map _).trans (h.perm_lines_added hnew))
    (List.pairwise_map.mpr (Entries.pairwise_lines _)) hrising hnew.place

omit hnew in
lemma blocksOf_added (parents : List Key) (inner : Entries) (added : List Line) :
    blocksOf parents (inner ++ added.map Line.entry) = blocksOf parents inner := by
  rw [blocksOf_eq_flatMap, List.flatMap_append, ← blocksOf_eq_flatMap, ← blocksOf_eq_flatMap,
    blocksOf_entry, List.append_nil]

end Added

/-! ### What a piece puts into the table of its name -/

/-- What a piece puts into the table of its first name. -/
def Piece.inside : Piece → List Piece
  | line ⟨⟨[], _⟩, _, _⟩ => []
  | line ⟨⟨_ :: parents, key⟩, literal, around⟩ => [line ⟨⟨parents, key⟩, literal, around⟩]
  | stanza ⟨⟨[], _⟩, _, _, lines⟩ => lines.map line
  | stanza ⟨⟨_ :: parents, key⟩, repeated, head, lines⟩ =>
    [stanza ⟨⟨parents, key⟩, repeated, head, lines⟩]

lemma Piece.inside_stanza {key : Key} {s : Stanza} (hpath : s.path = ⟨[], key⟩) :
    (stanza s).inside = s.lines.map line := by
  obtain ⟨path, repeated, head, lines⟩ := s
  obtain rfl := hpath
  rfl

@[simp] lemma flatMap_inside_under (key : Key) (pieces : List Piece) :
    (pieces.map (Piece.under key)).flatMap Piece.inside = pieces := by
  have hone : ∀ p : Piece, (p.under key).inside = [p] := by
    rintro (l | s) <;> rfl
  rw [List.flatMap_map]
  simp only [hone]
  exact List.flatMap_singleton' pieces

/-- What lines are added to: the lines of a table that is there for the keys of a path, the lines
under a header, or a table without a header, which gets one. -/
inductive Grows (key : Key) (added : List Line) : Head → List Piece → List Piece → Prop
  | dotted {lines : List Line} {stanzas : List Stanza} (hne : lines ≠ []) :
      Grows key added Entries.dottedHead
        ((lines.map Piece.line ++ stanzas.map Piece.stanza).map (Piece.under key))
        ((lines.map Piece.line ++ added.map Piece.line ++ stanzas.map Piece.stanza).map
          (Piece.under key))
  | implicit {before behind : List Stanza} (hbare : key.bare = key) (hne : before ++ behind ≠ []) :
      Grows key added { implicit := true }
        (((before ++ behind).map Piece.stanza).map (Piece.under key))
        ((before.map Piece.stanza).map (Piece.under key) ++
          .stanza ⟨⟨[], key⟩, false, { implicit := true }, added⟩ ::
            (behind.map Piece.stanza).map (Piece.under key))
  | headed {s : Stanza} {before behind : List Stanza} (hpath : s.path = ⟨[], key⟩) :
      Grows key added s.head
        ((before.map Piece.stanza).map (Piece.under key) ++
          .stanza s :: (behind.map Piece.stanza).map (Piece.under key))
        ((before.map Piece.stanza).map (Piece.under key) ++
          .stanza { s with lines := s.lines ++ added } ::
            (behind.map Piece.stanza).map (Piece.under key))

/-- Inside the table nothing changes but that the new lines are there. -/
lemma Grows.exists_inside {key : Key} {head : Head} {added : List Line} {own grown : List Piece}
    (h : Grows key added head own grown) : ∃ first second, own.flatMap Piece.inside =
      first ++ second ∧
      grown.flatMap Piece.inside = first ++ added.map Piece.line ++ second := by
  cases h with
  | dotted hne =>
    exact ⟨_, _, flatMap_inside_under _ _, flatMap_inside_under _ _⟩
  | @implicit before behind hbare hne =>
    refine ⟨before.map .stanza, behind.map .stanza, ?_, ?_⟩
    · rw [flatMap_inside_under, List.map_append]
    · rw [List.flatMap_append, List.flatMap_cons, flatMap_inside_under, flatMap_inside_under,
        Piece.inside_stanza rfl, List.append_assoc]
  | @headed s before behind hpath =>
    refine ⟨before.map .stanza ++ s.lines.map .line, behind.map .stanza, ?_, ?_⟩
    · rw [List.flatMap_append, List.flatMap_cons, flatMap_inside_under, flatMap_inside_under,
        Piece.inside_stanza hpath, List.append_assoc]
    · rw [List.flatMap_append, List.flatMap_cons, flatMap_inside_under, flatMap_inside_under,
        Piece.inside_stanza (by exact hpath), List.map_append]
      simp only [List.append_assoc]

/-- The order of entries makes no difference to the pieces that make them. -/
lemma Makes.perm {pieces : List Piece} {entries entries' : Entries} (h : Makes pieces entries)
    (hperm : entries.Perm entries') : Makes pieces entries' := by
  have hnames : entries.names.Perm entries'.names := hperm.map _
  exact ⟨hnames.nodup h.nodup, fun p hp => hnames.subset (h.names hp),
    fun e he => h.items (hperm.symm.subset he)⟩

lemma exists_perm_of_perm_map {α β : Type*} {f : α → β} {l : List β} {l' : List α}
    (h : l.Perm (l'.map f)) : ∃ l'' : List α, l = l''.map f ∧ l''.Perm l' := by
  have hcomp := congrFun (congrFun (List.eq_map_comp_perm f) l) l'
  exact hcomp.symm.mp h

lemma map_stanza_under (key : Key) (stanzas : List Stanza) :
    (stanzas.map (Stanza.under key)).map Piece.stanza =
      (stanzas.map Piece.stanza).map (Piece.under key) := by
  rw [List.map_map, List.map_map]
  rfl

/-- A header with what goes on under its name in front of it and behind it. -/
lemma pieces_around (key : Key) (s : Stanza) (before behind : List Stanza) :
    ([] : List Line).map Piece.line ++
        (before.map (Stanza.under key) ++ s :: behind.map (Stanza.under key)).map Piece.stanza =
      (before.map Piece.stanza).map (Piece.under key) ++
        .stanza s :: (behind.map Piece.stanza).map (Piece.under key) := by
  rw [List.map_nil, List.nil_append, List.map_append, List.map_cons, map_stanza_under,
    map_stanza_under]

/-- Lines of a table that is there for the keys of a path. -/
lemma map_under_eq (key : Key) (lines : List Line) (stanzas : List Stanza) :
    (lines.map Piece.line ++ stanzas.map Piece.stanza).map (Piece.under key) =
      (lines.map (Line.under [key.bare])).map Piece.line ++
        (stanzas.map (Stanza.under key)).map Piece.stanza := by
  have hlines : (lines.map Piece.line).map (Piece.under key) =
      (lines.map (Line.under [key.bare])).map Piece.line := by
    rw [List.map_map, List.map_map]
    rfl
  rw [List.map_append, map_stanza_under, hlines]

section Grown

variable {key : Key} {head : Head} {inner : Entries} {added front lines : List Line}
  {headers stanzas : List Stanza} {pieces : List Piece} (hnew : AreNew added)

include hnew

/-- What is printed of a table with a header, or of one that needs a header: the header with its
lines. -/
lemma Makes.exists_own (h : Makes pieces inner) (key : Key)
    (hrising : Rising Line.place (linesIn pieces)) (himplicit : head.implicit → added ≠ []) :
    ∃ added', added'.Perm added ∧
      (⟨some ⟨[], key⟩, false, head, Entries.lines (inner ++ added.map Line.entry)⟩ :
        Block).plain? =
        some ⟨⟨[], key⟩, false, head, linesIn pieces ++ added'⟩ := by
  obtain ⟨added', hlines, hperm⟩ := h.exists_added hnew hrising
  refine ⟨added', hperm, ?_⟩
  have hheader : (⟨some ⟨[], key⟩, false, head, Entries.lines (inner ++ added.map Line.entry)⟩ :
      Block).hasHeader := by
    cases hhead : head.implicit with
    | false => simp [Block.hasHeader, hhead]
    | true =>
      have hne : Entries.lines (inner ++ added.map Line.entry) ≠ [] := by
        intro hnil
        rw [hnil, List.map_nil, eq_comm, List.append_eq_nil_iff] at hlines
        rw [hlines.2] at hperm
        exact himplicit hhead (List.nil_perm.mp hperm)
      simp [Block.hasHeader, hhead, hne]
  rw [Block.plain?, Option.bind_some, if_pos hheader, ← hlines]
  rfl

/-- The headers that are printed of a table with new lines, if the keys of a path are not what it is
there for: its own header with its lines, and those that go on under its name. -/
lemma Makes.exists_headers (h : Makes pieces inner)
    (hrising : Rising Line.place (linesIn pieces))
    (hinner : ∀ s ∈ stanzasIn pieces, Rising Line.place s.lines)
    (hdotted : head.dotted = false) (himplicit : head.implicit → added ≠ [])
    (hprints : Prints key (.table head (inner ++ added.map Line.entry)) front headers) :
    front = [] ∧ ∃ added', added'.Perm added ∧
      headers.Perm (⟨⟨[], key⟩, false, head, linesIn pieces ++ added'⟩ ::
        (stanzasIn pieces).map (Stanza.under key)) := by
  obtain ⟨added', hperm, hplain⟩ := h.exists_own hnew key hrising himplicit
  have hlines := hprints.lines
  have hstanzas := hprints.stanzas
  rw [Item.lines, hdotted, if_neg Bool.false_ne_true, List.map_nil] at hlines
  rw [Item.blocks, hdotted, if_neg Bool.false_ne_true, List.nil_append, blocksOf_added,
    List.singleton_append, List.filterMap_cons, hplain] at hstanzas
  exact ⟨List.perm_nil.mp hlines, added', hperm,
    hstanzas.trans ((h.perm_under key hinner).cons _)⟩

variable (hnodup : (inner.names ++ added.map fun l => l.path.key.name).Nodup)

include hnodup

/-- New lines in some order stand anywhere among the pieces of a table. -/
lemma Makes.insert_new {before behind : List Piece} {added' : List Line}
    (h : Makes (before ++ behind) inner) (hperm : added'.Perm added) :
    Makes (before ++ added'.map Piece.line ++ behind) (inner ++ added.map Line.entry) := by
  have hnames : (added'.map fun l => l.path.key.name).Perm (added.map fun l => l.path.key.name) :=
    hperm.map _
  refine (h.insert (fun l hl => hnew.single l (hperm.subset hl)) ?_).perm
    ((hperm.map Line.entry).append_left inner)
  exact (hnames.append_left _).symm.nodup hnodup

/-- Lines that are added to a table that is there for the keys of a path stand behind its lines. -/
lemma Makes.exists_grows_dotted {l : Line} {more : List Piece} (h : Makes (.line l :: more) inner)
    (hown : lines.map Piece.line ++ stanzas.map Piece.stanza =
      (Piece.line l :: more).map (Piece.under key)) (hrising : AreRising lines stanzas)
    (hprints : Prints key (.table Entries.dottedHead (inner ++ added.map Line.entry))
      front headers) :
    ∃ added', added'.Perm added ∧
      Grows key added' Entries.dottedHead ((Piece.line l :: more).map (Piece.under key))
        (front.map .line ++ headers.map .stanza) ∧
      MakesItem (front.map .line ++ headers.map .stanza) key
        (.table Entries.dottedHead (inner ++ added.map Line.entry)) := by
  have hlines := congrArg linesIn hown
  have hstanzas := congrArg stanzasIn hown
  have hinside := congrArg (List.flatMap Piece.inside) hown
  have hfirst : linesIn (.line l :: more) ≠ [] := List.cons_ne_nil l (linesIn more)
  generalize Piece.line l :: more = all at h hlines hstanzas hinside hfirst hown ⊢
  rw [linesIn_append, linesIn_map_line, linesIn_map_stanza, List.append_nil, linesIn_map_under]
    at hlines
  rw [stanzasIn_append, stanzasIn_map_line, stanzasIn_map_stanza, List.nil_append,
    stanzasIn_map_under] at hstanzas
  generalize linesIn all = inLines at hlines hfirst
  generalize stanzasIn all = inStanzas at hstanzas
  subst hlines hstanzas
  rw [← map_under_eq, flatMap_inside_under, flatMap_inside_under] at hinside
  subst hinside
  -- what is printed are the lines under the key, then the new ones, and the headers
  have hfront := hprints.lines
  have hheaders := hprints.stanzas
  have hbare : (Item.lines [] key (.table Entries.dottedHead (inner ++ added.map Line.entry))).map
      Line.bare = ((linesOf [] (inner ++ added.map Line.entry)).map Line.bare).map
        (Line.under [key.bare]) := map_bare_linesOf key _
  have hall := (h.perm_lines_added hnew).map (Line.under [key.bare])
  rw [linesIn_append, linesIn_map_line, linesIn_map_stanza, List.append_nil,
    List.map_append] at hall
  rw [hbare] at hfront
  have hplace : ∀ l ∈ added.map (Line.under [key.bare]), l.place = none := by
    intro l hl
    obtain ⟨l', hl', rfl⟩ := List.mem_map.mp hl
    exact hnew.place l' hl'
  obtain ⟨last, rfl, hlast⟩ := exists_append_of_before (hfront.trans hall) hprints.ordered
    hrising.front hplace
  obtain ⟨added', rfl, hperm⟩ := exists_perm_of_perm_map hlast
  have hblocks := h.perm_under key (by
    rw [stanzasIn_append, stanzasIn_map_line, stanzasIn_map_stanza, List.nil_append]
    exact fun s hs => hrising.inner (s.under key) (List.mem_map_of_mem hs))
  rw [stanzasIn_append, stanzasIn_map_line, stanzasIn_map_stanza, List.nil_append] at hblocks
  rw [Item.blocks, if_pos (by rfl), List.nil_append, List.nil_append, blocksOf_added] at hheaders
  obtain rfl := hrising.headers.eq_of_perm (hheaders.trans hblocks) hprints.inOrder
  have hmakes := h.insert_new hnew hnodup hperm
  rw [← List.map_append, ← map_under_eq, List.map_append (f := Piece.line)]
  refine ⟨added', hperm, .dotted hfirst, ?_⟩
  obtain ⟨first, rest, rfl⟩ := List.exists_cons_of_ne_nil hfirst
  exact .dotted hmakes

/-- A table without a header gets one for the lines that are added to it. -/
lemma Makes.exists_grows_implicit (h : Makes (stanzas.map .stanza) inner) (hbare : key.bare = key)
    (hne : added ≠ []) (hstanzas : stanzas ≠ [])
    (hrising : AreRising [] (stanzas.map (Stanza.under key)))
    (hprints : Prints key (.table { implicit := true } (inner ++ added.map Line.entry))
      front headers) :
    ∃ added', added'.Perm added ∧
      Grows key added' { implicit := true } ((stanzas.map Piece.stanza).map (Piece.under key))
        (front.map .line ++ headers.map .stanza) ∧
      MakesItem (front.map .line ++ headers.map .stanza) key
        (.table { implicit := true } (inner ++ added.map Line.entry)) := by
  have hlines : linesIn (stanzas.map Piece.stanza) = [] := linesIn_map_stanza stanzas
  have hsame : stanzasIn (stanzas.map Piece.stanza) = stanzas := stanzasIn_map_stanza stanzas
  obtain ⟨rfl, added', hperm, hheaders⟩ := h.exists_headers hnew (by rw [hlines]; exact .nil)
    (by
      rw [hsame]
      exact fun s hs => hrising.inner (s.under key) (List.mem_map_of_mem hs))
    rfl (fun _ => hne) hprints
  rw [hlines, hsame, List.nil_append] at hheaders
  obtain ⟨before, behind, rfl, hsplit⟩ :=
    exists_split_of_inOrder hheaders hprints.inOrder hrising.headers
  obtain ⟨before, behind, rfl, rfl, rfl⟩ := List.map_eq_append_iff.mp hsplit.symm
  rw [List.map_append] at h
  have hmakes := h.insert_new hnew hnodup hperm
  rw [pieces_around]
  refine ⟨added', hperm, .implicit hbare hstanzas,
    .headed rfl rfl rfl (fun _ hnil => hne ?_) hmakes⟩
  obtain rfl : added' = [] := hnil
  exact List.nil_perm.mp hperm

/-- Lines that are added to a table with a header stand behind the lines under the header. -/
lemma Makes.exists_grows_headed {s : Stanza} {before behind : List Stanza}
    (h : Makes (before.map .stanza ++ s.lines.map .line ++ behind.map .stanza) inner)
    (hpath : s.path = ⟨[], key⟩) (hrepeated : s.repeated = false) (hdotted : s.head.dotted = false)
    (hne : added ≠ [])
    (hrising : AreRising [] (before.map (Stanza.under key) ++ s :: behind.map (Stanza.under key)))
    (hprints : Prints key (.table s.head (inner ++ added.map Line.entry)) front headers) :
    ∃ added', added'.Perm added ∧
      Grows key added' s.head ((before.map Piece.stanza).map (Piece.under key) ++
          .stanza s :: (behind.map Piece.stanza).map (Piece.under key))
        (front.map .line ++ headers.map .stanza) ∧
      MakesItem (front.map .line ++ headers.map .stanza) key
        (.table s.head (inner ++ added.map Line.entry)) := by
  have hlines : linesIn (before.map .stanza ++ s.lines.map .line ++ behind.map .stanza) =
      s.lines := by simp
  have hstanzas : stanzasIn (before.map .stanza ++ s.lines.map .line ++ behind.map .stanza) =
      before ++ behind := by simp
  have hown := hrising.inner s (List.mem_append_right _ List.mem_cons_self)
  obtain ⟨rfl, added', hperm, hheaders⟩ := h.exists_headers hnew (by rwa [hlines])
    (by
      rw [hstanzas]
      intro s' hs'
      refine hrising.inner (s'.under key) ?_
      rw [List.mem_append, List.mem_cons]
      rcases List.mem_append.mp hs' with hs' | hs'
      · exact .inl (List.mem_map_of_mem hs')
      · exact .inr (.inr (List.mem_map_of_mem hs')))
    hdotted (fun _ => hne) hprints
  rw [hlines, hstanzas, List.map_append] at hheaders
  -- the header has its old place, so the order is the old one
  have hsame : (⟨⟨[], key⟩, false, s.head, s.lines ++ added'⟩ : Stanza) =
      { s with lines := s.lines ++ added' } := by
    obtain ⟨path, repeated, head, lines⟩ := s
    dsimp only at hpath hrepeated
    subst hpath hrepeated
    rfl
  rw [hsame] at hheaders
  have hplaces : (before.map (Stanza.under key) ++ { s with lines := s.lines ++ added' } ::
        behind.map (Stanza.under key)).map Stanza.place =
      (before.map (Stanza.under key) ++ s :: behind.map (Stanza.under key)).map Stanza.place := by
    rw [List.map_append, List.map_append, List.map_cons, List.map_cons]
    rfl
  obtain rfl := (hrising.headers.of_map_eq hplaces).eq_of_perm
    (hheaders.trans List.perm_middle.symm) hprints.inOrder
  rw [List.append_assoc, ← List.append_assoc] at h
  have hmakes := h.insert_new hnew hnodup hperm
  rw [pieces_around]
  refine ⟨added', hperm, .headed hpath, ?_⟩
  refine @MakesItem.headed key { s with lines := s.lines ++ added' } before behind _ hpath hrepeated
    hdotted (fun _ hnil => ?_) ?_
  · rw [(List.append_eq_nil_iff.mp hnil).2] at hperm
    exact hne (List.nil_perm.mp hperm)
  · rw [List.map_append]
    simpa only [List.append_assoc] using hmakes

/-- **Lines are added.** A table that was read and gets new lines is made of the pieces that are
printed of it then. -/
lemma MakesItem.exists_grows
    (h : MakesItem (lines.map .line ++ stanzas.map .stanza) key (.table head inner))
    (hrising : AreRising lines stanzas) (hne : added ≠ [])
    (hprints : Prints key (.table head (inner ++ added.map Line.entry)) front headers) :
    ∃ added', added'.Perm added ∧
      Grows key added' head (lines.map .line ++ stanzas.map .stanza)
        (front.map .line ++ headers.map .stanza) ∧
      MakesItem (front.map .line ++ headers.map .stanza) key
        (.table head (inner ++ added.map Line.entry)) := by
  generalize hown : lines.map Piece.line ++ stanzas.map Piece.stanza = own at h ⊢
  have hlines := congrArg linesIn hown
  have hstanzas := congrArg stanzasIn hown
  rw [linesIn_append, linesIn_map_line, linesIn_map_stanza, List.append_nil] at hlines
  rw [stanzasIn_append, stanzasIn_map_line, stanzasIn_map_stanza, List.nil_append] at hstanzas
  cases h with
  | dotted h => exact h.exists_grows_dotted hnew hnodup hown hrising hprints
  | @implicit _ stanzas₀ _ hbare hne₀ h =>
    rw [linesIn_map_under, linesIn_map_stanza, List.map_nil] at hlines
    rw [stanzasIn_map_under, stanzasIn_map_stanza] at hstanzas
    subst hlines hstanzas
    exact h.exists_grows_implicit hnew hnodup hbare hne hne₀ hrising hprints
  | @headed _ s before behind _ hpath hrepeated hdotted himplicit h =>
    rw [← pieces_around, linesIn_append, linesIn_map_line, linesIn_map_stanza] at hlines
    rw [← pieces_around, stanzasIn_append, stanzasIn_map_line, stanzasIn_map_stanza] at hstanzas
    subst hlines hstanzas
    exact h.exists_grows_headed hnew hnodup hpath hrepeated hdotted hne hrising hprints

omit hnodup in
/-- A new table is a header with its lines. -/
lemma exists_new (hnodup : (added.map fun l => l.path.key.name).Nodup)
    (hprints : Prints key (.table {} (added.map Line.entry)) front headers) :
    ∃ added', added'.Perm added ∧ front = [] ∧ headers = [⟨⟨[], key⟩, false, {}, added'⟩] ∧
      MakesItem (front.map .line ++ headers.map .stanza) key
        (.table {} (added.map Line.entry)) := by
  have hnil : Makes (([] : List Piece) ++ []) [] := .nil
  obtain ⟨rfl, added', hperm, hheaders⟩ := @Makes.exists_headers key {} [] added front headers []
    hnew .nil .nil nofun rfl nofun hprints
  obtain rfl := List.perm_singleton.mp hheaders
  have hmakes := hnil.insert_new hnew (by simpa using hnodup) hperm
  rw [List.nil_append, List.append_nil, List.nil_append] at hmakes
  refine ⟨added', hperm, rfl, rfl,
    @MakesItem.headed key ⟨⟨[], key⟩, false, {}, added'⟩ [] [] _ rfl rfl
    rfl nofun ?_⟩
  rw [List.map_nil, List.nil_append, List.append_nil]
  exact hmakes

end Grown

end CrudScaffold.Toml
