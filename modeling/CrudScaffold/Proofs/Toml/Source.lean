import CrudScaffold.Proofs.Toml.Rereading
import CrudScaffold.Proofs.Toml.Spelling

/-!
# What a document is read from

The statements of a text are lines and stanzas that can be read again, and the document that is read
from the text is made of them. It is printed as these lines and stanzas in the order of the text,
with the keys of their paths spelled as the document has them (`Toml.Document.isRead_of_parse?`).
-/

namespace CrudScaffold.Toml

/-! ### Lines and stanzas as they are read -/

/-- A line as the reader of documents gives it. -/
structure Line.IsRead (l : Line) : Prop extends l.IsPrinted where
  written : l.statement.IsWritten

/-- A stanza as the reader of documents gives it. -/
structure Stanza.IsRead (s : Stanza) : Prop where
  written : ∀ first, (s.header first).IsWritten
  around : s.head.around.isSome
  implicit : s.head.implicit = false
  dotted : s.head.dotted = false
  lines : ∀ l ∈ s.lines, l.IsRead

lemma Statement.IsWritten.path {st : Statement} (h : st.IsWritten) :
    match st with
    | .entry _ path _ _ => path.IsWritten
    | .header _ _ path _ => path.IsWritten := by
  cases h with
  | entry hbefore hpath houter hl haround hafter => exact hpath
  | header hbefore hpath hafter => exact hpath

/-- What is written is the same with what stands around the whole path left aside. -/
lemma Path.IsWritten.bareParents_eq {p : Path} (h : p.IsWritten) :
    bareParents p.parents = p.parents := by
  obtain ⟨_ | ⟨first, more⟩, key⟩ := p
  · rfl
  · obtain ⟨hfirst, hmore⟩ := List.forall_mem_cons.mp h.parents
    have hbefore := h.first first rfl
    rw [bareParents, hfirst.bare_eq]
    refine congrArg₂ List.cons ?_ ?_
    · rw [← hbefore]
    · exact (List.map_congr_left fun k hk => (hmore k hk).bare_eq).trans (List.map_id _)

namespace Line.IsRead

variable {l l' : Line}

lemma path (h : l.IsRead) : (⟨l.path.parents, { l.path.key with
    outer := some ⟨"", (l.path.key.outer.getD ⟨"", " "⟩).after⟩, place := none }⟩ :
      Path).IsWritten :=
  h.written.path

lemma isNeat (h : l.IsRead) : l.path.IsNeat true :=
  ⟨h.path.parents, fun _ k hk => h.path.first k hk⟩

/-- A line that was read is printed as it is. -/
lemma printed_eq (h : l.IsRead) : l.printed = l := by
  have hparents := h.path.bareParents_eq
  have htrimmed := h.path.key.trimmed
  have hsingle := h.path.single
  have houter := h.outer
  have haround := h.around
  obtain ⟨⟨parents, name, raw, ⟨before, after⟩, outer, place⟩, literal, around⟩ := l
  obtain ⟨outer, rfl⟩ := Option.isSome_iff_exists.mp houter
  obtain ⟨around, rfl⟩ := Option.isSome_iff_exists.mp haround
  dsimp only at hparents htrimmed hsingle
  subst htrimmed
  have hinner : (if parents.isEmpty then "" else before) = before := by
    cases parents with
    | nil => exact (hsingle rfl).symm
    | cons k parents => rfl
  unfold Line.printed Path.printed
  dsimp only
  rw [hparents, hinner]
  rfl

lemma isLegible (h : l.IsRead) : l.IsLegible := by
  refine ⟨?_, h.path.bareParents_eq⟩
  rw [h.printed_eq]
  exact h.written

lemma placed (h : l.IsRead) (i : ℕ) : (l.placed i).IsRead := ⟨⟨h.outer, h.around⟩, h.written⟩

end Line.IsRead

lemma Line.IsRead.of_respells {l l' : Line} (h : l.IsRead) (hl : l'.Respells l)
    (hneat : l'.path.IsNeat true) : l'.IsRead := by
  have hpath := h.path
  have hlength : l'.path.parents.length = l.path.parents.length := by
    have hnames := congrArg List.length hl.parents
    rwa [List.length_map, List.length_map] at hnames
  obtain ⟨⟨parents', key'⟩, literal', around'⟩ := l'
  obtain ⟨⟨parents, key⟩, literal, around⟩ := l
  obtain ⟨-, rfl, rfl, rfl⟩ := hl
  refine ⟨⟨h.outer, h.around⟩, ?_⟩
  have hwritten := h.written
  unfold Line.statement at hwritten ⊢
  cases hwritten with
  | entry hbefore _ houter hl haround hafter =>
    refine .entry hbefore ⟨hneat.parents, hpath.key, fun k hk => hneat.head rfl k hk,
      fun hnil => ?_, ?_⟩
      houter hl haround hafter
    · refine hpath.single (List.eq_nil_of_length_eq_zero ?_)
      dsimp only at hlength hnil
      rw [← hlength, hnil]
      rfl
    · exact lt_of_eq_of_lt hlength hpath.length

namespace Stanza.IsRead

variable {s : Stanza}

lemma path (h : s.IsRead) : s.path.IsWritten := (h.written true).path

lemma isNeat (h : s.IsRead) : s.IsNeat true where
  path := ⟨h.path.parents, fun _ k hk => h.path.first k hk⟩
  key := h.path.key
  single _ := h.path.single
  implicit := h.implicit
  dotted := h.dotted
  lines l hl := (h.lines l hl).isNeat

/-- A stanza that was read is printed as it is. -/
lemma printed_eq (h : s.IsRead) : s.printed = s := by
  have hparents := h.path.bareParents_eq
  have htrimmed := h.path.key.trimmed
  have hsingle := h.path.single
  have hplace := h.path.key.place
  obtain ⟨o, houter, -⟩ := h.path.key.outer
  have hlines := h.lines
  obtain ⟨⟨parents, name, raw, ⟨before, after⟩, outer, place⟩, repeated, head, lines⟩ := s
  dsimp only at hparents htrimmed hsingle hplace houter hlines
  subst htrimmed hplace houter
  have hinner : (if parents.isEmpty then "" else before) = before := by
    cases parents with
    | nil => exact (hsingle rfl).symm
    | cons k parents => rfl
  have hsame : lines.map Line.printed = lines :=
    (List.map_congr_left fun l hl => (hlines l hl).printed_eq).trans (List.map_id _)
  unfold Stanza.printed Path.printed Path.unplaced
  dsimp only
  rw [hparents, hinner, hsame]
  rfl

lemma isLegible (h : s.IsRead) : s.IsLegible where
  written first := by
    rw [h.printed_eq]
    exact h.written first
  parents := h.path.bareParents_eq
  trimmed := h.path.key.trimmed
  single := h.path.single
  lines l hl := (h.lines l hl).isLegible

end Stanza.IsRead

lemma isRead_of_mem_placedLines {lines : List Line} (h : ∀ l ∈ lines, l.IsRead) {i : ℕ} :
    ∀ l ∈ placedLines i lines, l.IsRead := by
  induction lines generalizing i with
  | nil => exact nofun
  | cons l lines ih =>
    obtain ⟨hl, hlines⟩ := List.forall_mem_cons.mp h
    exact List.forall_mem_cons.mpr ⟨hl.placed i, ih hlines⟩

lemma isRead_of_mem_placed {stanzas : List Stanza} (h : ∀ s ∈ stanzas, s.IsRead) {first : Bool}
    {i : ℕ} : ∀ s ∈ Stanza.placed first i stanzas, s.IsRead := by
  induction stanzas generalizing first i with
  | nil => exact nofun
  | cons s stanzas ih =>
    obtain ⟨hs, hstanzas⟩ := List.forall_mem_cons.mp h
    refine List.forall_mem_cons.mpr ⟨⟨fun first' => ?_, rfl, rfl, rfl,
      isRead_of_mem_placedLines hs.lines⟩, ih hstanzas⟩
    exact hs.written first

lemma forall_mem_of_forall₂ {α : Type*} {R : α → α → Prop} {P Q : α → Prop}
    (hR : ∀ a' a, R a' a → P a → Q a' → P a') {l' l : List α} (h : List.Forall₂ R l' l)
    (hP : ∀ a ∈ l, P a) (hQ : ∀ a ∈ l', Q a) : ∀ a ∈ l', P a := by
  induction h with
  | nil => exact nofun
  | cons hab _ ih =>
    obtain ⟨hP₁, hP⟩ := List.forall_mem_cons.mp hP
    obtain ⟨hQ₁, hQ⟩ := List.forall_mem_cons.mp hQ
    exact List.forall_mem_cons.mpr ⟨hR _ _ hab hP₁ hQ₁, ih hP hQ⟩

lemma Stanza.IsRead.of_respells {s s' : Stanza} (h : s.IsRead) (hs : s'.Respells s)
    (hneat : s'.IsNeat true) : s'.IsRead := by
  have hlength : s'.path.parents.length = s.path.parents.length := by
    have hnames := congrArg List.length hs.parents
    rwa [List.length_map, List.length_map] at hnames
  have hpath : s'.path.IsWritten :=
    ⟨hneat.path.parents, hneat.key, hneat.path.head rfl, hneat.single rfl,
      lt_of_eq_of_lt hlength h.path.length⟩
  refine ⟨fun first => ?_, by rw [hs.head]; exact h.around, hneat.implicit, hneat.dotted,
    fun l' hl' => ?_⟩
  · have hwritten := h.written first
    unfold Stanza.header at hwritten ⊢
    rw [hs.head]
    cases hwritten with
    | header hbefore _ hafter => exact .header hbefore hpath hafter
  · exact forall_mem_of_forall₂ (fun _ _ hl hread hneat => hread.of_respells hl hneat) hs.lines
      h.lines hneat.lines l' hl'

/-! ### Statements -/

/-- Statements that can be read again are those of lines and stanzas. -/
lemma exists_pieces_of_statements {statements : List Statement}
    (hall : ∀ st ∈ statements, st.IsWritten) : ∃ (lines : List Line) (stanzas : List Stanza),
      (∀ first, statements = lines.map Line.statement ++ Stanza.statements first stanzas) ∧
      (∀ l ∈ lines, l.IsRead) ∧ ∀ s ∈ stanzas, s.IsRead := by
  induction statements with
  | nil => exact ⟨[], [], fun _ => rfl, nofun, nofun⟩
  | cons st statements ih =>
    obtain ⟨hst, hmore⟩ := List.forall_mem_cons.mp hall
    obtain ⟨lines, stanzas, hstatements, hlines, hstanzas⟩ := ih hmore
    cases hst with
    | @entry before path l around hbefore hpath houter hl haround hafter =>
      obtain ⟨o, ho, -⟩ := hpath.key.outer
      have hplace := hpath.key.place
      have hnone := houter o ho
      let line : Line := ⟨⟨path.parents, { path.key with outer := some ⟨before, o.after⟩ }⟩, l,
        some around⟩
      have hline : line.statement = .entry before path l around := by
        obtain ⟨parents, name, raw, inner, outer, place⟩ := path
        obtain ⟨obefore, oafter⟩ := o
        dsimp only at ho hplace hnone
        subst ho hplace hnone
        rfl
      refine ⟨line :: lines, stanzas, fun first => ?_, List.forall_mem_cons.mpr ⟨⟨⟨rfl, rfl⟩, ?_⟩,
        hlines⟩, hstanzas⟩
      · rw [List.map_cons, hline, List.cons_append, ← hstatements first]
      · rw [hline]
        exact .entry hbefore hpath houter hl haround hafter
    | @header before after repeated path hbefore hpath hafter =>
      refine ⟨[], ⟨path, repeated, { around := some ⟨before, after⟩ }, lines⟩ :: stanzas,
        fun first => ?_, nofun, List.forall_mem_cons.mpr ⟨?_, hstanzas⟩⟩
      · rw [Stanza.statements, ← hstatements false]
        rfl
      · exact ⟨fun _ => .header hbefore hpath hafter, rfl, rfl, rfl, hlines⟩

/-! ### Documents -/

/-- No key with dots under a header of a text goes on in a table that is there already. TOML forbids
that it does: such a table has another header. The reader sees it only if the header is the table's
own, or the table is the last of the path. -/
def Document.IsFresh (text : String) : Prop :=
  ∀ statements after start,
    statements? ((dropMark text.toList).length + 1) (dropMark text.toList) =
      some (statements, after) →
    Entries.putAll? (sections (statements.zipIdx 1)).1 [] = some start →
    AreFresh (sections (statements.zipIdx 1)).2 start

/-- A text without keys with dots under its headers is fresh. -/
lemma Document.isFresh_of_single {text : String}
    (h : (statements? ((dropMark text.toList).length + 1) (dropMark text.toList)).all fun read =>
      (sections (read.1.zipIdx 1)).2.all fun s => s.body.all fun m => m.1.parents.isEmpty) :
    IsFresh text := by
  intro statements after start hstatements _
  rw [hstatements, Option.all_some] at h
  refine areFresh_of_single (fun s hs m hm => ?_) start
  have hempty := List.all_eq_true.mp (List.all_eq_true.mp h s hs) m hm
  exact List.isEmpty_iff.mp hempty

/-- A document that was read: it is printed as the pieces that it is made of, which can be read
again. -/
structure Document.IsRead (d : Document) : Prop where
  makes : Makes d.pieces d.entries
  rising : AreRising d.lines d.stanzas
  lines : ∀ l ∈ d.lines, l.IsRead
  stanzas : ∀ s ∈ d.stanzas, s.IsRead
  after : IsTail d.after
  values : ∃ entries, Entries.addAll? d.pieces [] = some entries ∧
    entries.unspelled = d.entries.unspelled

lemma Rising.of_map_eq {α : Type*} {place : α → Option ℕ} {l l' : List α} (h : Rising place l)
    (heq : l'.map place = l.map place) : Rising place l' := by
  constructor
  · intro a ha
    have hmem : place a ∈ l.map place := heq ▸ List.mem_map_of_mem ha
    obtain ⟨b, hb, hplace⟩ := List.mem_map.mp hmem
    rw [← hplace]
    exact h.placed b hb
  · have hpairs : (l.map place).Pairwise fun o p => ∀ i j, o = some i → p = some j → i < j :=
      List.pairwise_map.mpr h.rising
    rw [← heq] at hpairs
    exact List.pairwise_map.mp hpairs

/-- Lines and stanzas that are spelled anew keep their places. -/
lemma AreRising.of_respells {lines lines' : List Line} {stanzas stanzas' : List Stanza}
    (h : AreRising lines stanzas) (hlines : List.Forall₂ Line.Respells lines' lines)
    (hstanzas : List.Forall₂ Stanza.Respells stanzas' stanzas) : AreRising lines' stanzas' := by
  have hplaces : ∀ {lines' lines : List Line}, List.Forall₂ Line.Respells lines' lines →
      lines'.map Line.place = lines.map Line.place :=
    fun h => map_eq_of_forall₂ (fun _ _ hl => congrArg Key.place hl.key) h
  refine ⟨h.front.of_map_eq (hplaces hlines), h.headers.of_map_eq
    (map_eq_of_forall₂ (fun _ _ hs => congrArg Head.place hs.head) hstanzas), ?_⟩
  have hinner := h.inner
  clear h
  induction hstanzas with
  | nil => exact nofun
  | cons hs _ ih =>
    obtain ⟨hfirst, hrest⟩ := List.forall_mem_cons.mp hinner
    exact List.forall_mem_cons.mpr ⟨hfirst.of_map_eq (hplaces hs.lines), ih hrest⟩

/-- **What a document is read from.** A document that is read from a fresh text is printed as the
pieces that it is made of. -/
theorem Document.isRead_of_parse? {text : String} {d : Document} (h : parse? text = some d)
    (hfresh : IsFresh text) : d.IsRead := by
  unfold parse? at h
  obtain ⟨⟨statements, after⟩, hstatements, h⟩ := Option.bind_eq_some_iff.mp h
  obtain ⟨start, hstart, h⟩ := Option.bind_eq_some_iff.mp h
  obtain ⟨entries, hentries, h⟩ := Option.bind_eq_some_iff.mp h
  obtain rfl := Option.some.inj h
  obtain ⟨hall, htail⟩ := isWritten_of_statements? hstatements
  obtain ⟨lines₀, stanzas₀, heq, hlines₀, hstanzas₀⟩ := exists_pieces_of_statements hall
  have hsections := sections_statements (fun l hl => (hlines₀ l hl).toIsPrinted)
    (fun s hs l hl => ((hstanzas₀ s hs).lines l hl).toIsPrinted) true 1
  rw [← heq true] at hsections
  have hfresh := hfresh statements after start hstatements hstart
  rw [hsections] at hstart hentries hfresh
  have hlines : ∀ l ∈ placedLines 1 lines₀, l.IsRead := isRead_of_mem_placedLines hlines₀
  have hstanzas : ∀ s ∈ Stanza.placed true (1 + lines₀.length) stanzas₀, s.IsRead :=
    isRead_of_mem_placed hstanzas₀
  have hrising : AreRising (placedLines 1 lines₀)
    (Stanza.placed true (1 + lines₀.length) stanzas₀) :=
    ⟨rising_placedLines _ _, rising_placed _ _ _, fun s hs => rising_lines_of_mem_placed hs⟩
  generalize placedLines 1 lines₀ = lines at *
  generalize Stanza.placed true (1 + lines₀.length) stanzas₀ = stanzas at *
  dsimp only at hstart hentries hfresh
  rw [Entries.putAll?_member] at hstart
  rw [Entries.foldlM_addSection?] at hentries
  obtain ⟨lines', stanzas', hmakes, hlines', hstanzas', hneat, hneat'⟩ := exists_makes_of_addAll?
    (fun l hl => (hlines l hl).isNeat) (fun s hs => (hstanzas s hs).isNeat) hstart hfresh hentries
  have hrising' := hrising.of_respells hlines' hstanzas'
  obtain ⟨hfront, hheaders, -⟩ := Document.layout_of_makes (d := ⟨entries, after⟩) hmakes hrising'
  have hpieces : Document.pieces ⟨entries, after⟩ =
      lines'.map Piece.line ++ stanzas'.map Piece.stanza := by
    rw [pieces, Document.lines, hfront, hheaders]
  have hadd : Entries.addAll? (lines.map Piece.line ++ stanzas.map Piece.stanza) [] =
      some entries := by
    rw [Entries.addAll?_append, hstart]
    exact hentries
  have hrespells : List.Forall₂ Piece.Respells (lines'.map Piece.line ++ stanzas'.map Piece.stanza)
      (lines.map Piece.line ++ stanzas.map Piece.stanza) :=
    List.rel_append (Piece.Rel.map_line hlines') (Piece.Rel.map_stanza hstanzas')
  refine ⟨?_, ?_, ?_, ?_, htail, ?_⟩
  · rw [hpieces]
    exact hmakes
  · rw [Document.lines, hfront, hheaders]
    exact hrising'
  · rw [Document.lines, hfront]
    exact forall_mem_of_forall₂ (fun _ _ hl hread hneat => hread.of_respells hl hneat)
      hlines' hlines
      hneat
  · rw [hheaders]
    exact forall_mem_of_forall₂ (fun _ _ hs hread hneat => hread.of_respells hs hneat) hstanzas'
      hstanzas hneat'
  · rw [hpieces]
    exact Entries.exists_addAll?_of_unspelled hadd
      (map_eq_of_forall₂ (fun _ _ hp => Piece.Respells.unspelled_eq hp) hrespells)

end CrudScaffold.Toml
