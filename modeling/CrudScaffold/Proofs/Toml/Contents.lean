import Mathlib.Data.Multiset.Basic
import CrudScaffold.Proofs.Toml.Making

/-!
# A table has the lines and stanzas that it is made of

The lines of a table that pieces make are the lines among these pieces, and its blocks that have a
header are the stanzas among them, each with its lines in some order (`Toml.Makes.perm_lines`,
`Toml.Makes.perm_stanzas`). The order is that of the places, which is told elsewhere.
-/

namespace CrudScaffold.Toml

/-! ### Lines and stanzas among pieces -/

namespace Piece

/-- The line that a piece is. -/
def line? : Piece → Option Line
  | line l => some l
  | stanza _ => none

/-- The stanza that a piece is. -/
def stanza? : Piece → Option Stanza
  | line _ => none
  | stanza s => some s

end Piece

/-- The lines among pieces. -/
def linesIn (pieces : List Piece) : List Line := pieces.filterMap Piece.line?

/-- The stanzas among pieces. -/
def stanzasIn (pieces : List Piece) : List Stanza := pieces.filterMap Piece.stanza?

section PiecesIn

variable (pieces more : List Piece) (lines : List Line) (stanzas : List Stanza) (key : Key)

@[simp] lemma linesIn_append : linesIn (pieces ++ more) = linesIn pieces ++ linesIn more :=
  List.filterMap_append

@[simp] lemma stanzasIn_append : stanzasIn (pieces ++ more) = stanzasIn pieces ++ stanzasIn more :=
  List.filterMap_append

@[simp] lemma linesIn_map_line : linesIn (lines.map Piece.line) = lines := by
  rw [linesIn, List.filterMap_map]
  exact List.filterMap_some

@[simp] lemma linesIn_map_stanza : linesIn (stanzas.map Piece.stanza) = [] := by
  rw [linesIn, List.filterMap_map]
  exact List.filterMap_eq_nil_iff.mpr fun _ _ => rfl

@[simp] lemma stanzasIn_map_line : stanzasIn (lines.map Piece.line) = [] := by
  rw [stanzasIn, List.filterMap_map]
  exact List.filterMap_eq_nil_iff.mpr fun _ _ => rfl

@[simp] lemma stanzasIn_map_stanza : stanzasIn (stanzas.map Piece.stanza) = stanzas := by
  rw [stanzasIn, List.filterMap_map]
  exact List.filterMap_some

lemma linesIn_map_under :
    linesIn (pieces.map (Piece.under key)) = (linesIn pieces).map (Line.under [key.bare]) := by
  rw [linesIn, linesIn, List.filterMap_map, List.map_filterMap]
  exact List.filterMap_congr fun p _ => by cases p <;> rfl

lemma stanzasIn_map_under :
    stanzasIn (pieces.map (Piece.under key)) = (stanzasIn pieces).map (Stanza.under key) := by
  rw [stanzasIn, stanzasIn, List.filterMap_map, List.map_filterMap]
  exact List.filterMap_congr fun p _ => by cases p <;> rfl

end PiecesIn

/-- Pieces can be sorted by their names. -/
lemma perm_flatMap_piecesOf {names : List String} (hnodup : names.Nodup) {pieces : List Piece}
    (hnames : ∀ p ∈ pieces, p.name ∈ names) :
    (names.flatMap fun name => piecesOf name pieces).Perm pieces := by
  induction names generalizing pieces with
  | nil =>
    have hnil : pieces = [] := List.eq_nil_iff_forall_not_mem.mpr fun p hp => nomatch hnames p hp
    rw [hnil]
    exact .nil
  | cons name names ih =>
    obtain ⟨hname, hnodup⟩ := List.nodup_cons.mp hnodup
    let others := pieces.filter fun p => !decide (p.name = name)
    have hothers : ∀ p ∈ others, p.name ∈ names := by
      intro p hp
      obtain ⟨hp, hne⟩ := List.mem_filter.mp hp
      exact (List.mem_cons.mp (hnames p hp)).resolve_left (by simpa using hne)
    have hsame : (names.flatMap fun n => piecesOf n pieces) =
        names.flatMap fun n => piecesOf n others := by
      refine List.flatMap_congr fun n hn => ?_
      rw [piecesOf, piecesOf, List.filter_filter]
      refine List.filter_congr fun p _ => ?_
      by_cases hp : p.name = n
      · have hne : n ≠ name := fun he => hname (he ▸ hn)
        simp [hp, hne]
      · simp [hp]
    rw [List.flatMap_cons, hsame]
    exact ((ih hnodup hothers).append_left _).trans (List.filter_append_perm _ pieces)

/-! ### Lines -/

/-- A path with its keys as they are written in front of others. -/
def Path.bare (p : Path) : Path := ⟨p.parents.map Key.bare, p.key⟩

/-- A line with the keys of its path as they are written in front of others. -/
def Line.bare (l : Line) : Line := { l with path := l.path.bare }

lemma map_bare_linesOf (key : Key) (entries : Entries) :
    (linesOf [key] entries).map Line.bare =
      ((linesOf [] entries).map Line.bare).map (Line.under [key.bare]) := by
  rw [linesOf_eq_map, List.map_map, List.map_map]
  rfl

lemma perm_lines :
    (∀ {pieces : List Piece} {entries : Entries}, Makes pieces entries →
      ((linesOf [] entries).map Line.bare).Perm (linesIn pieces)) ∧
    ∀ {pieces : List Piece} {key : Key} {item : Item}, MakesItem pieces key item →
      ((item.lines [] key).map Line.bare).Perm (linesIn pieces) := by
  refine @makes_induction
    (fun pieces entries => ((linesOf [] entries).map Line.bare).Perm (linesIn pieces))
    (fun pieces key item => ((item.lines [] key).map Line.bare).Perm (linesIn pieces))
    ?mk ?value ?dotted ?implicit ?headed ?first ?more
  case mk =>
    intro pieces entries hnodup hnames _ ih
    have hgroup : (entries.names.flatMap fun name => linesIn (piecesOf name pieces)).Perm
        (linesIn pieces) := by
      have h := (perm_flatMap_piecesOf hnodup hnames).filterMap Piece.line?
      rwa [List.filterMap_flatMap] at h
    rw [linesOf_eq_flatMap, List.map_flatMap]
    refine (List.Perm.flatMap_left _ ih).trans (.trans (.of_eq ?_) hgroup)
    rw [Entries.names, List.flatMap_map]
  case value =>
    intro key literal around
    exact .refl _
  case dotted =>
    intro key l pieces inner _ ih
    rw [linesIn_map_under]
    change ((linesOf [key] inner).map Line.bare).Perm _
    rw [map_bare_linesOf]
    exact ih.map _
  case implicit =>
    intro key stanzas inner _ _ _ _
    rw [linesIn_map_under, linesIn_map_stanza]
    exact .nil
  case headed =>
    intro key s before behind inner _ _ hdotted _ _ _
    have hnone : linesIn [Piece.stanza s] = [] := rfl
    rw [List.append_cons, linesIn_append, linesIn_append, linesIn_map_under, linesIn_map_under,
      linesIn_map_stanza, linesIn_map_stanza, hnone, Item.lines, if_neg (by simp [hdotted])]
    exact .nil
  case first =>
    intro key s behind inner _ _ _ _
    have hnone : linesIn (Piece.stanza s :: (behind.map Piece.stanza).map (Piece.under key)) =
        linesIn ((behind.map Piece.stanza).map (Piece.under key)) := rfl
    rw [hnone, linesIn_map_under, linesIn_map_stanza]
    exact .nil
  case more =>
    intro key pieces members s behind inner _ ih _ _ _ _
    have hnone : linesIn (Piece.stanza s :: (behind.map Piece.stanza).map (Piece.under key)) =
        linesIn ((behind.map Piece.stanza).map (Piece.under key)) := rfl
    rw [linesIn_append, hnone, linesIn_map_under, linesIn_map_stanza, List.map_nil, List.append_nil]
    exact ih

/-- A table has the lines among the pieces that make it. -/
lemma Makes.perm_lines {pieces : List Piece} {entries : Entries} (h : Makes pieces entries) :
    ((linesOf [] entries).map Line.bare).Perm (linesIn pieces) := Toml.perm_lines.1 h

lemma MakesItem.perm_lines {pieces : List Piece} {key : Key} {item : Item}
    (h : MakesItem pieces key item) : ((item.lines [] key).map Line.bare).Perm (linesIn pieces) :=
  Toml.perm_lines.2 h

/-! ### Blocks under keys -/

/-- A block under more keys. -/
def Block.under (keys : List Key) (b : Block) : Block :=
  { b with path := b.path.map fun path => ⟨keys ++ path.parents, path.key⟩ }

mutual

lemma Item.blocks_append (parents more : List Key) (key : Key) (item : Item) :
    item.blocks (parents ++ more) key = (item.blocks more key).map (Block.under parents) := by
  match item with
  | .value literal around => rfl
  | .table head entries =>
    have h := blocksOf_append parents (more ++ [key]) entries
    rw [Item.blocks, Item.blocks, List.map_append, List.append_assoc, h]
    split <;> rfl
  | .tables members => exact memberBlocks_append parents more key members

lemma blocksOf_append (parents more : List Key) (entries : List (Key × Item)) :
    blocksOf (parents ++ more) entries = (blocksOf more entries).map (Block.under parents) := by
  match entries with
  | [] => rfl
  | (key, item) :: rest =>
    rw [blocksOf, blocksOf, List.map_append, Item.blocks_append parents more key item,
      blocksOf_append parents more rest]

lemma memberBlocks_append (parents more : List Key) (key : Key)
    (members : List (Head × List (Key × Item))) :
    memberBlocks (parents ++ more) key members =
      (memberBlocks more key members).map (Block.under parents) := by
  match members with
  | [] => rfl
  | (head, entries) :: rest =>
    have h := blocksOf_append parents (more ++ [key]) entries
    rw [memberBlocks, memberBlocks, List.map_append, List.map_append, List.append_assoc parents, h,
      memberBlocks_append parents more key rest]
    rfl

end

lemma blocksOf_eq_map (parents : List Key) (entries : Entries) :
    blocksOf parents entries = (blocksOf [] entries).map (Block.under parents) := by
  have h := blocksOf_append parents [] entries
  rw [List.append_nil] at h
  exact h

lemma blocksOf_eq_flatMap (parents : List Key) (entries : Entries) :
    blocksOf parents entries = entries.flatMap fun e => e.2.blocks parents e.1 := by
  induction entries with
  | nil => rfl
  | cons e entries ih =>
    obtain ⟨key, item⟩ := e
    rw [blocksOf, ih, List.flatMap_cons]

lemma memberBlocks_concat (parents : List Key) (key : Key) (members : List (Head × Entries))
    (head : Head) (inner : Entries) :
    memberBlocks parents key (members ++ [(head, inner)]) = memberBlocks parents key members ++
      (⟨some ⟨parents, key⟩, true, head, Entries.lines inner⟩ ::
        blocksOf (parents ++ [key]) inner) := by
  induction members with
  | nil =>
    rw [List.nil_append, memberBlocks, memberBlocks, memberBlocks, List.append_nil, List.nil_append]
    rfl
  | cons m members ih =>
    obtain ⟨head', inner'⟩ := m
    rw [List.cons_append, memberBlocks, memberBlocks, ih]
    simp only [List.append_assoc]

/-! ### Stanzas -/

/-- The stanza of a block that has a header, with the keys of all paths as they are written in front
of others. -/
def Block.plain? (b : Block) : Option Stanza :=
  b.path.bind fun path =>
    if b.hasHeader then
      some ⟨path.bare, b.repeated, b.head, b.lines.map Line.bare⟩
    else none

/-- What there is to a stanza but for the order of its lines. -/
def Stanza.loose (s : Stanza) : Path × Bool × Head × Multiset Line :=
  (s.path, s.repeated, s.head, s.lines)

/-- The stanzas of blocks are those of a list, each with its lines in some order. -/
def HaveStanzas (blocks : List Block) (stanzas : List Stanza) : Prop :=
  ((blocks.filterMap Block.plain?).map Stanza.loose).Perm (stanzas.map Stanza.loose)

lemma Block.plain?_under (key : Key) (b : Block) :
    (b.under [key]).plain? = b.plain?.map (Stanza.under key) := by
  obtain ⟨_ | path, repeated, head, lines⟩ := b
  · rfl
  · change (if (⟨some path, repeated, head, lines⟩ : Block).hasHeader then _ else none) =
      Option.map _ (if (⟨some path, repeated, head, lines⟩ : Block).hasHeader then _ else none)
    split <;> rfl

namespace HaveStanzas

variable {blocks more : List Block} {stanzas stanzas' : List Stanza}

lemma append (h : HaveStanzas blocks stanzas) (h' : HaveStanzas more stanzas') :
    HaveStanzas (blocks ++ more) (stanzas ++ stanzas') := by
  unfold HaveStanzas
  rw [List.filterMap_append, List.map_append, List.map_append]
  exact List.Perm.append h h'

lemma under (h : HaveStanzas blocks stanzas) (key : Key) :
    HaveStanzas (blocks.map (Block.under [key])) (stanzas.map (Stanza.under key)) := by
  have hloose : Stanza.loose ∘ Stanza.under key =
      (fun x => (⟨key.bare :: x.1.parents, x.1.key⟩, x.2)) ∘ Stanza.loose := rfl
  have hplain : (blocks.map (Block.under [key])).filterMap Block.plain? =
      (blocks.filterMap Block.plain?).map (Stanza.under key) := by
    rw [List.filterMap_map, List.map_filterMap]
    exact List.filterMap_congr fun b _ => b.plain?_under key
  unfold HaveStanzas
  rw [hplain, List.map_map, List.map_map, hloose, ← List.map_map, ← List.map_map]
  exact List.Perm.map _ h

/-- A block with a header has the stanza of that header with the lines of the block. -/
lemma single {key : Key} {s : Stanza} {lines : List Line} (hpath : s.path = ⟨[], key⟩)
    (hheader : s.repeated ∨ (s.head.implicit → s.lines ≠ []))
    (hlines : (lines.map Line.bare).Perm s.lines) :
    HaveStanzas [⟨some ⟨[], key⟩, s.repeated, s.head, lines⟩] [s] := by
  have hhas : (⟨some ⟨[], key⟩, s.repeated, s.head, lines⟩ : Block).hasHeader := by
    rw [Block.hasHeader, Bool.or_eq_true]
    refine hheader.imp id fun himplicit => ?_
    have hempty : lines = [] → s.lines = [] := by
      rintro rfl
      exact List.perm_nil.mp hlines.symm
    cases hhead : s.head.implicit with
    | false => rfl
    | true => simpa using fun h => himplicit hhead (hempty h)
  have hplain : (⟨some ⟨[], key⟩, s.repeated, s.head, lines⟩ : Block).plain? =
      some ⟨⟨[], key⟩, s.repeated, s.head, lines.map Line.bare⟩ := by
    rw [Block.plain?, Option.bind_some, if_pos hhas]
    rfl
  unfold HaveStanzas
  rw [List.filterMap_cons, hplain, List.filterMap_nil, List.map_singleton, List.map_singleton,
    Stanza.loose, Stanza.loose, hpath, Multiset.coe_eq_coe.mpr hlines]

end HaveStanzas

/-- The lines of a table in the order they are printed. -/
lemma Makes.perm_lines_bare {pieces : List Piece} {entries : Entries} (h : Makes pieces entries) :
    ((Entries.lines entries).map Line.bare).Perm (linesIn pieces) :=
  ((List.mergeSort_perm _ _).map _).trans h.perm_lines

/-- A member of a list of tables has the stanza of its header and those that go on under its
name. -/
lemma HaveStanzas.member {key : Key} {s : Stanza} {behind : List Stanza} {inner : Entries}
    (hpath : s.path = ⟨[], key⟩) (hrepeated : s.repeated = true)
    (h : Makes (s.lines.map .line ++ behind.map .stanza) inner)
    (hinner : HaveStanzas (blocksOf [] inner)
      (stanzasIn (s.lines.map .line ++ behind.map .stanza))) :
    HaveStanzas (⟨some ⟨[], key⟩, true, s.head, Entries.lines inner⟩ :: blocksOf [key] inner)
      (stanzasIn (.stanza s :: (behind.map Piece.stanza).map (Piece.under key))) := by
  have hlines := h.perm_lines_bare
  rw [linesIn_append, linesIn_map_stanza, linesIn_map_line, List.append_nil] at hlines
  have hown := HaveStanzas.single hpath (.inl hrepeated) hlines
  have hall := hown.append (hinner.under key)
  rw [stanzasIn_append, stanzasIn_map_line, stanzasIn_map_stanza, List.nil_append,
    hrepeated] at hall
  have hstanzas : stanzasIn (.stanza s :: (behind.map Piece.stanza).map (Piece.under key)) =
      [s] ++ behind.map (Stanza.under key) := by
    rw [← List.singleton_append, stanzasIn_append, stanzasIn_map_under, stanzasIn_map_stanza]
    rfl
  rw [hstanzas, blocksOf_eq_map]
  exact hall

/-- A table has the stanza of its header and those that go on under its name. -/
lemma HaveStanzas.headed {key : Key} {s : Stanza} {before behind : List Stanza} {inner : Entries}
    (hpath : s.path = ⟨[], key⟩) (hrepeated : s.repeated = false) (hdotted : s.head.dotted = false)
    (himplicit : s.head.implicit → s.lines ≠ [])
    (hmakes : Makes (before.map .stanza ++ s.lines.map .line ++ behind.map .stanza) inner)
    (ih : HaveStanzas (blocksOf [] inner)
      (stanzasIn (before.map .stanza ++ s.lines.map .line ++ behind.map .stanza))) :
    HaveStanzas (Item.blocks [] key (.table s.head inner))
      (stanzasIn ((before.map Piece.stanza).map (Piece.under key) ++
        .stanza s :: (behind.map Piece.stanza).map (Piece.under key))) := by
  have hlines := hmakes.perm_lines_bare
  rw [linesIn_append, linesIn_append, linesIn_map_stanza, linesIn_map_stanza, linesIn_map_line,
    List.append_nil, List.nil_append] at hlines
  have hown := HaveStanzas.single hpath (.inr himplicit) hlines
  have hall := hown.append (ih.under key)
  rw [stanzasIn_append, stanzasIn_append, stanzasIn_map_line, stanzasIn_map_stanza,
    stanzasIn_map_stanza, List.append_nil, hrepeated] at hall
  have hstanzas : stanzasIn ((before.map Piece.stanza).map (Piece.under key) ++
      .stanza s :: (behind.map Piece.stanza).map (Piece.under key)) =
      before.map (Stanza.under key) ++ s :: behind.map (Stanza.under key) := by
    rw [List.append_cons, stanzasIn_append, stanzasIn_append, stanzasIn_map_under,
      stanzasIn_map_under, stanzasIn_map_stanza, stanzasIn_map_stanza, List.append_cons _ s]
    rfl
  rw [hstanzas, Item.blocks, if_neg (by simp [hdotted]), List.nil_append, blocksOf_eq_map]
  unfold HaveStanzas at hall ⊢
  refine hall.trans (.map _ ?_)
  rw [List.map_append, List.singleton_append]
  exact List.perm_middle.symm

lemma perm_stanzas :
    (∀ {pieces : List Piece} {entries : Entries}, Makes pieces entries →
      HaveStanzas (blocksOf [] entries) (stanzasIn pieces)) ∧
    ∀ {pieces : List Piece} {key : Key} {item : Item}, MakesItem pieces key item →
      HaveStanzas (item.blocks [] key) (stanzasIn pieces) := by
  refine @makes_induction
    (fun pieces entries => HaveStanzas (blocksOf [] entries) (stanzasIn pieces))
    (fun pieces key item => HaveStanzas (item.blocks [] key) (stanzasIn pieces))
    ?mk ?value ?dotted ?implicit ?headed ?first ?more
  case mk =>
    intro pieces entries hnodup hnames _ ih
    have hgroup : (entries.names.flatMap fun name => stanzasIn (piecesOf name pieces)).Perm
        (stanzasIn pieces) := by
      have h := (perm_flatMap_piecesOf hnodup hnames).filterMap Piece.stanza?
      rwa [List.filterMap_flatMap] at h
    unfold HaveStanzas at ih ⊢
    rw [blocksOf_eq_flatMap, List.filterMap_flatMap, List.map_flatMap]
    refine (List.Perm.flatMap_left _ ih).trans (.trans (.of_eq ?_) (hgroup.map _))
    rw [Entries.names, List.flatMap_map, List.map_flatMap]
  case value =>
    intro key literal around
    exact .nil
  case dotted =>
    intro key l pieces inner _ ih
    rw [stanzasIn_map_under]
    change HaveStanzas (blocksOf [key] inner) _
    rw [blocksOf_eq_map]
    exact ih.under key
  case implicit =>
    intro key stanzas inner _ _ hmakes ih
    -- such a table has no lines, so it has no header
    have hlines : Entries.lines inner = [] := by
      have h := hmakes.perm_lines_bare
      rw [linesIn_map_stanza] at h
      exact List.map_eq_nil_iff.mp (List.perm_nil.mp h)
    have hnone : HaveStanzas [⟨some ⟨[], key⟩, false, { implicit := true }, []⟩] [] := .nil
    rw [stanzasIn_map_under]
    change HaveStanzas ([⟨some ⟨[], key⟩, false, { implicit := true }, Entries.lines inner⟩] ++
      blocksOf [key] inner) _
    rw [blocksOf_eq_map, hlines]
    exact hnone.append (ih.under key)
  case headed =>
    intro key s before behind inner hpath hrepeated hdotted himplicit hmakes ih
    exact .headed hpath hrepeated hdotted himplicit hmakes ih
  case first =>
    intro key s behind inner hpath hrepeated hmakes ih
    have hall := HaveStanzas.member hpath hrepeated hmakes ih
    change HaveStanzas (_ ++ []) _
    rw [List.append_nil]
    exact hall
  case more =>
    intro key pieces members s behind inner _ ihmembers hpath hrepeated hmakes ih
    have hall := HaveStanzas.member hpath hrepeated hmakes ih
    rw [stanzasIn_append]
    change HaveStanzas (memberBlocks [] key (members ++ [(s.head, inner)])) _
    rw [memberBlocks_concat]
    exact ihmembers.append hall

/-- A table has the stanzas among the pieces that make it. -/
lemma Makes.perm_stanzas {pieces : List Piece} {entries : Entries} (h : Makes pieces entries) :
    HaveStanzas (blocksOf [] entries) (stanzasIn pieces) := Toml.perm_stanzas.1 h

lemma MakesItem.perm_stanzas {pieces : List Piece} {key : Key} {item : Item}
    (h : MakesItem pieces key item) : HaveStanzas (item.blocks [] key) (stanzasIn pieces) :=
  Toml.perm_stanzas.2 h

end CrudScaffold.Toml
