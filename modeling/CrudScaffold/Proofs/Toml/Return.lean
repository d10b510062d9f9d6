import CrudScaffold.Proofs.Toml.Lookup

/-!
# Documents with new lines are read again

An entry of a document comes back if what is printed of it makes it, can be read again and then has
the same values (`Toml.Returns`). Entries of a document that was read come back, also with new
lines, and so do new tables. A document whose entries all come back is read again with the same
values (`Toml.Document.exists_reread_of_returns`).
-/

namespace CrudScaffold.Toml

/-! ### What can be read again -/

/-- A piece that can be printed and read again. -/
def Piece.IsLegible : Piece → Prop
  | line l => l.IsLegible
  | stanza s => s.IsLegible

/-- A piece as the reader of documents gives it. -/
def Piece.IsRead : Piece → Prop
  | line l => l.IsRead
  | stanza s => s.IsRead

lemma Piece.IsRead.isLegible {p : Piece} (h : p.IsRead) : p.IsLegible := by
  cases p with
  | line l => exact Line.IsRead.isLegible h
  | stanza s => exact Stanza.IsRead.isLegible h

lemma Piece.IsRead.isPlain {p : Piece} (h : p.IsRead) : p.IsPlain := by
  cases p with
  | line l => trivial
  | stanza s => exact ⟨h.implicit, h.dotted⟩

/-- What a piece puts into the table of its name has plain headers if the piece has. -/
lemma Piece.IsPlain.inside {p : Piece} (h : p.IsPlain) : ∀ q ∈ p.inside, q.IsPlain := by
  intro q hq
  match p, h, hq with
  | .line ⟨⟨_ :: _, _⟩, _, _⟩, _, hq => rw [List.mem_singleton.mp hq]; trivial
  | .stanza ⟨⟨[], _⟩, _, _, lines⟩, _, hq =>
    obtain ⟨l, -, rfl⟩ := List.mem_map.mp hq
    trivial
  | .stanza ⟨⟨_ :: _, _⟩, _, _, _⟩, h, hq => rw [List.mem_singleton.mp hq]; exact h

/-- The keys in front of others in a path that was read are spelled. -/
lemma Piece.IsRead.bare {p : Piece} {key : Key} (h : (p.under key).IsRead) :
    key.bare.IsInner ∧ key.inner.before = "" := by
  cases p with
  | line l =>
    have hpath := Line.IsRead.path h
    exact ⟨hpath.parents key.bare List.mem_cons_self, hpath.first key.bare rfl⟩
  | stanza s =>
    have hpath := Stanza.IsRead.path h
    exact ⟨hpath.parents key.bare List.mem_cons_self, hpath.first key.bare rfl⟩

lemma isRear_empty : IsRear "" := by
  have hread : lineRest? ['\n'] = some ("", []) := rfl
  exact isRear_of_lineRest? hread

/-- In front of a header that never was written stands nothing or an empty line. -/
lemma isFront_header (first : Bool) : IsFront (if first then "" else "\n") := by
  have hread : gap ['\n', 'a'] = ("\n", ['a']) := rfl
  cases first with
  | true => exact isFront_empty
  | false => exact isFront_of_gap hread rfl

/-- A line that can be added to a table: a single key that is spelled as its name, and a value that
can be read again. -/
structure Line.IsAddable (l : Line) : Prop where
  path : l.path = ⟨[], .ofWord l.path.key.name⟩
  around : l.around = none
  word : Spells l.path.key.name l.path.key.name
  literal : l.literal.IsStable literal?

lemma areNew_of_isAddable {added : List Line} (h : ∀ l ∈ added, l.IsAddable) : AreNew added := by
  refine ⟨fun l hl => ?_, fun l hl => ?_⟩
  · rw [(h l hl).path]
  · rw [Line.place, (h l hl).path]
    rfl

/-- A line that is added to a table can be read again under keys that can. -/
lemma Line.IsAddable.isLegible {l : Line} (h : l.IsAddable) {parents : List Key}
    (hparents : (⟨parents, l.path.key⟩ : Path).IsNeat true)
    (hlength : parents.length < longestPath) :
    (l.under parents).IsLegible := by
  obtain ⟨⟨own, key⟩, literal, around⟩ := l
  obtain ⟨hpath, haround, hword, hliteral⟩ := h
  dsimp only at hpath haround hword hliteral hparents hlength
  generalize key.name = word at hpath hword
  obtain ⟨rfl, rfl⟩ := Path.mk.inj hpath
  subst haround
  have hspace : IsBlank " " := by
    intro c hc
    rw [List.mem_singleton.mp hc]
    rfl
  have hwritten : (⟨parents, { Key.ofWord word with outer := some ⟨"", " "⟩ }⟩ : Path).IsWritten :=
    { parents := hparents.parents
      key := { raw := hword, before := isBlank_empty, after := isBlank_empty, trimmed := rfl
               outer := ⟨_, rfl, isBlank_empty, hspace⟩, place := rfl }
      first := fun k hk => hparents.head rfl k hk
      single := fun _ => rfl
      length := hlength }
  have hbare : bareParents parents = parents := hwritten.bareParents_eq
  have hsame : parents ++ [] = parents := List.append_nil parents
  have houter : ∀ o, some (⟨"", " "⟩ : Around) = some o → o.before = "" := by
    rintro o ⟨⟩
    rfl
  refine ⟨?_, ?_⟩
  · have hstatement := @Statement.IsWritten.entry "" _ literal ⟨" ", ""⟩ isFront_empty
      hwritten houter
      hliteral hspace isRear_empty
    change (Statement.entry "" ⟨bareParents (parents ++ []), { Key.ofWord word with
      inner := ⟨if (parents ++ []).isEmpty then "" else "", ""⟩
      outer := some ⟨"", " "⟩ }⟩ literal ⟨" ", ""⟩).IsWritten
    rw [hsame, hbare, ite_self]
    exact hstatement
  · change bareParents (parents ++ []) = parents ++ []
    rw [hsame, hbare]

lemma Line.IsAddable.isLegible_self {l : Line} (h : l.IsAddable) : l.IsLegible :=
  @Line.IsAddable.isLegible l h [] ⟨nofun, fun _ => nofun⟩ (Nat.succ_pos 78)

/-- A key that can be that of a header. -/
structure Key.IsTitle (k : Key) : Prop where
  raw : Spells k.raw k.name
  inner : k.inner = ⟨"", ""⟩
  outer : ∀ o, k.outer = some o → IsBlank o.before ∧ IsBlank o.after

lemma Key.isTitle_ofWord {word : String} (h : Spells word word) : (Key.ofWord word).IsTitle :=
  ⟨h, rfl, nofun⟩

/-- A header that never was written can be read again. -/
lemma Key.IsTitle.isLegible {k : Key} (h : k.IsTitle) {head : Head} (haround : head.around = none)
    {lines : List Line} (hlines : ∀ l ∈ lines, l.IsLegible) :
    Stanza.IsLegible ⟨⟨[], k⟩, false, head, lines⟩ := by
  have hblank : IsBlank (k.outer.getD ⟨"", ""⟩).before ∧ IsBlank (k.outer.getD ⟨"", ""⟩).after := by
    cases houter : k.outer with
    | none => exact ⟨isBlank_empty, isBlank_empty⟩
    | some o => exact h.outer o houter
  refine ⟨fun first => ?_, rfl, by rw [h.inner], fun _ => by rw [h.inner], hlines⟩
  have hwritten : (⟨[], { k with inner := ⟨"", ""⟩, outer := some (k.outer.getD ⟨"", ""⟩)
                                 place := none }⟩ : Path).IsWritten :=
    { parents := nofun
      key := { raw := h.raw, before := isBlank_empty, after := isBlank_empty, trimmed := rfl
               outer := ⟨_, rfl, hblank⟩, place := rfl }
      first := nofun
      single := fun _ => rfl
      length := Nat.succ_pos 78 }
  have hstatement := @Statement.IsWritten.header (if first then "" else "\n") "" false _
    (isFront_header first) hwritten isRear_empty
  unfold Stanza.header
  dsimp only [Stanza.printed]
  rw [haround, Option.getD_none]
  exact hstatement

/-! ### Entries that come back -/

/-- An entry comes back: what is printed of it makes it and can be read again, and has the same
values then. A table stays a table. -/
structure Returns (printed : List Piece) (e : Key × Item) : Prop where
  makes : MakesItem printed e.1 e.2
  legible : ∀ p ∈ printed, p.IsLegible
  values : ∀ {pieces : List Piece} {slot : Entries},
    List.Forall₂ (Piece.Alike Key.filled) pieces printed →
    Entries.addAll? pieces [] = some slot →
    ∀ key, slot.value? e.1.name key = Entries.value? [e] e.1.name key
  table : ∀ {pieces : List Piece} {slot : Entries} {head : Head} {inner : Entries},
    List.Forall₂ (Piece.Alike Key.filled) pieces printed →
    Entries.addAll? pieces [] = some slot → e.2 = .table head inner →
    ∃ head' inner', slot.get? e.1.name = some (.table head' inner')

lemma Tabular.exists_get? {pieces printed : List Piece} {key : Key} (h : Tabular key printed)
    {slot : Entries} (halike : List.Forall₂ (Piece.Alike Key.filled) pieces printed)
    (hslot : Entries.addAll? pieces [] = some slot) :
    ∃ head inner, slot.get? key.name = some (.table head inner) ∧
      Entries.addAll? (pieces.flatMap Piece.inside) [] = some inner := by
  obtain ⟨key', hkey', hname'⟩ := h.alike halike
  obtain ⟨key'', head, inner, rfl, hname'', hinner⟩ := hkey'.exists_table hslot
  refine ⟨head, inner, ?_, hinner⟩
  rw [Entries.get?, if_pos (hname''.trans hname')]

lemma MakesItem.exists_table {printed : List Piece} {e : Key × Item} (h : MakesItem printed e.1 e.2)
    {pieces : List Piece} {slot : Entries} {head : Head} {inner : Entries}
    (halike : List.Forall₂ (Piece.Alike Key.filled) pieces printed)
    (hslot : Entries.addAll? pieces [] = some slot) (htable : e.2 = .table head inner) :
    ∃ head' inner', slot.get? e.1.name = some (.table head' inner') := by
  rw [htable] at h
  obtain ⟨head', inner', hget, -⟩ := h.tabular.exists_get? halike hslot
  exact ⟨head', inner', hget⟩

/-- What a name stands for is what its entry has. -/
lemma Entries.get?_of_mem {entries : Entries} (hnodup : entries.names.Nodup) {e : Key × Item}
    (he : e ∈ entries) : entries.get? e.1.name = some e.2 := by
  obtain ⟨left, right, rfl⟩ := List.append_of_mem he
  obtain ⟨key, item⟩ := e
  rw [Entries.names_append, Entries.names_cons] at hnodup
  obtain ⟨-, -, hdisjoint⟩ := List.nodup_append.mp hnodup
  exact Entries.get?_split rfl fun hmem => hdisjoint _ hmem _ List.mem_cons_self rfl

lemma Entries.get?_singleton (e : Key × Item) : Entries.get? e.1.name [e] = some e.2 := by
  obtain ⟨key, item⟩ := e
  rw [Entries.get?, if_pos rfl]

section OfRead

variable {d : Document} (hd : d.IsRead)

include hd

lemma Document.IsRead.isRead_of_mem {p : Piece} (hp : p ∈ d.pieces) : p.IsRead := by
  rcases List.mem_append.mp hp with hp | hp
  · obtain ⟨l, hl, rfl⟩ := List.mem_map.mp hp
    exact hd.lines l hl
  · obtain ⟨s, hs, rfl⟩ := List.mem_map.mp hp
    exact hd.stanzas s hs

lemma Document.IsRead.isRead_of_mem_piecesOf {name : String} {p : Piece}
    (hp : p ∈ piecesOf name d.pieces) : p.IsRead :=
  hd.isRead_of_mem (List.mem_filter.mp hp).1

/-- What the pieces of a name make when they are read again has the values of the entry. -/
lemma Document.IsRead.toValue_get? (name : String) :
    ∃ slot, Entries.addAll? (piecesOf name d.pieces) [] = some slot ∧
      slot.unspelled = (d.entries.slot name).unspelled := by
  obtain ⟨entries, hadd, hsame⟩ := hd.values
  refine ⟨_, Entries.addAll?_slot Entries.nodup_names_nil hadd name, ?_⟩
  have hslot : ∀ entries : Entries, (entries.slot name).unspelled =
    entries.unspelled.slot name := by
    intro entries
    rw [Entries.unspelled, Entries.unspelled, unspelledEntries_eq, unspelledEntries_eq,
      Entries.slot,
      Entries.slot, List.filter_map]
    rfl
  rw [hslot, hsame, ← hslot]

/-- **An entry that was read comes back.** -/
lemma returns_of_mem {e : Key × Item} (he : e ∈ d.entries) :
    Returns (piecesOf e.1.name d.pieces) e := by
  have hmakes := hd.makes.items he
  refine ⟨hmakes, fun p hp => (hd.isRead_of_mem_piecesOf hp).isLegible, ?_, ?_⟩
  · intro pieces slot halike hslot key
    have hplain : ∀ p ∈ piecesOf e.1.name d.pieces, p.IsPlain :=
      fun p hp => (hd.isRead_of_mem_piecesOf hp).isPlain
    obtain ⟨slot', hslot', hsame'⟩ := hd.toValue_get? e.1.name
    obtain ⟨slot'', hslot'', hsame⟩ :=
      Entries.exists_addAll?_of_unspelled hslot' (Piece.Alike.map_unspelled halike hplain)
    obtain rfl : slot'' = slot := Option.some.inj (hslot''.symm.trans hslot)
    refine Entries.value?_of_toValue ?_ key
    rw [Entries.toValue_get?_of_unspelled (hsame.trans hsame'), Entries.get?_slot,
      Entries.get?_of_mem hd.makes.nodup he, Entries.get?_singleton]
  · intro pieces slot head inner halike hslot htable
    exact hmakes.exists_table halike hslot htable

end OfRead

/-! ### Tables with new lines come back -/

/-- A table is made of what its pieces put into it. -/
lemma MakesItem.inside {pieces : List Piece} {key : Key} {head : Head} {inner : Entries}
    (h : MakesItem pieces key (.table head inner)) : Makes (pieces.flatMap Piece.inside) inner := by
  cases h with
  | dotted h => rwa [flatMap_inside_under]
  | implicit hbare hne h => rwa [flatMap_inside_under]
  | headed hpath hrepeated hdotted himplicit h =>
    rwa [List.flatMap_append, List.flatMap_cons, flatMap_inside_under, flatMap_inside_under,
      Piece.inside_stanza hpath, ← List.append_assoc]

lemma Entries.names_unspelled (entries : Entries) : entries.unspelled.names = entries.names := by
  rw [Entries.unspelled, unspelledEntries_eq, Entries.names, Entries.names, List.map_map]
  rfl

/-- The order of entries makes no difference to what is found. -/
lemma Entries.get?_perm {entries entries' : Entries} (h : entries.Perm entries')
    (hnodup : entries.names.Nodup) (name : String) : entries.get? name = entries'.get? name := by
  have hnames : entries.names.Perm entries'.names := h.map _
  by_cases hmem : name ∈ entries.names
  · obtain ⟨e, he, rfl⟩ := List.mem_map.mp hmem
    rw [Entries.get?_of_mem hnodup he, Entries.get?_of_mem (hnames.nodup hnodup) (h.subset he)]
  · rw [Entries.get?_eq_none hmem, Entries.get?_eq_none fun hmem' =>
      hmem (hnames.symm.subset hmem')]

section Added

variable {printed : List Piece} {key : Key} {head : Head} {inner : Entries}
  {added added' : List Line} (hperm : added'.Perm added) (hadded : ∀ l ∈ added, l.IsAddable)
  (hnodup : (inner.names ++ added.map fun l => l.path.key.name).Nodup)

include hperm hadded hnodup

/-- A table with new lines among its pieces has the values of the new lines and those that it had
without them. -/
lemma value?_of_added {first second : List Piece} {inner₀ : Entries}
    (htabular : Tabular key printed)
    (hinside : printed.flatMap Piece.inside = first ++ added'.map Piece.line ++ second)
    (hadd : Entries.addAll? (first ++ second) [] = some inner₀)
    (hsame : inner₀.unspelled = inner.unspelled)
    (hnames : ∀ p ∈ first ++ second, p.name ∈ inner.names)
    (hplain : ∀ p ∈ first ++ second, p.IsPlain) {pieces : List Piece} {slot : Entries}
    (halike : List.Forall₂ (Piece.Alike Key.filled) pieces printed)
    (hslot : Entries.addAll? pieces [] = some slot) (name : String) :
    slot.value? key.name name =
      Entries.value? [(key, .table head (inner ++ added.map Line.entry))] key.name name := by
  obtain ⟨head', inner', hget, hinner⟩ := htabular.exists_get? halike hslot
  have hnames₀ : inner₀.names = inner.names := by
    rw [← Entries.names_unspelled, hsame, Entries.names_unspelled]
  have hnew : AreNew added' := areNew_of_isAddable fun l hl => hadded l (hperm.subset hl)
  have hnodup' : (inner₀.names ++ added'.map fun l => l.path.key.name).Nodup := by
    rw [hnames₀]
    exact ((hperm.map _).append_left _).symm.nodup hnodup
  have hinside' := Piece.Alike.flatMap_inside halike
  rw [hinside] at hinside'
  have hvalue := get?_of_alike_added hnew hnodup' (by rwa [hnames₀]) hplain hadd hinside'
    hinner name
  have hentries : (added'.map Line.entry).Perm (added.map Line.entry) := hperm.map _
  have hnodup'' : (Entries.names (added'.map Line.entry)).Nodup := by
    rw [Entries.names, List.map_map]
    exact (List.nodup_append.mp hnodup').2.1
  have hone := Entries.get?_singleton (key, .table head (inner ++ added.map Line.entry))
  rw [Entries.value?_of_get?_eq_table hget, Entries.value?_of_get?_eq_table hone, hvalue,
    Entries.get?_append, Entries.get?_append, Option.map_or, Option.map_or,
    Entries.toValue_get?_of_unspelled hsame, Entries.get?_perm hentries hnodup'']

omit hnodup in
/-- What is printed of a table with new lines can be read again. A table that gets a header for them
must have a key without space behind it. -/
lemma Grows.isLegible {own : List Piece} (h : Grows key added' head own printed)
    (hown : ∀ p ∈ own, p.IsRead)
    (hafter : head.implicit → head.dotted = false → key.inner.after = "") :
    ∀ p ∈ printed, p.IsLegible := by
  have hlines : ∀ l ∈ added', l.IsLegible := fun l hl =>
    (hadded l (hperm.subset hl)).isLegible_self
  cases h with
  | @dotted lines stanzas hne =>
    intro p hp
    obtain ⟨q, hq, rfl⟩ := List.mem_map.mp hp
    rw [List.mem_append, List.mem_append] at hq
    rcases hq with (hq | hq) | hq
    · exact (hown _ (List.mem_map_of_mem (List.mem_append_left _ hq))).isLegible
    · obtain ⟨l, hl, rfl⟩ := List.mem_map.mp hq
      obtain ⟨first, more, rfl⟩ := List.exists_cons_of_ne_nil hne
      obtain ⟨hbare, hbefore⟩ := (hown ((Piece.line first).under key) List.mem_cons_self).bare
      refine (hadded l (hperm.subset hl)).isLegible ⟨List.forall_mem_singleton.mpr hbare, ?_⟩
        (Nat.succ_lt_succ (Nat.succ_pos 77))
      rintro - k ⟨⟩
      exact hbefore
    · exact (hown _ (List.mem_map_of_mem (List.mem_append_right _ hq))).isLegible
  | @implicit before behind hbare hne =>
    obtain ⟨s, stanzas, hs⟩ := List.exists_cons_of_ne_nil hne
    have hfirst : ((Piece.stanza s).under key).IsRead := by
      refine hown _ (List.mem_map_of_mem (List.mem_map_of_mem ?_))
      rw [hs]
      exact List.mem_cons_self
    obtain ⟨hinner, hbefore⟩ := hfirst.bare
    rw [hbare] at hinner
    have hkey : key.IsTitle := by
      refine ⟨hinner.raw, ?_, fun o ho => ?_⟩
      · exact congrArg₂ Around.mk hbefore (hafter rfl rfl)
      · rw [hinner.outer] at ho
        cases ho
    rw [List.map_append, List.map_append] at hown
    obtain ⟨hfront, hrear⟩ := List.forall_mem_append.mp hown
    exact List.forall_mem_append.mpr ⟨fun p hp => (hfront p hp).isLegible,
      List.forall_mem_cons.mpr ⟨hkey.isLegible rfl hlines, fun p hp => (hrear p hp).isLegible⟩⟩
  | @headed s before behind hpath =>
    obtain ⟨hfront, hrest⟩ := List.forall_mem_append.mp hown
    obtain ⟨hs, hrear⟩ := List.forall_mem_cons.mp hrest
    have hlegible : s.IsLegible := Stanza.IsRead.isLegible hs
    refine List.forall_mem_append.mpr ⟨fun p hp => (hfront p hp).isLegible,
      List.forall_mem_cons.mpr ⟨?_, fun p hp => (hrear p hp).isLegible⟩⟩
    exact ⟨hlegible.written, hlegible.parents, hlegible.trimmed, hlegible.single,
      List.forall_mem_append.mpr ⟨hlegible.lines, hlines⟩⟩

/-- **A table that was read comes back with new lines.** -/
lemma returns_grown {d : Document} (hd : d.IsRead) (he : (key, .table head inner) ∈ d.entries)
    (hgrows : Grows key added' head (piecesOf key.name d.pieces) printed)
    (hmakes : MakesItem printed key (.table head (inner ++ added.map Line.entry)))
    (hafter : head.implicit → head.dotted = false → key.inner.after = "") :
    Returns printed (key, .table head (inner ++ added.map Line.entry)) := by
  have hown := fun p (hp : p ∈ piecesOf key.name d.pieces) => hd.isRead_of_mem_piecesOf hp
  refine ⟨hmakes, hgrows.isLegible hperm hadded hown hafter, fun halike hslot name => ?_,
    fun halike hslot htable => hmakes.exists_table halike hslot htable⟩
  have hitem : MakesItem (piecesOf key.name d.pieces) key (.table head inner) := hd.makes.items he
  obtain ⟨first, second, hfirst, hinside⟩ := hgrows.exists_inside
  -- the pieces of the table as it was read make a table with its values
  obtain ⟨slot₀, hslot₀, hsame⟩ := hd.toValue_get? key.name
  have hmakes₀ := hitem.inside
  obtain ⟨key₀, head₀, inner₀, rfl, hname₀, hinner₀⟩ := hitem.tabular.exists_table hslot₀
  have hget : Entries.get? key.name d.entries = some (.table head inner) :=
    Entries.get?_of_mem hd.makes.nodup he
  have hsame₀ : Entries.unspelled inner₀ = inner.unspelled := by
    have hfound := congrArg (Entries.get? key.name) hsame
    rw [Entries.get?_unspelled, Entries.get?_unspelled, Entries.get?_slot, hget, Entries.get?,
      if_pos hname₀, Option.map_some, Option.map_some, Item.unspelled, Item.unspelled] at hfound
    exact (Item.table.inj (Option.some.inj hfound)).2
  rw [hfirst] at hmakes₀ hinner₀
  refine value?_of_added hperm hadded hnodup hmakes.tabular hinside hinner₀ hsame₀
    (fun p hp => hmakes₀.names hp) (fun p hp => ?_) halike hslot name
  rw [← hfirst] at hp
  obtain ⟨q, hq, hp⟩ := List.mem_flatMap.mp hp
  exact (hown q hq).isPlain.inside p hp

/-- **A new table comes back.** -/
lemma returns_new (hinner : inner = []) (hkey : key.IsTitle)
    (hmakes : MakesItem [.stanza ⟨⟨[], key⟩, false, {}, added'⟩] key
      (.table {} (inner ++ added.map Line.entry))) :
    Returns [.stanza ⟨⟨[], key⟩, false, {}, added'⟩]
      (key, .table {} (inner ++ added.map Line.entry)) := by
  subst hinner
  have hlines : ∀ l ∈ added', l.IsLegible := fun l hl =>
    (hadded l (hperm.subset hl)).isLegible_self
  refine ⟨hmakes, fun p hp => ?_, fun halike hslot name => ?_, fun halike hslot htable =>
    hmakes.exists_table halike hslot htable⟩
  · rw [List.mem_singleton.mp hp]
    exact hkey.isLegible rfl hlines
  · have hinside : List.flatMap Piece.inside [.stanza ⟨⟨[], key⟩, false, {}, added'⟩] =
        [] ++ added'.map Piece.line ++ [] := by simp [Piece.inside]
    exact value?_of_added hperm hadded hnodup hmakes.tabular hinside rfl rfl nofun nofun
      halike hslot
      name

end Added

/-! ### Keys of new headers -/

/-- The key of an entry can be that of a new header: neither a comment nor an end of a line is in
front of the key of a value, and no space is behind a key that other headers begin with. -/
def CanHead (key : Key) : Item → Prop
  | .value _ _ => ∀ o, key.outer = some o → IsBlank o.before
  | .table head _ => head.implicit → head.dotted = false → key.inner.after = ""
  | .tables _ => True

instance (key : Key) (item : Item) : Decidable (CanHead key item) :=
  match item with
  | .value _ _ =>
    inferInstanceAs (Decidable (∀ o ∈ key.outer, IsBlank o.before))
  | .table head _ =>
    inferInstanceAs (Decidable (head.implicit → head.dotted = false → key.inner.after = ""))
  | .tables _ => inferInstanceAs (Decidable True)

/-- The key of a value or a list of tables that was read can be that of a header. -/
lemma Document.IsRead.isTitle {d : Document} (hd : d.IsRead) {key : Key} {item : Item}
    (he : (key, item) ∈ d.entries) (hcan : CanHead key item)
    (htable : ∀ head inner, item ≠ .table head inner) : key.IsTitle := by
  have hitem := hd.makes.items he
  cases item with
  | value literal around =>
    have hline : Line.IsRead ⟨⟨[], key⟩, literal, around⟩ := by
      dsimp only at hitem
      generalize hpieces : piecesOf key.name d.pieces = pieces at hitem
      cases hitem
      exact hd.isRead_of_mem_piecesOf (hpieces ▸ List.mem_singleton_self _)
    have hpath := hline.path
    refine ⟨hpath.key.raw, congrArg₂ Around.mk (hpath.single rfl) hpath.key.trimmed, fun o ho => ?_⟩
    obtain ⟨o', ho', -, hafter⟩ := hpath.key.outer
    obtain rfl := Option.some.inj ho'
    rw [ho] at hafter
    exact ⟨hcan o ho, hafter⟩
  | table head inner => exact absurd rfl (htable head inner)
  | tables members =>
    obtain ⟨s, hs, hpath⟩ := hitem.exists_header
    have hwritten := Stanza.IsRead.path (hd.isRead_of_mem_piecesOf hs)
    rw [hpath] at hwritten
    refine ⟨hwritten.key.raw, congrArg₂ Around.mk (hwritten.single rfl) hwritten.key.trimmed,
      fun o ho => ?_⟩
    obtain ⟨o', ho', hblank⟩ := hwritten.key.outer
    obtain rfl := Option.some.inj (ho.symm.trans ho')
    exact hblank

/-! ### Documents that were changed -/

section Changed

variable {d d' : Document} (hd : d.IsRead) (hnodup' : d'.entries.names.Nodup)

include hd

lemma Document.IsRead.areRising (name : String) : AreRising (d.linesOf name) (d.stanzasOf name) :=
  ⟨hd.rising.front.sublist List.filter_sublist, hd.rising.headers.sublist List.filter_sublist,
    fun s hs => hd.rising.inner s (List.mem_filter.mp hs).1⟩

lemma Document.IsRead.makesItem {e : Key × Item} (he : e ∈ d.entries) :
    MakesItem ((d.linesOf e.1.name).map .line ++ (d.stanzasOf e.1.name).map .stanza) e.1 e.2 := by
  rw [← Document.piecesOf_eq]
  exact hd.makes.items he

include hnodup'

/-- An entry that a document has from one that was read comes back. -/
lemma returns_kept {e : Key × Item} (he : e ∈ d.entries) (he' : e ∈ d'.entries) :
    Returns (piecesOf e.1.name d'.pieces) e := by
  obtain ⟨hlines, hstanzas⟩ :=
    (hd.makesItem he).printed_eq (hd.areRising e.1.name) (Document.prints hnodup' he')
  rw [Document.piecesOf_eq, hlines, hstanzas, ← Document.piecesOf_eq]
  exact returns_of_mem hd he

variable {key : Key} {head : Head} {inner : Entries} {added : List Line}
  (hadded : ∀ l ∈ added, l.IsAddable)

include hadded

/-- A table that a document has from one that was read comes back with new lines. -/
lemma returns_added (he : (key, .table head inner) ∈ d.entries)
    (he' : (key, .table head (inner ++ added.map Line.entry)) ∈ d'.entries)
    (hnodup : (inner.names ++ added.map fun l => l.path.key.name).Nodup)
    (hcan : CanHead key (.table head inner)) :
    Returns (piecesOf key.name d'.pieces) (key, .table head (inner ++ added.map Line.entry)) := by
  by_cases hne : added = []
  · subst hne
    rw [List.map_nil, List.append_nil] at he' ⊢
    exact returns_kept hd hnodup' he he'
  · obtain ⟨added', hperm, hgrows, hmakes⟩ := (hd.makesItem he).exists_grows
      (areNew_of_isAddable hadded) hnodup (hd.areRising key.name) hne (Document.prints hnodup' he')
    rw [← Document.piecesOf_eq] at hgrows
    rw [← Document.piecesOf_eq] at hgrows hmakes
    exact returns_grown hperm hadded hnodup hd he hgrows hmakes hcan

omit hd in
/-- A new table of new lines comes back. -/
lemma returns_table (he' : (key, .table {} (added.map Line.entry)) ∈ d'.entries)
    (hnodup : (added.map fun l => l.path.key.name).Nodup) (hkey : key.IsTitle) :
    Returns (piecesOf key.name d'.pieces) (key, .table {} (added.map Line.entry)) := by
  have hprints := Document.prints hnodup' he'
  obtain ⟨added', hperm, hlines, hstanzas, hmakes⟩ :=
    exists_new (areNew_of_isAddable hadded) hnodup hprints
  dsimp only at hlines hstanzas hmakes
  rw [Document.piecesOf_eq, hlines, hstanzas]
  rw [hlines, hstanzas] at hmakes
  exact @returns_new key [] added added' hperm hadded hnodup rfl hkey hmakes

end Changed

/-! ### Documents -/

namespace Document

variable {d : Document}

lemma mem_piecesOf {p : Piece} (hp : p ∈ d.pieces) : p ∈ piecesOf p.name d.pieces :=
  List.mem_filter.mpr ⟨hp, decide_eq_true rfl⟩

/-- What a document prints has the name of an entry. -/
lemma name_mem_of_mem_pieces {p : Piece} (hp : p ∈ d.pieces) : p.name ∈ d.entries.names := by
  rcases List.mem_append.mp hp with hp | hp
  · obtain ⟨l, hl, rfl⟩ := List.mem_map.mp hp
    obtain ⟨l', hl', rfl⟩ := List.mem_map.mp hl
    have hmem := (List.mergeSort_perm _ _).subset hl'
    rw [linesOf_eq_flatMap] at hmem
    obtain ⟨e, he, hown⟩ := List.mem_flatMap.mp hmem
    rw [Item.name_of_mem_lines hown]
    exact List.mem_map_of_mem he
  · obtain ⟨s, hs, rfl⟩ := List.mem_map.mp hp
    have hmem := d.perm_stanzas.subset hs
    rw [blocksOf_eq_flatMap, List.filterMap_flatMap] at hmem
    obtain ⟨e, he, hs⟩ := List.mem_flatMap.mp hmem
    rw [Item.name_of_mem_blocks hs]
    exact List.mem_map_of_mem he

/-- **Documents whose entries come back.** The text of such a document is read as a document with
the same values and the same text, in which tables are tables. -/
theorem exists_reread_of_returns (hnodup : d.entries.names.Nodup)
    (hreturns : ∀ e ∈ d.entries, Returns (piecesOf e.1.name d.pieces) e) (hafter : IsTail d.after) :
    ∃ e : Document, parse? d.write = some e ∧ e.write = d.write ∧
      (∀ name key, e.value? name key = d.value? name key) ∧
      ∀ name head inner, d.entries.get? name = some (.table head inner) →
        ∃ head' inner', e.entries.get? name = some (.table head' inner') := by
  have hmakes : Makes d.pieces d.entries :=
    ⟨hnodup, fun p hp => name_mem_of_mem_pieces hp, fun e he => (hreturns e he).makes⟩
  have hlegible : ∀ p ∈ d.pieces, p.IsLegible := by
    intro p hp
    obtain ⟨e, he, hname⟩ := List.mem_map.mp (name_mem_of_mem_pieces hp)
    refine (hreturns e he).legible p ?_
    rw [hname]
    exact mem_piecesOf hp
  obtain ⟨e, hparse, hwrite, hadd, -, halike⟩ := exists_reread hmakes
    (fun l hl => hlegible (.line l) (List.mem_append_left _ (List.mem_map_of_mem hl)))
    (fun s hs => hlegible (.stanza s) (List.mem_append_right _ (List.mem_map_of_mem hs))) hafter
  have hslot := Entries.addAll?_slot Entries.nodup_names_nil hadd
  have halike' := Piece.Rel.forall₂_piecesOf Piece.Alike.name_eq halike
  refine ⟨e, hparse, hwrite, fun name key => ?_, fun name head inner hget => ?_⟩
  · have hvalue : e.value? name key = (e.entries.slot name).value? name key :=
      Entries.value?_congr (Entries.get?_slot name e.entries).symm key
    rw [hvalue]
    by_cases hmem : name ∈ d.entries.names
    · obtain ⟨entry, hentry, rfl⟩ := List.mem_map.mp hmem
      rw [(hreturns entry hentry).values (halike' entry.1.name) (hslot entry.1.name) key]
      refine Entries.value?_congr ?_ key
      rw [Entries.get?_singleton, Entries.get?_of_mem hnodup hentry]
    · -- nothing is printed of a name without an entry
      have hnone : piecesOf name d.pieces = [] :=
        piecesOf_eq_nil fun p hp hname => hmem (hname ▸ name_mem_of_mem_pieces hp)
      have hnil := halike' name
      rw [hnone, List.forall₂_nil_right_iff] at hnil
      have hempty := hslot name
      rw [hnil] at hempty
      rw [← Option.some.inj hempty]
      exact (Entries.value?_congr (by rw [Entries.get?_eq_none hmem]; rfl) key).symm
  · have hmem : name ∈ d.entries.names := by
      by_contra hmem
      rw [Entries.get?_eq_none hmem] at hget
      cases hget
    obtain ⟨entry, hentry, rfl⟩ := List.mem_map.mp hmem
    have htable : entry.2 = .table head inner :=
      Option.some.inj ((Entries.get?_of_mem hnodup hentry).symm.trans hget)
    obtain ⟨head', inner', hfound⟩ :=
      (hreturns entry hentry).table (halike' entry.1.name) (hslot entry.1.name) htable
    exact ⟨head', inner', by rwa [Entries.get?_slot] at hfound⟩

end Document

end CrudScaffold.Toml
