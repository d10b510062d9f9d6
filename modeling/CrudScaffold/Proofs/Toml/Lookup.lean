import CrudScaffold.Proofs.Toml.Adding

/-!
# What is found in a document that is read again

Pieces that are read again make tables with the values of the others, name by name
(`Toml.Entries.toValue_get?_of_piecesOf`). New lines that stand somewhere among the pieces of a
table are found under their names, and everything else as without them (`Toml.get?_of_alike_added`).
-/

namespace CrudScaffold.Toml

variable {fill : Key → Key} {pieces pieces' : List Piece} {p p' : Piece}

/-! ### Pieces that are read again have the same values -/

/-- A header of a piece names a table that is neither implicit nor there for the keys of a path. -/
def Piece.IsPlain : Piece → Prop
  | line _ => True
  | stanza s => s.head.implicit = false ∧ s.head.dotted = false

lemma Line.Alike.unspelled_eq {l l' : Line} (h : l'.Alike l) : l'.unspelled = l.unspelled := by
  rw [Line.unspelled, Line.unspelled, Path.unspelled_eq (congrArg _ h.parents) h.name, h.literal]

lemma Piece.Alike.unspelled_eq (h : Piece.Alike fill p' p) (hp : p.IsPlain) :
    p'.unspelled = p.unspelled := by
  cases h with
  | line h => exact congrArg Piece.line h.unspelled_eq
  | @stanza s' s h =>
    have hhead : s'.head.unspelled = s.head.unspelled := by
      rw [Head.unspelled, Head.unspelled, h.implicit, h.dotted, hp.1, hp.2]
    have hname : s'.path.key.name = s.path.key.name := by
      rw [h.key]
      exact Key.name_eq_of_bare h.bare
    have hlines := map_eq_of_forall₂ (f := Line.unspelled)
      (fun _ _ hl => Line.Alike.unspelled_eq hl) h.lines
    rw [Piece.unspelled, Piece.unspelled, Stanza.unspelled, Stanza.unspelled,
      Path.unspelled_eq (congrArg _ h.parents) hname, h.repeated, hhead, hlines]

lemma Piece.Alike.map_unspelled (h : List.Forall₂ (Piece.Alike fill) pieces' pieces)
    (hplain : ∀ p ∈ pieces, p.IsPlain) :
    pieces'.map Piece.unspelled = pieces.map Piece.unspelled := by
  induction h with
  | nil => rfl
  | cons hp _ ih =>
    obtain ⟨hplain₁, hplain⟩ := List.forall_mem_cons.mp hplain
    rw [List.map_cons, List.map_cons, hp.unspelled_eq hplain₁, ih hplain]

lemma Piece.Alike.inside (h : Piece.Alike fill p' p) :
    List.Forall₂ (Piece.Alike fill) p'.inside p.inside := by
  cases h with
  | @line l' l h =>
    obtain ⟨⟨parents', key'⟩, literal', around'⟩ := l'
    obtain ⟨⟨parents, key⟩, literal, around⟩ := l
    obtain ⟨rfl, hname, hliteral⟩ := h
    cases parents' with
    | nil => exact .nil
    | cons first parents => exact .cons (.line ⟨rfl, hname, hliteral⟩) .nil
  | @stanza s' s h =>
    obtain ⟨⟨parents', key'⟩, repeated', head', lines'⟩ := s'
    obtain ⟨⟨parents, key⟩, repeated, head, lines⟩ := s
    obtain ⟨rfl, hkey, hbare, hrepeated, hdotted, himplicit, hlines⟩ := h
    cases parents' with
    | nil => exact Piece.Rel.map_line hlines
    | cons first parents =>
      exact .cons (.stanza ⟨rfl, hkey, hbare, hrepeated, hdotted, himplicit, hlines⟩) .nil

lemma Piece.Alike.flatMap_inside (h : List.Forall₂ (Piece.Alike fill) pieces' pieces) :
    List.Forall₂ (Piece.Alike fill) (pieces'.flatMap Piece.inside)
      (pieces.flatMap Piece.inside) := by
  induction h with
  | nil => exact .nil
  | cons hp _ ih => exact List.rel_append hp.inside ih

namespace Entries

variable {entries entries' : Entries} {name key : String}

/-- Tables that differ in spelling have the same values. -/
lemma toValue_get?_of_unspelled (h : entries.unspelled = entries'.unspelled) (name : String) :
    (entries.get? name).map Item.toValue = (entries'.get? name).map Item.toValue := by
  have hvalue : ∀ entries : Entries, (entries.get? name).map Item.toValue =
      (entries.unspelled.get? name).map Item.toValue := by
    intro entries
    rw [get?_unspelled, Option.map_map]
    exact Option.map_congr fun item _ => item.toValue_unspelled.symm
  rw [hvalue, h, ← hvalue]

lemma toValue_get?_of_slot (h : (entries.slot name).unspelled = (entries'.slot name).unspelled) :
    (entries.get? name).map Item.toValue = (entries'.get? name).map Item.toValue := by
  rw [← get?_slot, toValue_get?_of_unspelled h, get?_slot]

/-- The value of a name decides the values of the keys under it. -/
lemma value?_of_toValue
    (h : (entries.get? name).map Item.toValue = (entries'.get? name).map Item.toValue)
    (key : String) : entries.value? name key = entries'.value? name key := by
  rw [value?, value?, lookup_toValues, lookup_toValues, h]

/-- Pieces with the same names and values, but for those of other names, make the same of a name. -/
lemma toValue_get?_of_piecesOf {name : String} (hadd : addAll? pieces [] = some entries)
    (hadd' : addAll? pieces' [] = some entries')
    (h : (piecesOf name pieces').map Piece.unspelled = (piecesOf name pieces).map Piece.unspelled) :
    (entries'.get? name).map Item.toValue = (entries.get? name).map Item.toValue := by
  have hslot := addAll?_slot nodup_names_nil hadd name
  have hslot' := addAll?_slot nodup_names_nil hadd' name
  obtain ⟨slot, hslot'', hsame⟩ := exists_addAll?_of_unspelled hslot h
  have heq : slot = entries'.slot name := Option.some.inj (hslot''.symm.trans hslot')
  rw [heq] at hsame
  exact toValue_get?_of_slot hsame

/-- New lines with single keys are put in one after the other. -/
lemma addAll?_new {added : List Line} (hnew : AreNew added)
    (hnodup : (entries.names ++ added.map fun l => l.path.key.name).Nodup) :
    addAll? (added.map Piece.line) entries = some (entries ++ added.map Line.entry) := by
  induction added generalizing entries with
  | nil => rw [List.map_nil, List.map_nil, List.append_nil]; rfl
  | cons l added ih =>
    have hsingle := hnew.single l List.mem_cons_self
    obtain ⟨⟨parents, key⟩, literal, around⟩ := l
    obtain rfl := hsingle
    have hmem : key.name ∉ entries.names := by
      obtain ⟨-, -, hdisjoint⟩ := List.nodup_append.mp hnodup
      exact fun hmem => hdisjoint _ hmem _ List.mem_cons_self rfl
    have hput : (Piece.line ⟨⟨[], key⟩, literal, around⟩).put? entries =
        some (entries ++ [(key, .value literal around)]) := add?_of_notMem hmem
    have hrest := @ih (entries ++ [(key, .value literal around)])
      ⟨fun l hl => hnew.single l (List.mem_cons_of_mem _ hl),
        fun l hl => hnew.place l (List.mem_cons_of_mem _ hl)⟩ (by
        rw [names_append, List.append_assoc]
        exact hnodup)
    rw [List.map_cons, addAll?_cons, hput, Option.bind_some, hrest, List.append_assoc]
    rfl

end Entries

/-- **New lines among others.** Under the name of a new line its value is found, and everything else
as without the new lines. -/
lemma get?_of_alike_added {first second inside : List Piece} {added : List Line}
    {inner inner' : Entries} (hnew : AreNew added)
    (hnodup : (inner.names ++ added.map fun l => l.path.key.name).Nodup)
    (hnames : ∀ p ∈ first ++ second, p.name ∈ inner.names)
    (hplain : ∀ p ∈ first ++ second, p.IsPlain)
    (hadd : Entries.addAll? (first ++ second) [] = some inner)
    (halike : List.Forall₂ (Piece.Alike fill) inside (first ++ added.map Piece.line ++ second))
    (hadd' : Entries.addAll? inside [] = some inner') (name : String) :
    (inner'.get? name).map Item.toValue =
      ((inner ++ added.map Line.entry).get? name).map Item.toValue := by
  have hall : Entries.addAll? (first ++ second ++ added.map Piece.line) [] =
      some (inner ++ added.map Line.entry) := by
    rw [Entries.addAll?_append, hadd]
    exact Entries.addAll?_new hnew hnodup
  refine Entries.toValue_get?_of_piecesOf hall hadd' ?_
  have hplain' : ∀ p ∈ first ++ added.map Piece.line ++ second, p.IsPlain := by
    intro p hp
    rw [List.mem_append, List.mem_append] at hp
    rcases hp with (hp | hp) | hp
    · exact hplain p (List.mem_append_left _ hp)
    · obtain ⟨l, -, rfl⟩ := List.mem_map.mp hp
      trivial
    · exact hplain p (List.mem_append_right _ hp)
  rw [Piece.Alike.map_unspelled (Piece.Rel.forall₂_piecesOf Piece.Alike.name_eq halike name)
    fun p hp => hplain' p (List.mem_filter.mp hp).1]
  congr 1
  rw [piecesOf_append, piecesOf_append, piecesOf_append, piecesOf_append, List.append_assoc,
    List.append_assoc]
  congr 1
  by_cases hname : name ∈ added.map fun l => l.path.key.name
  · -- the others do not have the name of a new line
    obtain ⟨-, -, hdisjoint⟩ := List.nodup_append.mp hnodup
    have hnone : piecesOf name second = [] := piecesOf_eq_nil fun p hp hp' =>
      hdisjoint _ (hnames p (List.mem_append_right _ hp)) _ (hp' ▸ hname) rfl
    rw [hnone, List.append_nil, List.nil_append]
  · have hnone : piecesOf name (added.map Piece.line) = [] := by
      refine piecesOf_eq_nil fun p hp hp' => hname ?_
      obtain ⟨l, hl, rfl⟩ := List.mem_map.mp hp
      rw [← hp', Line.name_eq (hnew.single l hl)]
      exact List.mem_map_of_mem hl
    rw [hnone, List.append_nil, List.nil_append]

/-! ### The pieces of a table -/

/-- Pieces of a name that stand for a single table: they all go on under the name, or a header of
the name is among them. -/
inductive Tabular (key : Key) : List Piece → Prop
  | under {p : Piece} {more : List Piece} (hlines : ∀ q ∈ more, q.isLine → p.isLine) :
      Tabular key ((p :: more).map (Piece.under key))
  | headed {s : Stanza} {before behind : List Stanza} (hpath : s.path = ⟨[], key⟩)
      (hrepeated : s.repeated = false) :
      Tabular key ((before.map Piece.stanza).map (Piece.under key) ++
        .stanza s :: (behind.map Piece.stanza).map (Piece.under key))

lemma MakesItem.tabular {key : Key} {head : Head} {inner : Entries}
    (h : MakesItem pieces key (.table head inner)) : Tabular key pieces := by
  cases h with
  | dotted h => exact .under fun _ _ _ => rfl
  | @implicit _ stanzas _ hbare hne h =>
    obtain ⟨s, stanzas, rfl⟩ := List.exists_cons_of_ne_nil hne
    exact .under (by simp [Piece.isLine])
  | headed hpath hrepeated hdotted himplicit h => exact .headed hpath hrepeated

/-- The pieces of a table make the table of what they put into it. -/
lemma Tabular.exists_table {key : Key} (h : Tabular key pieces) {slot : Entries}
    (hslot : Entries.addAll? pieces [] = some slot) : ∃ key' head inner,
      slot = [(key', .table head inner)] ∧ key'.name = key.name ∧
      Entries.addAll? (pieces.flatMap Piece.inside) [] = some inner := by
  cases h with
  | under hlines =>
    rw [Entries.addAll?_under_nil hlines] at hslot
    obtain ⟨inner, hinner, rfl⟩ := Option.map_eq_some_iff.mp hslot
    exact ⟨_, _, inner, rfl, rfl, by rwa [flatMap_inside_under]⟩
  | @headed s before behind hpath hrepeated =>
    rw [Entries.addAll?_headed hpath hrepeated] at hslot
    obtain ⟨inner, hinner, rfl⟩ := Option.map_eq_some_iff.mp hslot
    refine ⟨_, _, inner, rfl, rfl, ?_⟩
    rwa [List.flatMap_append, List.flatMap_cons, flatMap_inside_under, flatMap_inside_under,
      Piece.inside_stanza hpath, ← List.append_assoc]

lemma Piece.Alike.isLine_eq (h : Piece.Alike fill p' p) : p'.isLine = p.isLine := by
  cases h <;> rfl

/-- What is like the pieces of a table are the pieces of a table. -/
lemma Tabular.alike {key : Key} (h : Tabular key pieces)
    (halike : List.Forall₂ (Piece.Alike fill) pieces' pieces) :
    ∃ key', Tabular key' pieces' ∧ key'.name = key.name := by
  cases h with
  | @under p more hlines =>
    obtain ⟨pieces₀, rfl, h₀⟩ := Piece.Alike.exists_map_under halike
    obtain ⟨p', more', hp, hmore, rfl⟩ := List.forall₂_cons_right_iff.mp h₀
    refine ⟨key, .under fun q hq hline => ?_, rfl⟩
    obtain ⟨q', hq', hqq'⟩ := exists_of_forall₂_of_mem hmore hq
    rw [hp.isLine_eq]
    exact hlines q' hq' (by rwa [← hqq'.isLine_eq])
  | @headed s before behind hpath hrepeated =>
    obtain ⟨front, rest, rfl, hfront, hrest⟩ := Piece.Rel.exists_append halike
    obtain ⟨p', rest', hp, hrest', rfl⟩ := List.forall₂_cons_right_iff.mp hrest
    obtain ⟨front₀, rfl, hfront₀⟩ := Piece.Alike.exists_map_under hfront
    obtain ⟨rest₀, rfl, hrest₀⟩ := Piece.Alike.exists_map_under hrest'
    obtain ⟨before', rfl, -⟩ := Piece.Rel.exists_map_stanza hfront₀
    obtain ⟨behind', rfl, -⟩ := Piece.Rel.exists_map_stanza hrest₀
    cases hp with
    | stanza hs =>
      obtain ⟨hpath', hbare⟩ := hs.path_eq hpath
      refine ⟨fill key, ?_, Key.name_eq_of_bare hbare⟩
      rw [← Piece.under_bare key, ← hbare, Piece.under_bare]
      exact .headed hpath' (hs.repeated.trans hrepeated)

end CrudScaffold.Toml
