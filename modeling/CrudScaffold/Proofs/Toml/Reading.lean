import CrudScaffold.Proofs.Toml.Contents

/-!
# What is read is made of what was written

The reader of documents keeps the first spelling of a key that stands in several paths. So the
pieces that make what is read are those that were written, with the keys of their paths spelled as
the document has them (`Toml.exists_makes_of_addAll?`). This holds for documents that keep a rule
that the reader does not check: no key with dots goes on in a table that a header has made further
up (`Toml.Stanza.IsFresh`).
-/

namespace CrudScaffold.Toml

/-! ### Spelling -/

/-- A line is another one with the keys in front spelled in some way. -/
structure Line.Respells (l' l : Line) : Prop where
  parents : l'.path.parents.map Key.name = l.path.parents.map Key.name
  key : l'.path.key = l.path.key
  literal : l'.literal = l.literal
  around : l'.around = l.around

/-- A stanza is another one with the keys of its paths spelled in some way. -/
structure Stanza.Respells (s' s : Stanza) : Prop where
  parents : s'.path.parents.map Key.name = s.path.parents.map Key.name
  key : s'.path.key.name = s.path.key.name
  repeated : s'.repeated = s.repeated
  head : s'.head = s.head
  lines : List.Forall₂ Line.Respells s'.lines s.lines

/-- A piece is another one with the keys of its paths spelled in some way. -/
abbrev Piece.Respells : Piece → Piece → Prop := Piece.Rel Line.Respells Stanza.Respells

lemma Line.Respells.refl (l : Line) : l.Respells l := ⟨rfl, rfl, rfl, rfl⟩

lemma Line.Respells.trans {l l' l'' : Line} (h : l''.Respells l') (h' : l'.Respells l) :
    l''.Respells l :=
  ⟨h.parents.trans h'.parents, h.key.trans h'.key, h.literal.trans h'.literal,
    h.around.trans h'.around⟩

lemma forall₂_trans {α : Type*} {R : α → α → Prop} (hR : ∀ a b c, R a b → R b c → R a c)
    {l l' l'' : List α} (h : List.Forall₂ R l'' l') (h' : List.Forall₂ R l' l) :
    List.Forall₂ R l'' l := by
  induction h generalizing l with
  | nil => exact h'
  | cons hab _ ih =>
    cases h' with
    | cons hbc hrest => exact .cons (hR _ _ _ hab hbc) (ih hrest)

lemma exists_of_forall₂_of_mem {α β : Type*} {R : α → β → Prop} {l' : List α} {l : List β}
    (h : List.Forall₂ R l' l) {a' : α} (ha' : a' ∈ l') : ∃ a ∈ l, R a' a := by
  induction h with
  | nil => cases ha'
  | cons hab _ ih =>
    rcases List.mem_cons.mp ha' with rfl | ha'
    · exact ⟨_, List.mem_cons_self, hab⟩
    · obtain ⟨a, ha, hab⟩ := ih ha'
      exact ⟨a, List.mem_cons_of_mem _ ha, hab⟩

namespace Piece.Respells

variable {p p' p'' : Piece} {pieces pieces' : List Piece} {key key' : Key}

lemma refl (p : Piece) : Respells p p := by
  cases p with
  | line l => exact .line (.refl l)
  | stanza s => exact .stanza ⟨rfl, rfl, rfl, rfl, List.forall₂_same.mpr fun l _ => .refl l⟩

lemma trans (h : Respells p'' p') (h' : Respells p' p) : Respells p'' p := by
  cases h with
  | line h =>
    cases h' with
    | line h' => exact .line (h.trans h')
  | stanza h =>
    cases h' with
    | stanza h' =>
      exact .stanza ⟨h.parents.trans h'.parents, h.key.trans h'.key, h.repeated.trans h'.repeated,
        h.head.trans h'.head, forall₂_trans (R := Line.Respells) (fun _ _ _ => .trans)
          h.lines h'.lines⟩

lemma name_eq (h : Respells p' p) : p'.name = p.name := by
  have hhead : ∀ {parents parents' : List Key} {own own' : Key},
      parents'.map Key.name = parents.map Key.name → own'.name = own.name →
      (parents'.headD own').name = (parents.headD own).name := by
    intro parents parents' own own' hparents hown
    cases parents with
    | nil =>
      rw [List.map_eq_nil_iff.mp hparents]
      exact hown
    | cons first more =>
      obtain ⟨first', more', rfl, hfirst, -⟩ := List.map_eq_cons_iff.mp hparents
      exact hfirst
  cases h with
  | line h => exact hhead h.parents (congrArg Key.name h.key)
  | stanza h => exact hhead h.parents h.key

lemma isLine_eq (h : Respells p' p) : p'.isLine = p.isLine := by
  cases h <;> rfl

lemma under (h : Respells p' p) (hname : key'.name = key.name) :
    Respells (p'.under key') (p.under key) := by
  cases h with
  | line h => exact .line ⟨congrArg₂ List.cons hname h.parents, h.key, h.literal, h.around⟩
  | stanza h =>
    exact .stanza ⟨congrArg₂ List.cons hname h.parents, h.key, h.repeated, h.head, h.lines⟩

lemma map_under (h : List.Forall₂ Respells pieces' pieces) (hname : key'.name = key.name) :
    List.Forall₂ Respells (pieces'.map (Piece.under key')) (pieces.map (Piece.under key)) := by
  rw [List.forall₂_map_left_iff, List.forall₂_map_right_iff]
  exact h.imp fun _ _ hp => under hp hname

/-- A piece more under a key stands behind the others. -/
lemma map_under_append (h : List.Forall₂ Respells pieces' (pieces ++ [p]))
    (hname : key'.name = key.name) : List.Forall₂ Respells (pieces'.map (Piece.under key'))
      (pieces.map (Piece.under key') ++ [p.under key]) := by
  obtain ⟨first, second, rfl, hfirst, hsecond⟩ := Piece.Rel.exists_append h
  rw [List.map_append]
  exact List.rel_append (map_under hfirst rfl) (map_under hsecond hname)

lemma exists_stanzas {stanzas : List Stanza} {s : Stanza}
    (h : List.Forall₂ Respells pieces' (stanzas.map Piece.stanza ++ [.stanza s])) :
    ∃ stanzas' s', pieces' = stanzas'.map Piece.stanza ++ [.stanza s'] ∧
      List.Forall₂ Stanza.Respells stanzas' stanzas ∧ s'.Respells s := by
  obtain ⟨first, second, rfl, hfirst, hsecond⟩ := Piece.Rel.exists_append h
  obtain ⟨stanzas', rfl, hstanzas⟩ := Piece.Rel.exists_map_stanza hfirst
  obtain ⟨p', rest, hp, hrest, rfl⟩ := List.forall₂_cons_right_iff.mp hsecond
  rw [List.forall₂_nil_right_iff.mp hrest]
  cases hp with
  | stanza hs => exact ⟨stanzas', _, rfl, hstanzas, hs⟩

end Piece.Respells

/-! ### Neat pieces -/

/-- The keys in front of a path are spelled. If the path is not part of a longer one then there is
no space in front of it. -/
structure Path.IsNeat (first : Bool) (p : Path) : Prop where
  parents : ∀ k ∈ p.parents, k.IsInner
  head : first → ∀ k, p.parents.head? = some k → k.inner.before = ""

/-- A header has spelled keys and is not that of an implicit table. -/
structure Stanza.IsNeat (first : Bool) (s : Stanza) : Prop where
  path : s.path.IsNeat first
  key : s.path.key.IsLast
  single : first → s.path.parents = [] → s.path.key.inner.before = ""
  implicit : s.head.implicit = false
  dotted : s.head.dotted = false
  lines : ∀ l ∈ s.lines, l.path.IsNeat true

/-- A line or a stanza has spelled keys. -/
def Piece.IsNeat (inLine inHeader : Bool) : Piece → Prop
  | line l => l.path.IsNeat inLine
  | stanza s => s.IsNeat inHeader

lemma Piece.isNeat_of_stanza {p : Piece} {inLine inLine' inHeader : Bool} (hp : p.isLine = false)
    (h : p.IsNeat inLine inHeader) : p.IsNeat inLine' inHeader := by
  cases p with
  | line l => cases hp
  | stanza s => exact h

lemma Piece.map_stanza_concat (stanzas : List Stanza) (s : Stanza) :
    (stanzas ++ [s]).map Piece.stanza = stanzas.map Piece.stanza ++ [.stanza s] := by
  rw [List.map_append]
  rfl

lemma Key.IsInner.bare_eq {k : Key} (h : k.IsInner) : k.bare = k := by
  obtain ⟨name, raw, inner, outer, place⟩ := k
  have houter := h.outer
  have hplace := h.place
  dsimp only at houter hplace
  subst houter hplace
  rfl

lemma Key.IsSpelled.bare {k : Key} (h : k.IsSpelled) : k.bare.IsInner where
  raw := h.raw
  before := h.before
  after := h.after
  outer := rfl
  place := rfl

/-- Under a key, only the key itself can stand at the beginning of a path. -/
lemma Piece.isNeat_under_iff {inLine inHeader : Bool} {key : Key} {p : Piece} :
    (p.under key).IsNeat inLine inHeader ↔ key.bare.IsInner ∧
      ((if p.isLine then inLine else inHeader) → key.inner.before = "") ∧ p.IsNeat false false := by
  have hpath : ∀ (first : Bool) (path : Path), (⟨key.bare :: path.parents, path.key⟩ : Path).IsNeat
      first ↔ key.bare.IsInner ∧ (first → key.inner.before = "") ∧ path.IsNeat false := by
    intro first path
    constructor
    · intro h
      obtain ⟨hkey, hparents⟩ := List.forall_mem_cons.mp h.parents
      exact ⟨hkey, fun hfirst => h.head hfirst key.bare rfl, hparents, nofun⟩
    · rintro ⟨hkey, hfirst, h⟩
      refine ⟨List.forall_mem_cons.mpr ⟨hkey, h.parents⟩, fun h' k hk => ?_⟩
      rw [← Option.some.inj hk]
      exact hfirst h'
  cases p with
  | line l => exact hpath inLine l.path
  | stanza s =>
    constructor
    · intro h
      obtain ⟨hkey, hfirst, hs⟩ := (hpath inHeader s.path).mp h.path
      exact ⟨hkey, hfirst, hs, h.key, nofun, h.implicit, h.dotted, h.lines⟩
    · rintro ⟨hkey, hfirst, h⟩
      exact ⟨(hpath inHeader s.path).mpr ⟨hkey, hfirst, h.path⟩, h.key, nofun, h.implicit, h.dotted,
        h.lines⟩

/-! ### One name changes -/

/-- A name has no entry and no pieces, or an entry that its pieces make. -/
lemma Makes.slot_cases {pieces : List Piece} {entries : Entries} (h : Makes pieces entries)
    (name : String) : (entries.slot name = [] ∧ piecesOf name pieces = []) ∨
      ∃ key item, key.name = name ∧ entries.slot name = [(key, item)] ∧
        MakesItem (piecesOf name pieces) key item := by
  rcases Entries.slot_cases h.nodup name with hnone |
    ⟨left, key, item, right, rfl, hkey, hleft, hright⟩
  · refine .inl ⟨Entries.slot_eq_nil hnone, piecesOf_eq_nil fun p hp hname => hnone ?_⟩
    rw [← hname]
    exact h.names hp
  · refine .inr ⟨key, item, hkey, Entries.slot_split hkey hleft hright, ?_⟩
    have hitem := h.items (List.mem_append_right left (List.mem_cons_self (a := (key, item))))
    rwa [hkey] at hitem

/-- If the pieces of one name change and make an item, then all of them make a table with this item
in the place of what had the name. -/
lemma Makes.replace {pieces pieces' : List Piece} {entries entries' : Entries} {key : Key}
    {item : Item} (h : Makes pieces entries)
    (hperm : entries'.Perm ((key, item) :: entries.others key.name))
    (hown : MakesItem (piecesOf key.name pieces') key item)
    (hothers : ∀ name, name ≠ key.name → piecesOf name pieces' = piecesOf name pieces) :
    Makes pieces' entries' := by
  have hnames : entries'.names.Perm (key.name :: (entries.others key.name).names) :=
    hperm.map fun e : Key × Item => e.1.name
  refine ⟨hnames.nodup_iff.mpr (List.nodup_cons.mpr ⟨fun hmem => ?_, ?_⟩), fun p hp => ?_,
    fun e he => ?_⟩
  · obtain ⟨e, he, hkey⟩ := List.mem_map.mp hmem
    exact of_decide_eq_true (List.mem_filter.mp he).2 hkey
  · exact h.nodup.sublist (List.filter_sublist.map _)
  · refine hnames.symm.subset ?_
    by_cases hname : p.name = key.name
    · rw [hname]
      exact List.mem_cons_self
    · have hmem : p ∈ piecesOf p.name pieces' := List.mem_filter.mpr ⟨hp, decide_eq_true rfl⟩
      rw [hothers p.name hname] at hmem
      obtain ⟨e, he, hkey⟩ := List.mem_map.mp (h.names (List.mem_filter.mp hmem).1)
      refine List.mem_cons_of_mem _ (List.mem_map.mpr ⟨e, List.mem_filter.mpr ⟨he, ?_⟩, hkey⟩)
      exact decide_eq_true (by rw [hkey]; exact hname)
  · rcases List.mem_cons.mp (hperm.subset he) with rfl | he
    · exact hown
    · obtain ⟨he, hname⟩ := List.mem_filter.mp he
      rw [hothers _ (of_decide_eq_true hname)]
      exact h.items he

/-- The pieces of one name can be spelled anew among all others. -/
lemma exists_respelled {name : String} {pieces own : List Piece} {inLine inHeader : Bool}
    (h : List.Forall₂ Piece.Respells own (piecesOf name pieces))
    (hneat : ∀ p ∈ pieces, p.IsNeat inLine inHeader) (hown : ∀ p ∈ own, p.IsNeat inLine inHeader) :
    ∃ pieces', piecesOf name pieces' = own ∧
      (∀ name', name' ≠ name → piecesOf name' pieces' = piecesOf name' pieces) ∧
      List.Forall₂ Piece.Respells pieces' pieces ∧ ∀ p ∈ pieces', p.IsNeat inLine inHeader := by
  induction pieces generalizing own with
  | nil =>
    rw [piecesOf_nil, List.forall₂_nil_right_iff] at h
    exact ⟨[], h.symm, fun _ _ => rfl, .nil, List.forall_mem_nil _⟩
  | cons p pieces ih =>
    obtain ⟨hp, hpieces⟩ := List.forall_mem_cons.mp hneat
    by_cases hname : p.name = name
    · rw [piecesOf, List.filter_cons_of_pos (by simpa using hname)] at h
      obtain ⟨p', own', hp', hrest, rfl⟩ := List.forall₂_cons_right_iff.mp h
      obtain ⟨hneat', hown'⟩ := List.forall_mem_cons.mp hown
      obtain ⟨pieces', hown, hothers, hall, hneats⟩ := ih hrest hpieces hown'
      have hname' : p'.name = name := (Piece.Respells.name_eq hp').trans hname
      refine ⟨p' :: pieces', ?_, fun name' hne => ?_, .cons hp' hall,
        List.forall_mem_cons.mpr ⟨hneat', hneats⟩⟩
      · rw [piecesOf, List.filter_cons_of_pos (by simpa using hname')]
        exact congrArg _ hown
      · rw [piecesOf, piecesOf, List.filter_cons_of_neg (by simpa [hname'] using hne.symm),
          List.filter_cons_of_neg (by simpa [hname] using hne.symm)]
        exact hothers name' hne
    · rw [piecesOf, List.filter_cons_of_neg (by simpa using hname)] at h
      obtain ⟨pieces', hown, hothers, hall, hneats⟩ := ih h hpieces hown
      refine ⟨p :: pieces', ?_, fun name' hne => ?_, .cons (.refl p) hall,
        List.forall_mem_cons.mpr ⟨hp, hneats⟩⟩
      · rw [piecesOf, List.filter_cons_of_neg (by simpa using hname)]
        exact hown
      · have hsame := hothers name' hne
        unfold piecesOf at hsame ⊢
        rw [List.filter_cons, List.filter_cons, hsame]

/-- **One piece more.** What a piece makes of a table is made of the pieces of the table and this
one, if what it makes of the entry of its name is. -/
lemma Makes.step {pieces : List Piece} {entries entries' : Entries} {p : Piece}
    {inLine inHeader : Bool} (h : Makes pieces entries) (hput : p.put? entries = some entries')
    (hneat : ∀ q ∈ pieces, q.IsNeat inLine inHeader) (hp : p.IsNeat inLine inHeader)
    (hslot : ∀ key item, key.name = p.name → p.put? (entries.slot p.name) = some [(key, item)] →
      ∃ own, MakesItem own key item ∧
        List.Forall₂ Piece.Respells own (piecesOf p.name pieces ++ [p]) ∧
        ∀ q ∈ own, q.IsNeat inLine inHeader) :
    ∃ pieces', Makes pieces' entries' ∧ List.Forall₂ Piece.Respells pieces' (pieces ++ [p]) ∧
      ∀ q ∈ pieces', q.IsNeat inLine inHeader := by
  obtain ⟨key, item, hkey, hone, hperm⟩ := p.actsAt.perm h.nodup hput
  obtain ⟨own, hitem, hown, hownneat⟩ := hslot key item hkey hone
  have hlast : piecesOf p.name [p] = [p] := piecesOf_eq_self (by simp)
  have hall : ∀ q ∈ pieces ++ [p], q.IsNeat inLine inHeader :=
    List.forall_mem_append.mpr ⟨hneat, by simpa using hp⟩
  rw [← hlast, ← piecesOf_append] at hown
  obtain ⟨pieces', hsame, hothers, hrespells, hneats⟩ := exists_respelled hown hall hownneat
  refine ⟨pieces', h.replace (by rwa [hkey]) (by rw [hkey, hsame]; exact hitem) ?_,
    hrespells, hneats⟩
  intro name hne
  have hnone : piecesOf name [p] = [] := piecesOf_eq_nil (by simpa [← hkey] using hne.symm)
  rw [hothers name (by rwa [← hkey]), piecesOf_append, hnone, List.append_nil]

/-! ### New tables -/

/-- The names of a path. -/
def Path.names (p : Path) : List String := p.parents.map Key.name ++ [p.key.name]

/-- The item of a name in the table that names lead to. The last member stands for a list of
tables. -/
def Entries.find? : List String → String → Entries → Option Item
  | [], name, entries => entries.get? name
  | first :: rest, name, entries =>
    match entries.get? first with
    | some (.table _ inner) => find? rest name inner
    | some (.tables members) => members.getLast?.bind fun m => find? rest name m.2
    | _ => none

/-- No key with dots under a header goes on in a table that is there already: what stands first in
its path is new in the table of the header. -/
def Section.IsFresh (s : Section) (entries : Entries) : Prop :=
  s.repeated = false → ∀ m ∈ s.body, ∀ k : Key, m.1.parents.head? = some k →
    entries.find? s.path.names k.name = none

/-- A piece does not go on where it must not: in front of the last key of a line no table with a
header may come, and a section is fresh. -/
def Piece.Fits : Piece → List Piece → Entries → Prop
  | line l, pieces, _ =>
    l.path.parents ≠ [] → ∀ q ∈ pieces, q.name = (line l).name → q.isLine
  | stanza s, _, entries => s.section.IsFresh entries

/-- What a piece makes of a table is made of the pieces of the table and this one. -/
def Piece.StepsIn (p : Piece) : Prop :=
  ∀ {pieces : List Piece} {entries entries' : Entries} {inLine inHeader : Bool},
    (inHeader → inLine) → Makes pieces entries → (∀ q ∈ pieces, q.IsNeat inLine inHeader) →
    p.IsNeat inLine inHeader → p.Fits pieces entries → p.put? entries = some entries' →
    ∃ pieces', Makes pieces' entries' ∧ List.Forall₂ Respells pieces' (pieces ++ [p]) ∧
      ∀ q ∈ pieces', q.IsNeat inLine inHeader

namespace Entries

lemma get?_slot (name : String) (entries : Entries) :
    (entries.slot name).get? name = entries.get? name := by
  induction entries with
  | nil => rfl
  | cons e entries ih =>
    obtain ⟨key, item⟩ := e
    by_cases hname : key.name = name
    · rw [slot_cons_self hname, get?, get?, if_pos hname, if_pos hname]
    · unfold slot at ih ⊢
      rw [List.filter_cons_of_neg (by simpa using hname), get?, if_neg hname, ih]

lemma find?_nil (names : List String) (name : String) : find? names name [] = none := by
  cases names <;> rfl

end Entries

namespace Piece

variable {p : Piece} {key known : Key} {entries : Entries} {pieces : List Piece}

lemma fits_nil (p : Piece) : p.Fits [] [] := by
  cases p with
  | line l => exact fun _ => List.forall_mem_nil _
  | stanza s => exact fun _ _ _ _ _ => Entries.find?_nil _ _

lemma fits_of_under_header {s : Stanza} {more : List Piece} {head : Head} {inner : Entries}
    (h : ((stanza s).under key).Fits pieces entries)
    (hget : entries.get? key.name = some (.table head inner)) : (stanza s).Fits more inner := by
  intro hrepeated m hm k hk
  have hfind := h hrepeated m hm k hk
  change Entries.find? (key.name :: s.path.names) k.name entries = none at hfind
  rwa [Entries.find?, hget] at hfind

lemma fits_of_under_table {head : Head} {inner : Entries}
    (h : (p.under key).Fits (pieces.map (Piece.under known)) entries)
    (hname : known.name = key.name) (hget : entries.get? key.name = some (.table head inner)) :
    p.Fits pieces inner := by
  cases p with
  | line l =>
    intro _ q hq _
    have hline := h (List.cons_ne_nil _ _) (q.under known) (List.mem_map_of_mem hq)
      ((q.name_under known).trans (hname.trans ((Piece.line l).name_under key).symm))
    rwa [isLine_under] at hline
  | stanza s => exact fits_of_under_header h hget

/-- Nothing stands under the name of a value. -/
lemma put?_under_value {literal : Literal} {around : Option Around}
    (hname : known.name = key.name) :
    (p.under key).put? [(known, .value literal around)] = none := by
  have hname' : known.name = key.bare.name := hname
  cases p with
  | line l =>
    change Entries.alter? key.bare _ [(known, .value literal around)] = none
    rw [Entries.alter?, if_pos hname']
    rfl
  | stanza s =>
    change Entries.alter? key.bare _ [(known, .value literal around)] = none
    rw [Entries.alter?, if_pos hname']
    rfl

lemma fits_of_under_tables {s : Stanza} {more : List Piece} {members : List (Head × Entries)}
    {head : Head}
    {inner : Entries} (h : ((stanza s).under key).Fits pieces entries)
    (hget : entries.get? key.name = some (.tables (members ++ [(head, inner)]))) :
    (stanza s).Fits more inner := by
  intro hrepeated m hm k hk
  have hfind := h hrepeated m hm k hk
  change Entries.find? (key.name :: s.path.names) k.name entries = none at hfind
  rw [Entries.find?, hget] at hfind
  dsimp only at hfind
  rwa [List.getLast?_concat] at hfind

/-- What a piece under a key has to fit to are the pieces and the entry of that key. -/
lemma fits_slot (h : (p.under key).Fits pieces entries) :
    (p.under key).Fits (piecesOf key.name pieces) (entries.slot key.name) := by
  cases p with
  | line l => exact fun hne q hq hname => h hne q (List.mem_filter.mp hq).1 hname
  | stanza s =>
    intro hrepeated m hm k hk
    have hfind := h hrepeated m hm k hk
    change Entries.find? (key.name :: s.path.names) k.name entries = none at hfind
    change Entries.find? (key.name :: s.path.names) k.name (entries.slot key.name) = none
    rwa [Entries.find?, Entries.get?_slot]

end Piece

/-- The key of a table is spelled, and so are the pieces under it without the key. -/
lemma Piece.neat_of_under {own : List Piece} {key : Key} {inLine inHeader : Bool}
    (hneat : ∀ q ∈ own.map (Piece.under key), q.IsNeat inLine inHeader) :
    (own ≠ [] → key.bare.IsInner) ∧
      (∀ q ∈ own, (if q.isLine then inLine else inHeader) → key.inner.before = "") ∧
      ∀ q ∈ own, q.IsNeat false false := by
  have hall : ∀ q ∈ own, (q.under key).IsNeat inLine inHeader :=
    fun q hq => hneat _ (List.mem_map_of_mem hq)
  refine ⟨fun hne => ?_, fun q hq => (Piece.isNeat_under_iff.mp (hall q hq)).2.1,
    fun q hq => (Piece.isNeat_under_iff.mp (hall q hq)).2.2⟩
  obtain ⟨q, hq⟩ := List.exists_mem_of_ne_nil _ hne
  exact (Piece.isNeat_under_iff.mp (hall q hq)).1

/-- Pieces go under a key that is spelled. -/
lemma Piece.neat_under {own : List Piece} {key : Key} {inLine inHeader : Bool}
    (hkey : key.bare.IsInner)
    (hbefore : ∀ q ∈ own, (if q.isLine then inLine else inHeader) → key.inner.before = "")
    (hneat : ∀ q ∈ own, q.IsNeat false false) :
    ∀ q ∈ own.map (Piece.under key), q.IsNeat inLine inHeader := by
  intro p hp
  obtain ⟨q, hq, rfl⟩ := List.mem_map.mp hp
  exact Piece.isNeat_under_iff.mpr ⟨hkey, hbefore q hq, hneat q hq⟩

/-- The key of a header is spelled. -/
lemma Stanza.IsNeat.own {s : Stanza} {key : Key} {inHeader : Bool} (h : s.IsNeat inHeader)
    (hpath : s.path = ⟨[], key⟩) :
    key.bare.IsInner ∧ (inHeader → key.inner.before = "") ∧ key.IsLast := by
  have hkey := h.key
  have hsingle := h.single
  rw [hpath] at hkey hsingle
  exact ⟨hkey.toIsSpelled.bare, fun hfirst => hsingle hfirst rfl, hkey⟩

lemma Piece.exists_stanza {p q : Piece} {own : List Piece} (hline : p.isLine → ∀ q ∈ own, q.isLine)
    (hq : q ∈ own) (hstanza : q.isLine = false) : ∃ s, p = .stanza s := by
  cases p with
  | line l =>
    have hqline := hline rfl q hq
    rw [hstanza] at hqline
    cases hqline
  | stanza s => exact ⟨s, rfl⟩

lemma isLine_of_mem_map_stanza {stanzas : List Stanza} {q : Piece}
    (hq : q ∈ stanzas.map Piece.stanza) : q.isLine = false := by
  obtain ⟨s, -, rfl⟩ := List.mem_map.mp hq
  rfl

/-- What goes on under a header changes the table of this header. -/
lemma step_header {s₀ s : Stanza} {before behind : List Stanza} {key known : Key}
    {inner inner' : Entries} {inLine inHeader : Bool} (ih : (Piece.stanza s₀).StepsIn)
    (h : Makes (before.map .stanza ++ s.lines.map .line ++ behind.map .stanza) inner)
    (hpath : s.path = ⟨[], known⟩) (hname : known.name = key.name)
    (hneat : ∀ q ∈ (before.map Piece.stanza).map (Piece.under known) ++
      .stanza s :: (behind.map Piece.stanza).map (Piece.under known), q.IsNeat inLine inHeader)
    (hp : (Piece.stanza s₀).IsNeat false false)
    (hfits : ∀ more, (Piece.stanza s₀).Fits more inner)
    (hput : (Piece.stanza s₀).put? inner = some inner') :
    ∃ (before' : List Stanza) (lines' : List Line) (behind' : List Stanza),
      Makes (before'.map .stanza ++ lines'.map .line ++ behind'.map .stanza) inner' ∧
      (s.lines ≠ [] → lines' ≠ []) ∧ (before = [] → before' = []) ∧
      List.Forall₂ Piece.Respells ((before'.map Piece.stanza).map (Piece.under known) ++
          .stanza { s with lines := lines' } :: (behind'.map Piece.stanza).map (Piece.under known))
        (((before.map Piece.stanza).map (Piece.under known) ++
          .stanza s :: (behind.map Piece.stanza).map (Piece.under known)) ++
            [(Piece.stanza s₀).under key]) ∧
      ∀ q ∈ (before'.map Piece.stanza).map (Piece.under known) ++
        .stanza { s with lines := lines' } :: (behind'.map Piece.stanza).map (Piece.under known),
        q.IsNeat inLine inHeader := by
  obtain ⟨hneatbefore, hneatrest⟩ := List.forall_mem_append.mp hneat
  obtain ⟨hneats, hneatbehind⟩ := List.forall_mem_cons.mp hneatrest
  obtain ⟨hkey, hfirst, -⟩ := Stanza.IsNeat.own hneats hpath
  -- without the key, a header is not the beginning of a path and a line is
  have hinner : ∀ q ∈ before.map Piece.stanza ++ s.lines.map Piece.line ++
      behind.map Piece.stanza, q.IsNeat true false := by
    refine List.forall_mem_append.mpr ⟨List.forall_mem_append.mpr ⟨fun q hq => ?_, fun q hq => ?_⟩,
      fun q hq => ?_⟩
    · exact Piece.isNeat_of_stanza (isLine_of_mem_map_stanza hq)
        ((Piece.neat_of_under hneatbefore).2.2 q hq)
    · obtain ⟨l, hl, rfl⟩ := List.mem_map.mp hq
      exact hneats.lines l hl
    · exact Piece.isNeat_of_stanza (isLine_of_mem_map_stanza hq)
        ((Piece.neat_of_under hneatbehind).2.2 q hq)
  obtain ⟨pieces', hmakes, hrespells, hneat'⟩ := @ih _ _ _ true false nofun h hinner
    (Piece.isNeat_of_stanza rfl hp) (hfits _) hput
  rw [List.append_assoc] at hrespells
  obtain ⟨front, rest, rfl, hfront, hrest⟩ := Piece.Rel.exists_append hrespells
  obtain ⟨first, second, rfl, hbefore, hlines⟩ := Piece.Rel.exists_append hfront
  obtain ⟨before', rfl, hbefore'⟩ := Piece.Rel.exists_map_stanza hbefore
  obtain ⟨lines', rfl, hlines'⟩ := Piece.Rel.exists_map_line hlines
  obtain ⟨behind', s', rfl, -, -⟩ := Piece.Respells.exists_stanzas hrest
  rw [← Piece.map_stanza_concat] at hmakes hrest hneat'
  obtain ⟨hneatfront, hneatrest'⟩ := List.forall_mem_append.mp hneat'
  obtain ⟨hneatbefore', hneatlines'⟩ := List.forall_mem_append.mp hneatfront
  have hunder : ∀ stanzas : List Stanza, (∀ q ∈ stanzas.map Piece.stanza, q.IsNeat true false) →
      ∀ q ∈ (stanzas.map Piece.stanza).map (Piece.under known), q.IsNeat inLine inHeader :=
    fun stanzas hall => Piece.neat_under hkey
      (fun q hq hflag => hfirst (by rwa [isLine_of_mem_map_stanza hq] at hflag))
      fun q hq => Piece.isNeat_of_stanza (isLine_of_mem_map_stanza hq) (hall q hq)
  refine ⟨before', lines', behind' ++ [s'], hmakes, ?_, ?_, ?_, ?_⟩
  · rintro hne rfl
    exact hne (List.forall₂_nil_left_iff.mp hlines')
  · rintro rfl
    exact List.forall₂_nil_right_iff.mp hbefore'
  · rw [List.append_assoc, List.cons_append]
    exact List.rel_append (Piece.Respells.map_under hbefore rfl)
      (.cons (.stanza ⟨rfl, rfl, rfl, rfl, hlines'⟩) (Piece.Respells.map_under_append hrest hname))
  · refine List.forall_mem_append.mpr ⟨hunder before' hneatbefore', List.forall_mem_cons.mpr
      ⟨⟨hneats.path, hneats.key, hneats.single, hneats.implicit, hneats.dotted, fun l hl => ?_⟩,
        hunder _ hneatrest'⟩⟩
    exact hneatlines' _ (List.mem_map_of_mem hl)

/-- A table with a header or without one, what goes on in it, and what is made of it. -/
lemma MakesItem.step_table {p : Piece} {own : List Piece} {key known : Key} {head : Head}
    {inner inner' : Entries} {inLine inHeader : Bool} (ih : p.StepsIn)
    (h : MakesItem own known (.table head inner)) (hname : known.name = key.name)
    (hflags : inHeader → inLine) (hneat : ∀ q ∈ own, q.IsNeat inLine inHeader)
    (hp : p.IsNeat false false) (hfits : (p.under key).Fits own [(known, .table head inner)])
    (hline : p.isLine → ∀ q ∈ own, q.isLine) (hput : p.put? inner = some inner') :
    ∃ own', MakesItem own' known (.table head inner') ∧
      List.Forall₂ Piece.Respells own' (own ++ [p.under key]) ∧
      ∀ q ∈ own', q.IsNeat inLine inHeader := by
  have hget : Entries.get? key.name [(known, Item.table head inner)] =
    some (.table head inner) := by
    rw [Entries.get?, if_pos hname]
  cases h with
  | dotted h =>
    rename_i l pieces
    obtain ⟨hkey, hbefore, hneat₀⟩ := Piece.neat_of_under hneat
    obtain ⟨pieces', hmakes, hrespells, hneat'⟩ :=
      ih id h hneat₀ hp (Piece.fits_of_under_table hfits hname hget) hput
    have hunder := Piece.Respells.map_under_append hrespells hname
    have hneats := Piece.neat_under (hkey (List.cons_ne_nil _ _)) (fun q _ hflag =>
      hbefore _ List.mem_cons_self (by
        cases hq : q.isLine with
        | true => rwa [hq] at hflag
        | false => rw [hq] at hflag; exact hflags hflag)) hneat'
    obtain ⟨q, rest, hq, -, rfl⟩ := List.forall₂_cons_right_iff.mp hrespells
    cases hq with
    | line hl => exact ⟨_, .dotted hmakes, hunder, hneats⟩
  | implicit hbare hne h =>
    rename_i stanzas
    obtain ⟨s₀, rfl⟩ := Piece.exists_stanza hline (List.mem_map_of_mem
      (List.mem_map_of_mem (List.head_mem hne))) rfl
    obtain ⟨hkey, hbefore, hneat₀⟩ := Piece.neat_of_under hneat
    obtain ⟨pieces', hmakes, hrespells, hneat'⟩ :=
      ih id h hneat₀ hp (Piece.fits_of_under_table hfits hname hget) hput
    have hunder := Piece.Respells.map_under_append hrespells hname
    have hhead := hbefore _ (List.mem_map_of_mem (List.head_mem hne))
    obtain ⟨stanzas', s', rfl, -, -⟩ := Piece.Respells.exists_stanzas hrespells
    rw [← Piece.map_stanza_concat] at hmakes hunder hneat'
    have hneats := Piece.neat_under (hkey (by simpa using hne))
      (fun q hq hflag => hhead (by rwa [isLine_of_mem_map_stanza hq] at hflag)) hneat'
    exact ⟨_, .implicit hbare (by simp) hmakes, hunder, hneats⟩
  | headed hpath hrepeated hdotted himplicit h =>
    rename_i s before behind
    obtain ⟨s₀, rfl⟩ := Piece.exists_stanza hline (List.mem_append_right _ List.mem_cons_self) rfl
    obtain ⟨before', lines', behind', hmakes, hne, -, hrespells, hneat'⟩ := step_header ih h hpath
      hname hneat hp (fun more => Piece.fits_of_under_header hfits hget) hput
    exact ⟨_, .headed (s := { s with lines := lines' }) hpath hrepeated hdotted
      (fun hs => hne (himplicit hs)) hmakes, hrespells, hneat'⟩

/-- What goes on in a list of tables goes on in its last member. -/
lemma MakesItem.step_tables {s₀ : Stanza} {own : List Piece} {key known : Key}
    {all : List (Head × Entries)} {inLine inHeader : Bool} (ih : (Piece.stanza s₀).StepsIn)
    (h : MakesItem own known (.tables all)) (hname : known.name = key.name)
    (hneat : ∀ q ∈ own, q.IsNeat inLine inHeader) (hp : (Piece.stanza s₀).IsNeat false false)
    (hfits : ((Piece.stanza s₀).under key).Fits own [(known, .tables all)]) :
    ∃ members head inner, all = members ++ [(head, inner)] ∧
      ∀ inner', (Piece.stanza s₀).put? inner = some inner' →
        ∃ own', MakesItem own' known (.tables (members ++ [(head, inner')])) ∧
          List.Forall₂ Piece.Respells own' (own ++ [(Piece.stanza s₀).under key]) ∧
          ∀ q ∈ own', q.IsNeat inLine inHeader := by
  have hget : Entries.get? key.name [(known, Item.tables all)] = some (.tables all) := by
    rw [Entries.get?, if_pos hname]
  cases h with
  | first hpath hrepeated h =>
    rename_i s behind inner
    have hlast : Entries.get? key.name [(known, Item.tables [(s.head, inner)])] =
        some (.tables ([] ++ [(s.head, inner)])) := hget
    refine ⟨[], s.head, inner, rfl, fun inner' hput => ?_⟩
    obtain ⟨before', lines', behind', hmakes, -, hnone, hrespells, hneat'⟩ :=
      @step_header s₀ s [] behind key known inner inner' _ _ ih h hpath hname hneat hp
        (fun more => Piece.fits_of_under_tables hfits hlast) hput
    obtain rfl := hnone rfl
    exact ⟨_, .first (s := { s with lines := lines' }) hpath hrepeated hmakes, hrespells, hneat'⟩
  | more hmembers hpath hrepeated h =>
    rename_i pieces members s behind inner
    refine ⟨members, s.head, inner, rfl, fun inner' hput => ?_⟩
    obtain ⟨hneatmembers, hneatlast⟩ := List.forall_mem_append.mp hneat
    obtain ⟨before', lines', behind', hmakes, -, hnone, hrespells, hneat'⟩ :=
      @step_header s₀ s [] behind key known inner inner' _ _ ih h hpath hname hneatlast hp
        (fun more => Piece.fits_of_under_tables hfits hget) hput
    obtain rfl := hnone rfl
    refine ⟨_, .more (s := { s with lines := lines' }) hmembers hpath hrepeated hmakes, ?_,
      List.forall_mem_append.mpr ⟨hneatmembers, hneat'⟩⟩
    rw [List.append_assoc]
    exact List.rel_append (List.forall₂_same.mpr fun q _ => .refl q) hrespells

/-- A table without a line directly under its key, or a list of tables, has a header among its
pieces. -/
lemma MakesItem.cases_lines {own : List Piece} {known : Key} {item : Item}
    (h : MakesItem own known item) (hlines : ∀ q ∈ own, q.isLine) :
    (∃ literal around, item = .value literal around) ∨
      ∃ inner, item = .table Entries.dottedHead inner := by
  have hno : ∀ {s : Stanza}, .stanza s ∈ own → False := by
    intro s hs
    have hline := hlines _ hs
    cases hline
  cases h with
  | value => exact .inl ⟨_, _, rfl⟩
  | dotted h => exact .inr ⟨_, rfl⟩
  | implicit hbare hne h =>
    exact (hno (List.mem_map_of_mem (List.mem_map_of_mem (List.head_mem hne)))).elim
  | headed hpath hrepeated hdotted himplicit h =>
    exact (hno (List.mem_append_right _ List.mem_cons_self)).elim
  | first hpath hrepeated h => exact (hno List.mem_cons_self).elim
  | more hmembers hpath hrepeated h =>
    exact (hno (List.mem_append_right _ List.mem_cons_self)).elim

/-- A piece goes on under a key as it does without the key. -/
lemma Piece.StepsIn.under {p : Piece} (ih : p.StepsIn) {key : Key} : (p.under key).StepsIn := by
  intro pieces entries entries' inLine inHeader hflags h hneat hp hfits hput
  refine h.step hput hneat hp fun key' item' hname hone => ?_
  have hfits' := Piece.fits_slot hfits
  rw [Piece.name_under] at hname hone ⊢
  obtain ⟨hkey, hbefore, hp₀⟩ := Piece.isNeat_under_iff.mp hp
  have hown : ∀ q ∈ piecesOf key.name pieces, q.IsNeat inLine inHeader :=
    fun q hq => hneat q (List.mem_filter.mp hq).1
  rcases h.slot_cases key.name with ⟨hslot, hnone⟩ | ⟨known, item, hknown, hslot, hitem⟩
  · rw [hslot, Piece.put?_under_nil] at hone
    obtain ⟨inner, hinner, heq⟩ := Option.map_eq_some_iff.mp hone
    obtain ⟨rfl, rfl⟩ := Prod.mk.inj (List.head_eq_of_cons_eq heq)
    obtain ⟨pieces', hmakes, hrespells, hneat'⟩ :=
      @ih [] [] inner false false id .nil (List.forall_mem_nil _) hp₀ p.fits_nil hinner
    obtain ⟨p', rest, hp', hrest, rfl⟩ := List.forall₂_cons_right_iff.mp hrespells
    obtain rfl := List.forall₂_nil_right_iff.mp hrest
    have hneats := Piece.neat_under hkey (fun q hq hflag => hbefore (by
      rw [List.mem_singleton.mp hq, Piece.Respells.isLine_eq hp'] at hflag
      exact hflag)) hneat'
    have hunder : List.Forall₂ Piece.Respells ([p'].map (Piece.under key))
        (piecesOf key.name pieces ++ [p.under key]) := by
      rw [hnone]
      exact .cons (Piece.Respells.under hp' rfl) .nil
    refine ⟨[p'].map (Piece.under key), ?_, hunder, hneats⟩
    rw [← Piece.under_bare]
    cases hp' with
    | line hl => exact .dotted hmakes
    | stanza hs =>
      rename_i s' s
      exact @MakesItem.implicit key.bare [s'] inner rfl (List.cons_ne_nil _ _) hmakes
  · rw [hslot] at hone hfits'
    generalize piecesOf key.name pieces = own at *
    have hline : p.isLine → ∀ q ∈ own, q.isLine := by
      intro hp' q hq
      cases p with
      | line l =>
        exact hfits' (List.cons_ne_nil _ _) q hq
          ((hitem.name q hq).trans (hknown.trans ((Piece.line l).name_under key).symm))
      | stanza s => cases hp'
    cases item with
    | value literal around =>
      rw [Piece.put?_under_value hknown] at hone
      cases hone
    | table head inner =>
      have hhead : p.isLine → head.dotted ∧ head.implicit := by
        intro hp'
        rcases hitem.cases_lines (hline hp') with ⟨literal, around, heq⟩ | ⟨inner', heq⟩
        · cases heq
        · cases heq
          exact ⟨rfl, rfl⟩
      rw [Piece.put?_under hknown hhead] at hone
      obtain ⟨inner', hinner, heq⟩ := Option.map_eq_some_iff.mp hone
      obtain ⟨rfl, rfl⟩ := Prod.mk.inj (List.head_eq_of_cons_eq heq)
      exact hitem.step_table ih hknown hflags hown hp₀ hfits' hline hinner
    | tables all =>
      cases p with
      | line l =>
        rcases hitem.cases_lines (hline rfl) with ⟨literal, around, heq⟩ |
          ⟨inner', heq⟩ <;> cases heq
      | stanza s₀ =>
        obtain ⟨members, head, inner, rfl, hstep⟩ := hitem.step_tables ih hknown hown hp₀ hfits'
        rw [Piece.put?_under_tables hknown rfl] at hone
        obtain ⟨inner', hinner, heq⟩ := Option.map_eq_some_iff.mp hone
        obtain ⟨rfl, rfl⟩ := Prod.mk.inj (List.head_eq_of_cons_eq heq)
        exact hstep inner' hinner

/-- **One line more.** -/
lemma Line.stepsIn (l : Line) : (Piece.line l).StepsIn := by
  obtain ⟨⟨parents, key⟩, literal, around⟩ := l
  induction parents with
  | nil =>
    intro pieces entries entries' inLine inHeader _ h hneat hp _ hput
    obtain ⟨hnone, rfl⟩ := Entries.add?_eq_some_iff.mp hput
    have hnodup : (entries.names ++ [key.name]).Nodup :=
      List.nodup_append.mpr ⟨h.nodup, List.nodup_singleton _, by
        rintro name hname _ hkey rfl
        exact hnone (List.mem_singleton.mp hkey ▸ hname)⟩
    rw [← List.append_nil pieces] at h
    have hmakes : Makes (pieces ++ [⟨⟨[], key⟩, literal, around⟩].map Piece.line ++ [])
        (entries ++ [⟨⟨[], key⟩, literal, around⟩].map Line.entry) := h.insert (by simp) hnodup
    rw [List.append_nil] at hmakes
    exact ⟨_, hmakes, List.forall₂_same.mpr fun q _ => .refl q,
      List.forall_mem_append.mpr ⟨hneat, by simpa using hp⟩⟩
  | cons first parents ih =>
    intro pieces entries entries' inLine inHeader hflags h hneat hp hfits hput
    have hfirst : first.bare = first := (hp.parents first List.mem_cons_self).bare_eq
    have hunder : Piece.line ⟨⟨first :: parents, key⟩, literal, around⟩ =
        (Piece.line ⟨⟨parents, key⟩, literal, around⟩).under first := by
      rw [Piece.under, Line.under, hfirst]
      rfl
    rw [hunder] at hp hfits hput ⊢
    exact ih.under hflags h hneat hp hfits hput

/-- **Lines.** Lines one after the other are pieces that make a table with those that made it. -/
lemma Makes.add_lines {lines : List Line} {pieces : List Piece} {entries entries' : Entries}
    {inLine inHeader : Bool} (hflags : inHeader → inLine) (h : Makes pieces entries)
    (hneat : ∀ q ∈ pieces, q.IsNeat inLine inHeader) (hlines : ∀ l ∈ lines, l.path.IsNeat inLine)
    (hfits : ∀ l ∈ lines, (Piece.line l).Fits pieces entries)
    (hadd : Entries.addAll? (lines.map Piece.line) entries = some entries') :
    ∃ pieces', Makes pieces' entries' ∧
      List.Forall₂ Piece.Respells pieces' (pieces ++ lines.map Piece.line) ∧
      ∀ q ∈ pieces', q.IsNeat inLine inHeader := by
  induction lines generalizing pieces entries with
  | nil =>
    obtain rfl := Option.some.inj hadd
    rw [List.map_nil, List.append_nil]
    exact ⟨pieces, h, List.forall₂_same.mpr fun q _ => .refl q, hneat⟩
  | cons l lines ih =>
    obtain ⟨hl, hrest⟩ := List.forall_mem_cons.mp hlines
    obtain ⟨hfit, hfits⟩ := List.forall_mem_cons.mp hfits
    rw [List.map_cons, Entries.addAll?_cons] at hadd
    obtain ⟨next, hnext, hadd⟩ := Option.bind_eq_some_iff.mp hadd
    obtain ⟨pieces₁, hmakes, hrespells, hneat₁⟩ := l.stepsIn hflags h hneat hl hfit hnext
    have hfits₁ : ∀ l' ∈ lines, (Piece.line l').Fits pieces₁ next := by
      intro l' hl' hne q hq hname
      obtain ⟨q₀, hq₀, hqq₀⟩ := exists_of_forall₂_of_mem hrespells hq
      rw [Piece.Respells.isLine_eq hqq₀]
      rw [Piece.Respells.name_eq hqq₀] at hname
      rcases List.mem_append.mp hq₀ with hq₀ | hq₀
      · exact hfits l' hl' hne q₀ hq₀ hname
      · rw [List.mem_singleton.mp hq₀]
        rfl
    obtain ⟨pieces', hmakes', hrespells', hneat'⟩ := ih hmakes hneat₁ hrest hfits₁ hadd
    refine ⟨pieces', hmakes', ?_, hneat'⟩
    refine forall₂_trans (R := Piece.Respells) (fun _ _ _ => .trans) hrespells' ?_
    rw [List.map_cons, List.append_cons]
    exact List.rel_append hrespells (List.forall₂_same.mpr fun q _ => .refl q)

/-- A header that may be repeated goes on in a list of tables and in nothing else. -/
lemma Piece.put?_repeated_some {s : Stanza} {key known : Key} {item : Item} {entries' : Entries}
    (hpath : s.path = ⟨[], key⟩) (hname : known.name = key.name) (hrepeated : s.repeated = true)
    (hput : (stanza s).put? [(known, item)] = some entries') :
    ∃ members, item = .tables members := by
  have hkey : s.section.path.key = key := by rw [Stanza.section, hpath]
  rw [put?_stanza hpath, Entries.addBeside?, if_pos (by exact hrepeated), hkey] at hput
  obtain ⟨body, -, hput⟩ := Option.bind_eq_some_iff.mp hput
  rw [Entries.alter?, if_pos hname] at hput
  cases item with
  | value literal around => cases hput
  | table head inner => cases hput
  | tables members => exact ⟨members, rfl⟩

/-- A header that names one table goes on in a table without a header and in nothing else. -/
lemma Piece.put?_headed_some {s : Stanza} {key known : Key} {item : Item} {entries' : Entries}
    (hpath : s.path = ⟨[], key⟩) (hname : known.name = key.name) (hrepeated : s.repeated = false)
    (hput : (stanza s).put? [(known, item)] = some entries') :
    ∃ head inner, item = .table head inner ∧ head.implicit ∧ head.dotted = false := by
  have hkey : s.section.path.key = key := by rw [Stanza.section, hpath]
  rw [← hkey] at hname
  have hsplit : [(known, item)] = ([] : Entries) ++ (known, item) :: [] := rfl
  rw [put?_stanza hpath, hsplit,
    Entries.addBeside?_split hrepeated hname (by simp) (by simp)] at hput
  obtain ⟨e, he, -⟩ := Option.map_eq_some_iff.mp hput
  unfold Entries.tableBeside? at he
  split at he
  · cases ‹some (known, item) = none›
  · rename_i head inner heq
    obtain ⟨rfl, rfl⟩ := Prod.mk.inj (Option.some.inj heq)
    split at he
    · rename_i hopen
      rw [Bool.and_eq_true, Bool.not_eq_true'] at hopen
      exact ⟨head, inner, rfl, hopen⟩
    · cases he
  · cases he

/-- A list of tables has a header with its key among its pieces. -/
lemma MakesItem.exists_header {own : List Piece} {known : Key} {members : List (Head × Entries)}
    (h : MakesItem own known (.tables members)) :
    ∃ s : Stanza, .stanza s ∈ own ∧ s.path = ⟨[], known⟩ := by
  cases h with
  | first hpath hrepeated h => exact ⟨_, List.mem_cons_self, hpath⟩
  | more hmembers hpath hrepeated h => exact ⟨_, List.mem_append_right _ List.mem_cons_self, hpath⟩

/-- No line under a fresh header goes on in the table that gets the header. -/
lemma fits_of_isFresh {entries inner : Entries} {pieces : List Piece} {key : Key}
    {head head' : Head} {lines : List Line} {repeated : Bool} (h : Makes pieces inner)
    (hrepeated : repeated = false)
    (hget : entries.get? key.name = some (.table head' inner))
    (hfresh : Section.IsFresh ⟨⟨[], key⟩, repeated, head, lines.map Line.member⟩ entries) :
    ∀ l ∈ lines, (Piece.line l).Fits pieces inner := by
  intro l hl hparents q hq hname
  obtain ⟨first, more, hcons⟩ := List.exists_cons_of_ne_nil hparents
  have hfind := hfresh hrepeated l.member (List.mem_map_of_mem hl) first
    (by rw [Line.member, hcons]; rfl)
  change Entries.find? [key.name] first.name entries = none at hfind
  rw [Entries.find?, hget] at hfind
  have hname' : q.name = first.name := by
    rw [hname, Piece.name, Piece.path, hcons]
    rfl
  have hmem := h.names hq
  rw [hname'] at hmem
  exact absurd hfind (Entries.get?_ne_none hmem)

section OwnHeader

variable {key : Key} {repeated : Bool} {head : Head} {lines : List Line} {pieces : List Piece}
  {entries : Entries} {inLine inHeader : Bool}
  (hs : Stanza.IsNeat inHeader ⟨⟨[], key⟩, repeated, head, lines⟩)

include hs

/-- The lines under a header alone make a table. -/
lemma exists_body {inner : Entries}
    (hinner : Entries.addAll? (lines.map Piece.line) [] = some inner) :
    ∃ lines', Makes (lines'.map Piece.line ++ ([] : List Stanza).map Piece.stanza) inner ∧
      List.Forall₂ Line.Respells lines' lines ∧
      Stanza.IsNeat inHeader ⟨⟨[], key⟩, repeated, head, lines'⟩ := by
  obtain ⟨pieces', hmakes, hrespells, hneat'⟩ := @Makes.add_lines lines [] [] inner true false
    nofun .nil (List.forall_mem_nil _) hs.lines (fun l _ => (Piece.line l).fits_nil) hinner
  obtain ⟨lines', rfl, hlines'⟩ := Piece.Rel.exists_map_line hrespells
  refine ⟨lines', ?_, hlines', hs.path, hs.key, hs.single, hs.implicit, hs.dotted,
    fun l hl => hneat' _ (List.mem_map_of_mem hl)⟩
  rw [List.map_nil, List.append_nil]
  exact hmakes

/-- A header that may be repeated makes a list of tables, or adds a table to one. -/
lemma step_repeated (h : Makes pieces entries) (hrepeated : repeated = true)
    (hneat : ∀ q ∈ pieces, q.IsNeat inLine inHeader) {key' : Key} {item' : Item}
    (hone : (Piece.stanza ⟨⟨[], key⟩, repeated, head, lines⟩).put? (entries.slot key.name) =
      some [(key', item')]) :
    ∃ own, MakesItem own key' item' ∧
      List.Forall₂ Piece.Respells own
        (piecesOf key.name pieces ++ [.stanza ⟨⟨[], key⟩, repeated, head, lines⟩]) ∧
      ∀ q ∈ own, q.IsNeat inLine inHeader := by
  rcases h.slot_cases key.name with ⟨hslot, hnone⟩ | ⟨known, item, hknown, hslot, hitem⟩
  · rw [hslot, (@Piece.put?_repeated key key [] ⟨⟨[], key⟩, repeated, head, lines⟩ rfl hrepeated).1]
      at hone
    obtain ⟨inner, hinner, heq⟩ := Option.map_eq_some_iff.mp hone
    obtain ⟨rfl, rfl⟩ := Prod.mk.inj (List.head_eq_of_cons_eq heq)
    obtain ⟨lines', hmakes, hlines', hneat'⟩ := exists_body hs hinner
    rw [hnone]
    refine ⟨_, @MakesItem.first key ⟨⟨[], key⟩, repeated, head, lines'⟩ [] inner rfl
      hrepeated hmakes,
      .cons (.stanza ⟨rfl, rfl, rfl, rfl, hlines'⟩) .nil, ?_⟩
    exact List.forall_mem_cons.mpr ⟨hneat', List.forall_mem_nil _⟩
  · rw [hslot] at hone
    obtain ⟨members, rfl⟩ := Piece.put?_repeated_some rfl hknown hrepeated hone
    rw [(@Piece.put?_repeated key known members ⟨⟨[], key⟩, repeated, head, lines⟩ rfl hrepeated).2
      hknown] at hone
    obtain ⟨inner, hinner, heq⟩ := Option.map_eq_some_iff.mp hone
    obtain ⟨rfl, rfl⟩ := Prod.mk.inj (List.head_eq_of_cons_eq heq)
    obtain ⟨lines', hmakes, hlines', hneat'⟩ := exists_body hs hinner
    -- the key of the list is that of its first header
    obtain ⟨s, hmem, hpath⟩ := hitem.exists_header
    have hfirst : s.IsNeat inHeader := hneat _ (List.mem_filter.mp hmem).1
    have hfirst' := hfirst.single
    have hlast := hfirst.key
    rw [hpath] at hfirst' hlast
    refine ⟨_, @MakesItem.more known _ members ⟨⟨[], known⟩, repeated, head, lines'⟩ []
      inner hitem rfl
      hrepeated hmakes, List.rel_append (List.forall₂_same.mpr fun q _ => .refl q)
        (.cons (.stanza ⟨rfl, hknown, rfl, rfl, hlines'⟩) .nil), ?_⟩
    refine List.forall_mem_append.mpr ⟨fun q hq => hneat q (List.mem_filter.mp hq).1,
      List.forall_mem_cons.mpr ⟨?_, List.forall_mem_nil _⟩⟩
    exact ⟨⟨nofun, fun _ => nofun⟩, hlast, hfirst', hneat'.implicit, hneat'.dotted, hneat'.lines⟩

/-- The lines under a header go on in the table that headers below it have made. -/
lemma exists_lines_behind {stanzas : List Stanza} {inner inner' : Entries}
    (h : Makes (stanzas.map Piece.stanza) inner)
    (hneat : ∀ q ∈ stanzas.map Piece.stanza, q.IsNeat false false)
    (hfits : ∀ l ∈ lines, (Piece.line l).Fits (stanzas.map Piece.stanza) inner)
    (hinner : Entries.addAll? (lines.map Piece.line) inner = some inner') :
    ∃ (stanzas' : List Stanza) (lines' : List Line),
      Makes (stanzas'.map Piece.stanza ++ lines'.map Piece.line) inner' ∧
      List.Forall₂ Piece.Respells (stanzas'.map Piece.stanza) (stanzas.map Piece.stanza) ∧
      List.Forall₂ Line.Respells lines' lines ∧
      (∀ q ∈ stanzas'.map Piece.stanza, q.IsNeat true false) ∧
      ∀ l ∈ lines', l.path.IsNeat true := by
  have hneat₀ : ∀ q ∈ stanzas.map Piece.stanza, q.IsNeat true false :=
    fun q hq => Piece.isNeat_of_stanza (isLine_of_mem_map_stanza hq) (hneat q hq)
  obtain ⟨pieces', hmakes, hrespells, hneat'⟩ :=
    @Makes.add_lines lines _ _ _ true false nofun h hneat₀ hs.lines hfits hinner
  obtain ⟨front, rest, rfl, hfront, hrest⟩ := Piece.Rel.exists_append hrespells
  obtain ⟨stanzas', rfl, -⟩ := Piece.Rel.exists_map_stanza hfront
  obtain ⟨lines', rfl, hlines'⟩ := Piece.Rel.exists_map_line hrest
  obtain ⟨hneatfront, hneatrest⟩ := List.forall_mem_append.mp hneat'
  exact ⟨stanzas', lines', hmakes, hfront, hlines', hneatfront,
    fun l hl => hneatrest _ (List.mem_map_of_mem hl)⟩

/-- A header that names one table makes a table, or gives a header to one. -/
lemma step_headed (h : Makes pieces entries) (hrepeated : repeated = false)
    (hneat : ∀ q ∈ pieces, q.IsNeat inLine inHeader)
    (hfits : (Piece.stanza ⟨⟨[], key⟩, repeated, head, lines⟩).Fits pieces entries) {key' : Key}
    {item' : Item} (hone : (Piece.stanza ⟨⟨[], key⟩, repeated, head, lines⟩).put?
      (entries.slot key.name) = some [(key', item')]) :
    ∃ own, MakesItem own key' item' ∧
      List.Forall₂ Piece.Respells own
        (piecesOf key.name pieces ++ [.stanza ⟨⟨[], key⟩, repeated, head, lines⟩]) ∧
      ∀ q ∈ own, q.IsNeat inLine inHeader := by
  obtain ⟨hkey, hfirst, -⟩ := hs.own rfl
  rcases h.slot_cases key.name with ⟨hslot, hnone⟩ | ⟨known, item, hknown, hslot, hitem⟩
  · rw [hslot, (@Piece.put?_headed key key [] ⟨⟨[], key⟩, repeated, head, lines⟩ rfl hrepeated).1]
      at hone
    obtain ⟨inner, hinner, heq⟩ := Option.map_eq_some_iff.mp hone
    obtain ⟨rfl, rfl⟩ := Prod.mk.inj (List.head_eq_of_cons_eq heq)
    obtain ⟨lines', hmakes, hlines', hneat'⟩ := exists_body hs hinner
    rw [hnone]
    refine ⟨_, @MakesItem.headed key ⟨⟨[], key⟩, repeated, head, lines'⟩ [] [] inner rfl hrepeated
      hs.dotted (fun himplicit => ?_) hmakes,
        .cons (.stanza ⟨rfl, rfl, rfl, rfl, hlines'⟩) .nil, ?_⟩
    · rw [hs.implicit] at himplicit
      cases himplicit
    · exact List.forall_mem_cons.mpr ⟨hneat', List.forall_mem_nil _⟩
  · rw [hslot] at hone
    obtain ⟨head', inner, rfl, himplicit', hdotted'⟩ :=
      Piece.put?_headed_some rfl hknown hrepeated hone
    have hget : entries.get? key.name = some (.table head' inner) := by
      rw [← Entries.get?_slot, hslot, Entries.get?, if_pos hknown]
    have hown : ∀ q ∈ piecesOf key.name pieces, q.IsNeat inLine inHeader :=
      fun q hq => hneat q (List.mem_filter.mp hq).1
    generalize piecesOf key.name pieces = own at *
    cases hitem with
    | dotted h => cases hdotted'
    | headed hpath hrepeated hdotted himplicit h =>
      have hheader : Stanza.IsNeat inHeader _ :=
        hown _ (List.mem_append_right _ List.mem_cons_self)
      rw [hheader.implicit] at himplicit'
      cases himplicit'
    | implicit hbare hne h =>
      rename_i stanzas
      have hneat₀ := (Piece.neat_of_under hown).2.2
      rw [(@Piece.put?_headed key known inner ⟨⟨[], key⟩, repeated, head, lines⟩ rfl hrepeated).2
        hknown] at hone
      obtain ⟨inner', hinner, heq⟩ := Option.map_eq_some_iff.mp hone
      obtain ⟨rfl, rfl⟩ := Prod.mk.inj (List.head_eq_of_cons_eq heq)
      obtain ⟨before', lines', hmakes, hfront, hlines', hneatfront, hneatrest⟩ :=
        exists_lines_behind hs h hneat₀ (fits_of_isFresh h hrepeated hget hfits) hinner
      rw [← List.append_nil (_ ++ _)] at hmakes
      refine ⟨_, @MakesItem.headed key ⟨⟨[], key⟩, repeated, head, lines'⟩ before' [] inner' rfl
        hrepeated hs.dotted (fun himplicit => ?_) hmakes, ?_, ?_⟩
      · rw [hs.implicit] at himplicit
        cases himplicit
      · exact List.rel_append (Piece.Respells.map_under hfront hknown.symm)
          (.cons (.stanza ⟨rfl, rfl, rfl, rfl, hlines'⟩) .nil)
      · refine List.forall_mem_append.mpr ⟨Piece.neat_under hkey
          (fun q hq hflag => hfirst (by rwa [isLine_of_mem_map_stanza hq] at hflag)) fun q hq =>
            Piece.isNeat_of_stanza (isLine_of_mem_map_stanza hq) (hneatfront q hq),
          List.forall_mem_cons.mpr ⟨⟨hs.path, hs.key, hs.single, hs.implicit, hs.dotted,
            hneatrest⟩, List.forall_mem_nil _⟩⟩

end OwnHeader

/-- **One stanza more.** -/
lemma Stanza.stepsIn (s : Stanza) : (Piece.stanza s).StepsIn := by
  obtain ⟨⟨parents, key⟩, repeated, head, lines⟩ := s
  induction parents with
  | nil =>
    intro pieces entries entries' inLine inHeader hflags h hneat hp hfits hput
    refine h.step hput hneat hp fun key' item' hname hone => ?_
    rcases Bool.eq_false_or_eq_true repeated with hrepeated | hrepeated
    · exact step_repeated hp h hrepeated hneat hone
    · exact step_headed hp h hrepeated hneat hfits hone
  | cons first parents ih =>
    intro pieces entries entries' inLine inHeader hflags h hneat hp hfits hput
    have hs : Stanza.IsNeat inHeader ⟨⟨first :: parents, key⟩, repeated, head, lines⟩ := hp
    have hfirst : first.bare = first := (hs.path.parents first List.mem_cons_self).bare_eq
    have hunder : Piece.stanza ⟨⟨first :: parents, key⟩, repeated, head, lines⟩ =
        (Piece.stanza ⟨⟨parents, key⟩, repeated, head, lines⟩).under first := by
      rw [Piece.under, Stanza.under, hfirst]
    rw [hunder] at hp hfits hput ⊢
    exact ih.under hflags h hneat hp hfits hput

/-! ### Documents -/

/-- Sections that are put in one after the other are fresh. -/
def AreFresh : List Section → Entries → Prop
  | [], _ => True
  | s :: rest, entries =>
    s.IsFresh entries ∧ ∀ next, entries.addSection? s = some next → AreFresh rest next

/-- Sections without keys with dots are fresh. -/
lemma areFresh_of_single {sections : List Section}
    (h : ∀ s ∈ sections, ∀ m ∈ s.body, m.1.parents = []) (entries : Entries) :
    AreFresh sections entries := by
  induction sections generalizing entries with
  | nil => trivial
  | cons s sections ih =>
    obtain ⟨hs, hrest⟩ := List.forall_mem_cons.mp h
    refine ⟨fun _ m hm k hk => ?_, fun next _ => ih hrest next⟩
    rw [hs m hm] at hk
    cases hk

lemma Makes.add_stanzas {stanzas : List Stanza} {pieces : List Piece} {entries entries' : Entries}
    (h : Makes pieces entries) (hneat : ∀ q ∈ pieces, q.IsNeat true true)
    (hstanzas : ∀ s ∈ stanzas, s.IsNeat true)
    (hfresh : AreFresh (stanzas.map Stanza.section) entries)
    (hadd : Entries.addAll? (stanzas.map Piece.stanza) entries = some entries') :
    ∃ pieces', Makes pieces' entries' ∧
      List.Forall₂ Piece.Respells pieces' (pieces ++ stanzas.map Piece.stanza) ∧
      ∀ q ∈ pieces', q.IsNeat true true := by
  induction stanzas generalizing pieces entries with
  | nil =>
    obtain rfl := Option.some.inj hadd
    rw [List.map_nil, List.append_nil]
    exact ⟨pieces, h, List.forall₂_same.mpr fun q _ => .refl q, hneat⟩
  | cons s stanzas ih =>
    obtain ⟨hs, hrest⟩ := List.forall_mem_cons.mp hstanzas
    obtain ⟨hfirst, hmore⟩ := hfresh
    rw [List.map_cons, Entries.addAll?_cons] at hadd
    obtain ⟨next, hnext, hadd⟩ := Option.bind_eq_some_iff.mp hadd
    obtain ⟨pieces₁, hmakes, hrespells, hneat₁⟩ := s.stepsIn id h hneat hs hfirst hnext
    obtain ⟨pieces', hmakes', hrespells', hneat'⟩ := ih hmakes hneat₁ hrest (hmore next hnext) hadd
    refine ⟨pieces', hmakes', ?_, hneat'⟩
    refine forall₂_trans (R := Piece.Respells) (fun _ _ _ => .trans) hrespells' ?_
    rw [List.map_cons, List.append_cons]
    exact List.rel_append hrespells (List.forall₂_same.mpr fun q _ => .refl q)

/-- **What is read.** The entries that lines and stanzas are put into are made of these lines and
stanzas, in some spelling. -/
theorem exists_makes_of_addAll? {lines : List Line} {stanzas : List Stanza}
    {start entries : Entries}
    (hlines : ∀ l ∈ lines, l.path.IsNeat true) (hstanzas : ∀ s ∈ stanzas, s.IsNeat true)
    (hstart : Entries.addAll? (lines.map Piece.line) [] = some start)
    (hfresh : AreFresh (stanzas.map Stanza.section) start)
    (hadd : Entries.addAll? (stanzas.map Piece.stanza) start = some entries) :
    ∃ lines' stanzas', Makes (lines'.map Piece.line ++ stanzas'.map Piece.stanza) entries ∧
      List.Forall₂ Line.Respells lines' lines ∧ List.Forall₂ Stanza.Respells stanzas' stanzas ∧
      (∀ l ∈ lines', l.path.IsNeat true) ∧ ∀ s ∈ stanzas', s.IsNeat true := by
  obtain ⟨pieces, hmakes, hrespells, hneat⟩ := @Makes.add_lines lines [] [] start true true id .nil
    (List.forall_mem_nil _) hlines (fun l _ => (Piece.line l).fits_nil) hstart
  obtain ⟨pieces', hmakes', hrespells', hneat'⟩ := hmakes.add_stanzas hneat hstanzas hfresh hadd
  obtain ⟨front, rest, rfl, hfront, hrest⟩ := Piece.Rel.exists_append hrespells'
  obtain ⟨lines', rfl, hlines'⟩ := Piece.Rel.exists_map_line
    (forall₂_trans (R := Piece.Respells) (fun _ _ _ => .trans) hfront hrespells)
  obtain ⟨stanzas', rfl, hstanzas'⟩ := Piece.Rel.exists_map_stanza hrest
  obtain ⟨hneatlines, hneatstanzas⟩ := List.forall_mem_append.mp hneat'
  exact ⟨lines', stanzas', hmakes', hlines', hstanzas', fun l hl =>
    hneatlines _ (List.mem_map_of_mem hl),
    fun s hs => hneatstanzas _ (List.mem_map_of_mem hs)⟩

end CrudScaffold.Toml
