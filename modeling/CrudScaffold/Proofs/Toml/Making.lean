import Mathlib.Data.List.Dedup
import Mathlib.Data.List.Forall2
import CrudScaffold.Proofs.Toml.Inline
import CrudScaffold.Proofs.Toml.Slot

/-!
# Which pieces make a table

The reader of documents accepts lines and headers in many orders. Whether pieces make a table, and
which, is decided name by name (`Toml.Makes`): the pieces of a name are a single line, or lines and
headers that go on under the name, or headers of the name with what goes on under it in between.
Pieces of this kind can be put in, and make a table of the same kind (`Toml.Makes.exists_addAll?`).
The places of the pieces and the space around them make no difference (`Toml.Makes.alike`), and a
line with a new name may stand anywhere (`Toml.Makes.insert`).
-/

namespace CrudScaffold.Toml

/-! ### Pieces under a key -/

lemma Key.name_eq_of_bare {k k' : Key} (h : k'.bare = k.bare) : k'.name = k.name := by
  have hname := congrArg Key.name h
  exact hname

/-- A stanza under one more key. -/
def Stanza.under (key : Key) (s : Stanza) : Stanza :=
  { s with path := ⟨key.bare :: s.path.parents, s.path.key⟩ }

namespace Piece

/-- A piece under one more key. -/
def under (key : Key) : Piece → Piece
  | line l => line (l.under [key.bare])
  | stanza s => stanza (s.under key)

/-- A piece is a line. -/
def isLine : Piece → Bool
  | line _ => true
  | stanza _ => false

@[simp] lemma name_under (key : Key) (p : Piece) : (p.under key).name = key.name := by
  cases p <;> rfl

@[simp] lemma under_bare (key : Key) : under key.bare = under key := by
  funext p
  cases p <;> rfl

@[simp] lemma isLine_under (key : Key) (p : Piece) : (p.under key).isLine = p.isLine := by
  cases p <;> rfl

end Piece

@[simp] lemma piecesOf_nil (name : String) : piecesOf name [] = [] := rfl

@[simp] lemma piecesOf_append (name : String) (pieces more : List Piece) :
    piecesOf name (pieces ++ more) = piecesOf name pieces ++ piecesOf name more :=
  List.filter_append pieces more

lemma piecesOf_eq_nil {name : String} {pieces : List Piece} (h : ∀ p ∈ pieces, p.name ≠ name) :
    piecesOf name pieces = [] :=
  List.filter_eq_nil_iff.mpr fun p hp hname => h p hp (of_decide_eq_true hname)

lemma piecesOf_eq_self {name : String} {pieces : List Piece} (h : ∀ p ∈ pieces, p.name = name) :
    piecesOf name pieces = pieces :=
  List.filter_eq_self.mpr fun p hp => decide_eq_true (h p hp)

/-! ### Pieces that make a table -/

mutual

/-- Pieces that make a table, whatever order its entries are in. -/
inductive Makes : List Piece → Entries → Prop
  | mk {pieces : List Piece} {entries : Entries} (nodup : entries.names.Nodup)
      (names : ∀ p ∈ pieces, p.name ∈ entries.names)
      (items : ∀ e ∈ entries, MakesItem (piecesOf e.1.name pieces) e.1 e.2) : Makes pieces entries

/-- Pieces of one name that make an item. -/
inductive MakesItem : List Piece → Key → Item → Prop
  | value {key : Key} {literal : Literal} {around : Option Around} :
      MakesItem [.line ⟨⟨[], key⟩, literal, around⟩] key (.value literal around)
  | dotted {key : Key} {l : Line} {pieces : List Piece} {inner : Entries}
      (h : Makes (.line l :: pieces) inner) :
      MakesItem ((Piece.line l :: pieces).map (Piece.under key)) key
        (.table Entries.dottedHead inner)
  | implicit {key : Key} {stanzas : List Stanza} {inner : Entries} (hbare : key.bare = key)
      (hne : stanzas ≠ []) (h : Makes (stanzas.map .stanza) inner) :
      MakesItem ((stanzas.map Piece.stanza).map (Piece.under key)) key
        (.table { implicit := true } inner)
  | headed {key : Key} {s : Stanza} {before behind : List Stanza} {inner : Entries}
      (hpath : s.path = ⟨[], key⟩) (hrepeated : s.repeated = false)
      (hdotted : s.head.dotted = false) (himplicit : s.head.implicit → s.lines ≠ [])
      (h : Makes (before.map .stanza ++ s.lines.map .line ++ behind.map .stanza) inner) :
      MakesItem ((before.map Piece.stanza).map (Piece.under key) ++
        .stanza s :: (behind.map Piece.stanza).map (Piece.under key)) key (.table s.head inner)
  | first {key : Key} {s : Stanza} {behind : List Stanza} {inner : Entries}
      (hpath : s.path = ⟨[], key⟩) (hrepeated : s.repeated = true)
      (h : Makes (s.lines.map .line ++ behind.map .stanza) inner) :
      MakesItem (.stanza s :: (behind.map Piece.stanza).map (Piece.under key)) key
        (.tables [(s.head, inner)])
  | more {key : Key} {pieces : List Piece} {members : List (Head × Entries)} {s : Stanza}
      {behind : List Stanza} {inner : Entries} (hmembers : MakesItem pieces key (.tables members))
      (hpath : s.path = ⟨[], key⟩) (hrepeated : s.repeated = true)
      (h : Makes (s.lines.map .line ++ behind.map .stanza) inner) :
      MakesItem (pieces ++ .stanza s :: (behind.map Piece.stanza).map (Piece.under key)) key
        (.tables (members ++ [(s.head, inner)]))

end

/-- Induction over the pieces that make tables and items. -/
lemma makes_induction {T : List Piece → Entries → Prop} {I : List Piece → Key → Item → Prop}
    (mk : ∀ {pieces : List Piece} {entries : Entries}, entries.names.Nodup →
      (∀ p ∈ pieces, p.name ∈ entries.names) →
      (∀ e ∈ entries, MakesItem (piecesOf e.1.name pieces) e.1 e.2) →
      (∀ e ∈ entries, I (piecesOf e.1.name pieces) e.1 e.2) → T pieces entries)
    (value : ∀ {key : Key} {literal : Literal} {around : Option Around},
      I [.line ⟨⟨[], key⟩, literal, around⟩] key (.value literal around))
    (dotted : ∀ {key : Key} {l : Line} {pieces : List Piece} {inner : Entries},
      Makes (.line l :: pieces) inner → T (.line l :: pieces) inner →
      I ((Piece.line l :: pieces).map (Piece.under key)) key (.table Entries.dottedHead inner))
    (implicit : ∀ {key : Key} {stanzas : List Stanza} {inner : Entries}, key.bare = key →
      stanzas ≠ [] →
      Makes (stanzas.map .stanza) inner → T (stanzas.map .stanza) inner →
      I ((stanzas.map Piece.stanza).map (Piece.under key)) key (.table { implicit := true } inner))
    (headed : ∀ {key : Key} {s : Stanza} {before behind : List Stanza} {inner : Entries},
      s.path = ⟨[], key⟩ → s.repeated = false → s.head.dotted = false →
      (s.head.implicit → s.lines ≠ []) →
      Makes (before.map .stanza ++ s.lines.map .line ++ behind.map .stanza) inner →
      T (before.map .stanza ++ s.lines.map .line ++ behind.map .stanza) inner →
      I ((before.map Piece.stanza).map (Piece.under key) ++
        .stanza s :: (behind.map Piece.stanza).map (Piece.under key)) key (.table s.head inner))
    (first : ∀ {key : Key} {s : Stanza} {behind : List Stanza} {inner : Entries},
      s.path = ⟨[], key⟩ → s.repeated = true →
      Makes (s.lines.map .line ++ behind.map .stanza) inner →
      T (s.lines.map .line ++ behind.map .stanza) inner →
      I (.stanza s :: (behind.map Piece.stanza).map (Piece.under key)) key
        (.tables [(s.head, inner)]))
    (more : ∀ {key : Key} {pieces : List Piece} {members : List (Head × Entries)} {s : Stanza}
      {behind : List Stanza} {inner : Entries}, MakesItem pieces key (.tables members) →
      I pieces key (.tables members) → s.path = ⟨[], key⟩ → s.repeated = true →
      Makes (s.lines.map .line ++ behind.map .stanza) inner →
      T (s.lines.map .line ++ behind.map .stanza) inner →
      I (pieces ++ .stanza s :: (behind.map Piece.stanza).map (Piece.under key)) key
        (.tables (members ++ [(s.head, inner)]))) :
    (∀ {pieces : List Piece} {entries : Entries}, Makes pieces entries → T pieces entries) ∧
      ∀ {pieces : List Piece} {key : Key} {item : Item}, MakesItem pieces key item →
        I pieces key item :=
  ⟨fun h => @Makes.rec (fun pieces entries _ => T pieces entries)
      (fun pieces key item _ => I pieces key item)
        (fun nodup names items ih => mk nodup names items ih)
      value dotted implicit headed first
      (fun hmembers hpath hrepeated h ihmembers ih => more hmembers ihmembers hpath hrepeated h ih)
      _ _ h,
    fun h => @MakesItem.rec (fun pieces entries _ => T pieces entries)
      (fun pieces key item _ => I pieces key item)
        (fun nodup names items ih => mk nodup names items ih)
      value dotted implicit headed first
      (fun hmembers hpath hrepeated h ihmembers ih => more hmembers ihmembers hpath hrepeated h ih)
      _ _ _ h⟩

namespace Makes

variable {pieces more : List Piece} {entries : Entries}

lemma nodup (h : Makes pieces entries) : entries.names.Nodup := by
  cases h with
  | mk nodup names items => exact nodup

lemma names (h : Makes pieces entries) {p : Piece} (hp : p ∈ pieces) : p.name ∈ entries.names := by
  cases h with
  | mk nodup names items => exact names p hp

lemma items (h : Makes pieces entries) {e : Key × Item} (he : e ∈ entries) :
    MakesItem (piecesOf e.1.name pieces) e.1 e.2 := by
  cases h with
  | mk nodup names items => exact items e he

lemma nil : Makes [] [] := ⟨List.nodup_nil, nofun, nofun⟩

end Makes

lemma Piece.name_of_mem_under {key : Key} {pieces : List Piece} {p : Piece}
    (hp : p ∈ pieces.map (Piece.under key)) : p.name = key.name := by
  obtain ⟨p, -, rfl⟩ := List.mem_map.mp hp
  exact p.name_under key

lemma Stanza.name_eq {key : Key} {s : Stanza} (hpath : s.path = ⟨[], key⟩) :
    (Piece.stanza s).name = key.name := by
  rw [Piece.name, Piece.path, hpath]
  rfl

/-- The pieces of an item have its name. -/
lemma MakesItem.name {pieces : List Piece} {key : Key} {item : Item}
    (h : MakesItem pieces key item) : ∀ p ∈ pieces, p.name = key.name := by
  refine (@makes_induction (fun _ _ => True) (fun pieces key _ => ∀ p ∈ pieces, p.name = key.name)
    ?mk ?value ?dotted ?implicit ?headed ?first ?more).2 h
  case mk => exact fun _ _ _ _ => trivial
  case value => exact fun p hp => congrArg Piece.name (List.mem_singleton.mp hp)
  case dotted => exact fun _ _ p hp => Piece.name_of_mem_under hp
  case implicit => exact fun _ _ _ _ p hp => Piece.name_of_mem_under hp
  case headed =>
    intro key s before behind inner hpath _ _ _ _ _
    exact List.forall_mem_append.mpr ⟨fun p hp => Piece.name_of_mem_under hp,
      List.forall_mem_cons.mpr ⟨s.name_eq hpath, fun p hp => Piece.name_of_mem_under hp⟩⟩
  case first =>
    intro key s behind inner hpath _ _ _
    exact List.forall_mem_cons.mpr ⟨s.name_eq hpath, fun p hp => Piece.name_of_mem_under hp⟩
  case more =>
    intro key pieces members s behind inner _ ih hpath _ _ _
    exact List.forall_mem_append.mpr ⟨ih,
      List.forall_mem_cons.mpr ⟨s.name_eq hpath, fun p hp => Piece.name_of_mem_under hp⟩⟩

/-- Pieces make a table if those of every name make an item. -/
lemma exists_makes {pieces : List Piece}
    (h : ∀ p ∈ pieces, ∃ key item, key.name = p.name ∧
      MakesItem (piecesOf p.name pieces) key item) :
    ∃ entries, Makes pieces entries := by
  have hname : ∀ name, ∃ e : Key × Item, name ∈ pieces.map Piece.name →
      e.1.name = name ∧ MakesItem (piecesOf name pieces) e.1 e.2 := by
    intro name
    by_cases hmem : name ∈ pieces.map Piece.name
    · obtain ⟨p, hp, rfl⟩ := List.mem_map.mp hmem
      obtain ⟨key, item, hkey, hitem⟩ := h p hp
      exact ⟨(key, item), fun _ => ⟨hkey, hitem⟩⟩
    · exact ⟨default, fun hmem' => absurd hmem' hmem⟩
  choose entry hentry using hname
  have hdedup : ∀ name ∈ (pieces.map Piece.name).dedup, name ∈ pieces.map Piece.name :=
    fun name hname => List.mem_dedup.mp hname
  have hnames : Entries.names ((pieces.map Piece.name).dedup.map entry) =
      (pieces.map Piece.name).dedup := by
    rw [Entries.names, List.map_map]
    exact (List.map_congr_left fun name hname => (hentry name (hdedup name hname)).1).trans
      (List.map_id _)
  refine ⟨(pieces.map Piece.name).dedup.map entry, ?_, fun p hp => ?_, fun e he => ?_⟩
  · rw [hnames]
    exact List.nodup_dedup _
  · rw [hnames, List.mem_dedup]
    exact List.mem_map_of_mem hp
  · obtain ⟨name, hmem, rfl⟩ := List.mem_map.mp he
    obtain ⟨hkey, hitem⟩ := hentry name (hdedup name hmem)
    rw [hkey]
    exact hitem

/-! ### Pieces are put in -/

namespace Entries

/-- Whatever the function does that is called at the end of a path, the head of the table that the
path starts from does not matter to it. -/
lemma within?_head (dotted : Bool) (path : List Key) (f : Entries → Option Entries)
    (head head' : Head) (entries : Entries) :
    within? dotted path (fun _ inner => f inner) head entries =
      within? dotted path (fun _ inner => f inner) head' entries := by
  cases path <;> rfl

lemma putAll?_member (lines : List Line) (entries : Entries) :
    putAll? (lines.map Line.member) entries = addAll? (lines.map Piece.line) entries := by
  induction lines generalizing entries with
  | nil => rfl
  | cons l lines ih =>
    rw [List.map_cons, List.map_cons, addAll?_cons, putAll?, List.foldlM_cons]
    exact congrArg _ (funext ih)

end Entries

namespace Piece

variable {p : Piece} {key known : Key} {head : Head} {inner : Entries}
  {members : List (Head × Entries)} {s : Stanza}

/-- A piece under a key goes into the table of that key. A line goes only into a table that is there
for the keys of a path. -/
lemma put?_under (hname : known.name = key.name)
    (hline : p.isLine → head.dotted ∧ head.implicit) :
    (p.under key).put? [(known, .table head inner)] =
      (p.put? inner).map fun inner' => [(known, .table head inner')] := by
  cases p with
  | line l =>
    obtain ⟨hdotted, himplicit⟩ := hline rfl
    have hsplit : [(known, Item.table head inner)] =
      ([] : Entries) ++ [(known, .table head inner)] :=
      rfl
    rw [hsplit]
    exact Entries.put?_cons_of_split (by simp) hname hdotted himplicit
  | stanza s =>
    have hwithin := Entries.within?_head false s.path.parents (Entries.addBeside? s.section) head {}
      inner
    change Entries.alter? key.bare _ [(known, .table head inner)] = _
    rw [Entries.alter?, if_pos (show known.name = key.bare.name from hname)]
    dsimp only
    change (Entries.within? false s.path.parents (fun _ inner => inner.addBeside? s.section) head
      inner >>= _) >>= _ = (Entries.within? false s.path.parents
        (fun _ inner => inner.addBeside? s.section) {} inner).map _
    rw [hwithin]
    cases Entries.within? false s.path.parents _ {} inner <;> rfl

/-- What a piece under a new key makes of the key: a table that is there for the keys of a path if
it is a line, or one that has no header yet. -/
def newHead (p : Piece) : Head := { implicit := true, dotted := p.isLine }

lemma put?_under_nil (p : Piece) (key : Key) : (p.under key).put? [] =
    (p.put? []).map fun inner => [(key.bare, .table p.newHead inner)] := by
  cases p with
  | line l => exact Entries.put?_cons_of_notMem (by simp)
  | stanza s =>
    have hwithin := Entries.within?_head false s.path.parents (Entries.addBeside? s.section)
      { implicit := true, dotted := false } {} []
    change Entries.within? false (key.bare :: s.path.parents) _ {} [] = _
    rw [Entries.within?, Entries.alter?_of_notMem (by simp)]
    change (Entries.within? false s.path.parents (fun _ inner => inner.addBeside? s.section)
      { implicit := true, dotted := false } [] >>= _).map _ = (Entries.within? false s.path.parents
        (fun _ inner => inner.addBeside? s.section) {} []).map _
    rw [hwithin]
    cases Entries.within? false s.path.parents _ {} [] <;> rfl

/-- A piece under a key goes into the last member of a list of tables. -/
lemma put?_under_tables (hname : known.name = key.name) (hp : p.isLine = false) :
    (p.under key).put? [(known, .tables (members ++ [(head, inner)]))] =
      (p.put? inner).map fun inner' => [(known, .tables (members ++ [(head, inner')]))] := by
  cases p with
  | line l => cases hp
  | stanza s =>
    have hwithin := Entries.within?_head false s.path.parents (Entries.addBeside? s.section) head {}
      inner
    change Entries.alter? key.bare _ [(known, .tables (members ++ [(head, inner)]))] = _
    rw [Entries.alter?, if_pos (show known.name = key.bare.name from hname)]
    dsimp only
    rw [List.getLast?_concat, List.dropLast_concat]
    change (Entries.within? false s.path.parents (fun _ inner => inner.addBeside? s.section) head
      inner >>= _) >>= _ = (Entries.within? false s.path.parents
        (fun _ inner => inner.addBeside? s.section) {} inner).map _
    rw [hwithin]
    cases Entries.within? false s.path.parents _ {} inner <;> rfl

section Own

variable (hpath : s.path = ⟨[], key⟩)

include hpath

lemma put?_stanza (entries : Entries) : (stanza s).put? entries = entries.addBeside? s.section := by
  change Entries.within? false s.path.parents _ {} entries = _
  rw [hpath]
  rfl

/-- A header makes a table, or gives a header to one that has none. -/
lemma put?_headed (hrepeated : s.repeated = false) :
    (stanza s).put? [] = (Entries.addAll? (s.lines.map line) []).map
        (fun inner => [(key, .table s.head inner)]) ∧
      (known.name = key.name → (stanza s).put? [(known, .table { implicit := true } inner)] =
        (Entries.addAll? (s.lines.map line) inner).map fun inner =>
          [(key, .table s.head inner)]) := by
  have hkey : s.section.path.key = key := by rw [Stanza.section, hpath]
  have hbody : s.section.body = s.lines.map Line.member := rfl
  constructor
  · rw [put?_stanza hpath, Entries.addBeside?_of_notMem hrepeated (by simp), Entries.tableBeside?,
      hbody, Entries.putAll?_member, hkey, Option.map_map]
    rfl
  · intro hname
    rw [← hkey] at hname
    have hsplit : [(known, Item.table { implicit := true } inner)] =
        ([] : Entries) ++ (known, .table { implicit := true } inner) :: [] := rfl
    rw [put?_stanza hpath, hsplit, Entries.addBeside?_split hrepeated hname (by simp) (by simp),
      Entries.tableBeside?, if_pos (by rfl), hbody, Entries.putAll?_member, hkey, Option.map_map]
    rfl

/-- A header that may be repeated makes a list of tables, or adds a table to one. -/
lemma put?_repeated (hrepeated : s.repeated = true) :
    (stanza s).put? [] = (Entries.addAll? (s.lines.map line) []).map
        (fun inner => [(key, .tables [(s.head, inner)])]) ∧
      (known.name = key.name → (stanza s).put? [(known, .tables members)] =
        (Entries.addAll? (s.lines.map line) []).map
          fun inner => [(known, .tables (members ++ [(s.head, inner)]))]) := by
  have hkey : s.section.path.key = key := by rw [Stanza.section, hpath]
  have hbody : s.section.body = s.lines.map Line.member := rfl
  constructor
  · rw [put?_stanza hpath, Entries.addBeside?, if_pos (by exact hrepeated), hbody,
      Entries.putAll?_member, hkey]
    cases Entries.addAll? (s.lines.map line) [] <;> rfl
  · intro hname
    rw [put?_stanza hpath, Entries.addBeside?, if_pos (by exact hrepeated), hbody,
      Entries.putAll?_member, hkey]
    cases Entries.addAll? (s.lines.map line) [] with
    | none => rfl
    | some inner =>
      change Entries.alter? key _ [(known, .tables members)] = _
      rw [Entries.alter?, if_pos hname]
      rfl

end Own

end Piece

namespace Entries

variable {pieces : List Piece} {key known : Key} {head : Head} {inner : Entries}
  {members : List (Head × Entries)}

lemma addAll?_under (hname : known.name = key.name)
    (hlines : ∀ p ∈ pieces, p.isLine → head.dotted ∧ head.implicit) :
    addAll? (pieces.map (Piece.under key)) [(known, .table head inner)] =
      (addAll? pieces inner).map fun inner' => [(known, .table head inner')] := by
  induction pieces generalizing inner with
  | nil => rfl
  | cons p pieces ih =>
    obtain ⟨hp, hpieces⟩ := List.forall_mem_cons.mp hlines
    rw [List.map_cons, addAll?_cons, Piece.put?_under hname hp, addAll?_cons]
    cases p.put? inner with
    | none => rfl
    | some inner' => exact ih hpieces

lemma addAll?_under_nil {p : Piece} (hlines : ∀ q ∈ pieces, q.isLine → p.isLine) :
    addAll? ((p :: pieces).map (Piece.under key)) [] =
      (addAll? (p :: pieces) []).map fun inner => [(key.bare, .table p.newHead inner)] := by
  rw [List.map_cons, addAll?_cons, Piece.put?_under_nil, addAll?_cons]
  cases p.put? [] with
  | none => rfl
  | some inner => exact addAll?_under rfl fun q hq hline => ⟨hlines q hq hline, rfl⟩

lemma addAll?_under_tables (hname : known.name = key.name)
    (hlines : ∀ p ∈ pieces, p.isLine = false) :
    addAll? (pieces.map (Piece.under key)) [(known, .tables (members ++ [(head, inner)]))] =
      (addAll? pieces inner).map fun inner' =>
        [(known, .tables (members ++ [(head, inner')]))] := by
  induction pieces generalizing inner with
  | nil => rfl
  | cons p pieces ih =>
    obtain ⟨hp, hpieces⟩ := List.forall_mem_cons.mp hlines
    rw [List.map_cons, addAll?_cons, Piece.put?_under_tables hname hp, addAll?_cons]
    cases p.put? inner with
    | none => rfl
    | some inner' => exact ih hpieces

section Own

variable {s : Stanza} {before behind : List Stanza} (hpath : s.path = ⟨[], key⟩)

include hpath

/-- A header with what goes on under its name in front of it and behind it makes the table that all
of this makes without the name. -/
lemma addAll?_headed (hrepeated : s.repeated = false) :
    addAll? ((before.map Piece.stanza).map (Piece.under key) ++
        .stanza s :: (behind.map Piece.stanza).map (Piece.under key)) [] =
      (addAll? (before.map .stanza ++ s.lines.map .line ++ behind.map .stanza) []).map
        fun inner => [(key, .table s.head inner)] := by
  have hbehind : ∀ inner, addAll? ((behind.map Piece.stanza).map (Piece.under key))
      [(key, .table s.head inner)] = (addAll? (behind.map .stanza) inner).map
        fun inner => [(key, .table s.head inner)] :=
    fun inner => addAll?_under rfl (by simp [Piece.isLine])
  rw [addAll?_append, addAll?_append, addAll?_append]
  cases before with
  | nil =>
    rw [List.map_nil, List.map_nil, addAll?_nil, Option.bind_some, Option.bind_some, addAll?_cons,
      (@Piece.put?_headed key key [] s hpath hrepeated).1]
    cases addAll? (s.lines.map .line) [] with
    | none => rfl
    | some inner => exact hbehind inner
  | cons first before =>
    rw [List.map_cons, addAll?_under_nil (by simp [Piece.isLine])]
    cases addAll? (Piece.stanza first :: before.map Piece.stanza) [] with
    | none => rfl
    | some start =>
      change (addAll? (.stanza s :: _) [(key.bare, .table { implicit := true } start)]) =
        ((addAll? _ start).bind _).map _
      rw [addAll?_cons, (@Piece.put?_headed key key.bare start s hpath hrepeated).2 rfl]
      cases addAll? (s.lines.map .line) start with
      | none => rfl
      | some inner => exact hbehind inner

/-- A header that may be repeated with what goes on under its name makes a table of its own. -/
lemma addAll?_repeated (hrepeated : s.repeated = true) :
    addAll? (.stanza s :: (behind.map Piece.stanza).map (Piece.under key)) [] =
        (addAll? (s.lines.map .line ++ behind.map .stanza) []).map
          (fun inner => [(key, .tables [(s.head, inner)])]) ∧
      addAll? (.stanza s :: (behind.map Piece.stanza).map (Piece.under key))
          [(key, .tables members)] =
        (addAll? (s.lines.map .line ++ behind.map .stanza) []).map
          fun inner => [(key, .tables (members ++ [(s.head, inner)]))] := by
  have hbehind : ∀ members inner, addAll? ((behind.map Piece.stanza).map (Piece.under key))
      [(key, .tables (members ++ [(s.head, inner)]))] = (addAll? (behind.map .stanza) inner).map
        fun inner => [(key, .tables (members ++ [(s.head, inner)]))] :=
    fun members inner => addAll?_under_tables rfl (by simp [Piece.isLine])
  obtain ⟨hnew, hknown⟩ := @Piece.put?_repeated key key members s hpath hrepeated
  rw [addAll?_append, addAll?_cons, addAll?_cons, hnew, hknown rfl]
  cases addAll? (s.lines.map .line) [] with
  | none => exact ⟨rfl, rfl⟩
  | some inner => exact ⟨hbehind [] inner, hbehind members inner⟩

end Own

end Entries

lemma Entries.mem_slot {entries : Entries} {e : Key × Item} (he : e ∈ entries) :
    e ∈ entries.slot e.1.name :=
  List.mem_filter.mpr ⟨he, decide_eq_true rfl⟩

/-- Pieces make a table that they have been put into if the pieces of every name make the item that
they have been put into. -/
lemma makes_of_addAll? {pieces : List Piece} {entries : Entries}
    (hadd : Entries.addAll? pieces [] = some entries)
    (h : ∀ p ∈ pieces, ∃ key item, key.name = p.name ∧
      Entries.addAll? (piecesOf p.name pieces) [] = some [(key, item)] ∧
      MakesItem (piecesOf p.name pieces) key item) : Makes pieces entries := by
  have hslot := Entries.addAll?_slot Entries.nodup_names_nil hadd
  refine ⟨Entries.nodup_addAll? Entries.nodup_names_nil hadd, fun p hp => ?_, fun e he => ?_⟩
  · obtain ⟨key, item, hkey, hone, -⟩ := h p hp
    have hmem : (key, item) ∈ entries.slot p.name := by
      rw [← Option.some.inj (hone.symm.trans (hslot p.name))]
      exact List.mem_singleton_self _
    rw [← hkey]
    exact List.mem_map_of_mem (List.mem_filter.mp hmem).1
  · have hmem := Entries.mem_slot he
    by_cases hnone : piecesOf e.1.name pieces = []
    · have hempty := hslot e.1.name
      rw [hnone, Entries.addAll?_nil] at hempty
      rw [← Option.some.inj hempty] at hmem
      cases hmem
    · obtain ⟨p, hp⟩ := List.exists_mem_of_ne_nil _ hnone
      obtain ⟨hp, hname⟩ := List.mem_filter.mp hp
      obtain ⟨key, item, -, hone, hitem⟩ := h p hp
      rw [of_decide_eq_true hname] at hone hitem
      rw [← Option.some.inj (hone.symm.trans (hslot e.1.name))] at hmem
      rw [List.mem_singleton.mp hmem]
      rw [List.mem_singleton.mp hmem] at hitem
      exact hitem

/-- Pieces that make a table can be put in and give such a table, and so do pieces that make an
item. A list of tables keeps its key. -/
lemma exists_addAll?_of_makes :
    (∀ {pieces : List Piece} {entries : Entries}, Makes pieces entries →
      ∃ entries', Entries.addAll? pieces [] = some entries' ∧ Makes pieces entries') ∧
    ∀ {pieces : List Piece} {key : Key} {item : Item}, MakesItem pieces key item →
      ∃ key' item', Entries.addAll? pieces [] = some [(key', item')] ∧ MakesItem pieces key' item' ∧
        key'.name = key.name ∧
        ∀ members, item = .tables members → key' = key ∧ ∃ members', item' = .tables members' := by
  refine @makes_induction
    (fun pieces _ => ∃ entries', Entries.addAll? pieces [] = some entries' ∧ Makes pieces entries')
    (fun pieces key item => ∃ key' item', Entries.addAll? pieces [] = some [(key', item')] ∧
      MakesItem pieces key' item' ∧ key'.name = key.name ∧
      ∀ members, item = .tables members → key' = key ∧ ∃ members', item' = .tables members')
    ?mk ?value ?dotted ?implicit ?headed ?first ?more
  case mk =>
    intro pieces entries _ hnames _ ih
    have hone : ∀ p ∈ pieces, ∃ key item, key.name = p.name ∧
        Entries.addAll? (piecesOf p.name pieces) [] = some [(key, item)] ∧
        MakesItem (piecesOf p.name pieces) key item := by
      intro p hp
      obtain ⟨e, he, hname⟩ := List.mem_map.mp (hnames p hp)
      obtain ⟨key, item, hadd, hitem, hkey, -⟩ := ih e he
      rw [hname] at hadd hitem
      exact ⟨key, item, hkey.trans hname, hadd, hitem⟩
    have hslots : ∀ name, ∃ slot', Entries.addAll? (piecesOf name pieces)
        (Entries.slot name []) = some slot' := by
      intro name
      by_cases hnone : piecesOf name pieces = []
      · exact ⟨[], by rw [hnone]; rfl⟩
      · obtain ⟨p, hp⟩ := List.exists_mem_of_ne_nil _ hnone
        obtain ⟨hp, hname⟩ := List.mem_filter.mp hp
        obtain ⟨key, item, -, hadd, -⟩ := hone p hp
        rw [of_decide_eq_true hname] at hadd
        exact ⟨_, hadd⟩
    obtain ⟨entries', hadd⟩ := Entries.exists_addAll? Entries.nodup_names_nil hslots
    exact ⟨entries', hadd, makes_of_addAll? hadd hone⟩
  case value =>
    intro key literal around
    exact ⟨key, .value literal around, rfl, .value, rfl, nofun⟩
  case dotted =>
    intro key l pieces inner _ ih
    obtain ⟨inner', hadd, hmakes⟩ := ih
    refine ⟨key.bare, .table Entries.dottedHead inner', ?_, ?_, rfl, nofun⟩
    · rw [Entries.addAll?_under_nil fun _ _ _ => rfl, hadd]
      rfl
    · rw [← Piece.under_bare]
      exact .dotted hmakes
  case implicit =>
    intro key stanzas inner _ hne _ ih
    obtain ⟨inner', hadd, hmakes⟩ := ih
    obtain ⟨s, stanzas, rfl⟩ := List.exists_cons_of_ne_nil hne
    refine ⟨key.bare, .table { implicit := true } inner', ?_, ?_, rfl, nofun⟩
    · rw [List.map_cons] at hadd ⊢
      rw [Entries.addAll?_under_nil (by simp [Piece.isLine]), hadd]
      rfl
    · rw [← Piece.under_bare]
      exact .implicit rfl hne hmakes
  case headed =>
    intro key s before behind inner hpath hrepeated hdotted himplicit _ ih
    obtain ⟨inner', hadd, hmakes⟩ := ih
    refine ⟨key, .table s.head inner', ?_, .headed hpath hrepeated hdotted himplicit hmakes, rfl,
      nofun⟩
    rw [Entries.addAll?_headed hpath hrepeated, hadd]
    rfl
  case first =>
    intro key s behind inner hpath hrepeated _ ih
    obtain ⟨inner', hadd, hmakes⟩ := ih
    refine ⟨key, .tables [(s.head, inner')], ?_, .first hpath hrepeated hmakes, rfl,
      fun _ _ => ⟨rfl, _, rfl⟩⟩
    rw [(@Entries.addAll?_repeated key [] s behind hpath hrepeated).1, hadd]
    rfl
  case more =>
    intro key pieces members s behind inner _ ihmembers hpath hrepeated _ ih
    obtain ⟨key', item', hadd', hitem', -, htables⟩ := ihmembers
    obtain ⟨rfl, members', rfl⟩ := htables members rfl
    obtain ⟨inner', hadd, hmakes⟩ := ih
    refine ⟨key', .tables (members' ++ [(s.head, inner')]), ?_, .more hitem' hpath hrepeated hmakes,
      rfl, fun _ _ => ⟨rfl, _, rfl⟩⟩
    rw [Entries.addAll?_append, hadd', Option.bind_some,
      (Entries.addAll?_repeated hpath hrepeated).2, hadd]
    rfl

/-! ### Pieces one by one -/

/-- Two pieces are both lines or both stanzas, and are related as such. -/
inductive Piece.Rel (L : Line → Line → Prop) (S : Stanza → Stanza → Prop) : Piece → Piece → Prop
  | line {l' l : Line} (h : L l' l) : Rel L S (line l') (line l)
  | stanza {s' s : Stanza} (h : S s' s) : Rel L S (stanza s') (stanza s)

namespace Piece.Rel

variable {L : Line → Line → Prop} {S : Stanza → Stanza → Prop} {pieces pieces' more : List Piece}

lemma exists_append (h : List.Forall₂ (Rel L S) pieces' (pieces ++ more)) :
    ∃ first second, pieces' = first ++ second ∧ List.Forall₂ (Rel L S) first pieces ∧
      List.Forall₂ (Rel L S) second more :=
  ⟨_, _, (List.take_append_drop pieces.length pieces').symm,
    List.forall₂_take_append pieces' pieces more h, List.forall₂_drop_append pieces' pieces more h⟩

lemma exists_map_line {lines : List Line}
    (h : List.Forall₂ (Rel L S) pieces' (lines.map Piece.line)) :
    ∃ lines', pieces' = lines'.map Piece.line ∧ List.Forall₂ L lines' lines := by
  induction lines generalizing pieces' with
  | nil =>
    rw [List.forall₂_nil_right_iff.mp h]
    exact ⟨[], rfl, .nil⟩
  | cons l lines ih =>
    obtain ⟨p', rest, hp, hrest, rfl⟩ := List.forall₂_cons_right_iff.mp h
    obtain ⟨lines', rfl, hlines⟩ := ih hrest
    cases hp with
    | line hl => exact ⟨_ :: lines', rfl, .cons hl hlines⟩

lemma exists_map_stanza {stanzas : List Stanza}
    (h : List.Forall₂ (Rel L S) pieces' (stanzas.map Piece.stanza)) :
    ∃ stanzas', pieces' = stanzas'.map Piece.stanza ∧ List.Forall₂ S stanzas' stanzas := by
  induction stanzas generalizing pieces' with
  | nil =>
    rw [List.forall₂_nil_right_iff.mp h]
    exact ⟨[], rfl, .nil⟩
  | cons s stanzas ih =>
    obtain ⟨p', rest, hp, hrest, rfl⟩ := List.forall₂_cons_right_iff.mp h
    obtain ⟨stanzas', rfl, hstanzas⟩ := ih hrest
    cases hp with
    | stanza hs => exact ⟨_ :: stanzas', rfl, .cons hs hstanzas⟩

lemma map_line {lines lines' : List Line} (h : List.Forall₂ L lines' lines) :
    List.Forall₂ (Rel L S) (lines'.map Piece.line) (lines.map Piece.line) := by
  rw [List.forall₂_map_left_iff, List.forall₂_map_right_iff]
  exact h.imp fun _ _ => .line

lemma map_stanza {stanzas stanzas' : List Stanza} (h : List.Forall₂ S stanzas' stanzas) :
    List.Forall₂ (Rel L S) (stanzas'.map Piece.stanza) (stanzas.map Piece.stanza) := by
  rw [List.forall₂_map_left_iff, List.forall₂_map_right_iff]
  exact h.imp fun _ _ => .stanza

lemma forall₂_piecesOf (hname : ∀ {p' p : Piece}, Rel L S p' p → p'.name = p.name)
    (h : List.Forall₂ (Rel L S) pieces' pieces) (name : String) :
    List.Forall₂ (Rel L S) (piecesOf name pieces') (piecesOf name pieces) := by
  refine List.rel_filter (fun p' p hp => ?_) h
  dsimp only
  rw [hname hp]

end Piece.Rel

/-! ### Pieces that differ in places and space -/

/-- A line has the keys and the value of another one. -/
structure Line.Alike (l' l : Line) : Prop where
  parents : l'.path.parents = l.path.parents
  name : l'.path.key.name = l.path.key.name
  literal : l'.literal = l.literal

/-- A stanza has the keys of another one, with something filled in around the last one of them. -/
structure Stanza.Alike (fill : Key → Key) (s' s : Stanza) : Prop where
  parents : s'.path.parents = s.path.parents
  key : s'.path.key = fill s.path.key
  bare : (fill s.path.key).bare = s.path.key.bare
  repeated : s'.repeated = s.repeated
  dotted : s'.head.dotted = false
  implicit : s'.head.implicit = false
  lines : List.Forall₂ Line.Alike s'.lines s.lines

lemma Stanza.Alike.path_eq {fill : Key → Key} {s' s : Stanza} {key : Key} (h : s'.Alike fill s)
    (hpath : s.path = ⟨[], key⟩) :
    s'.path = ⟨[], fill key⟩ ∧ (fill key).bare = key.bare := by
  obtain ⟨⟨parents, own⟩, repeated, head, lines⟩ := s'
  have hparents : parents = s.path.parents := h.parents
  have hkey : own = fill s.path.key := h.key
  have hbare := h.bare
  rw [hpath] at hparents hkey hbare
  subst hparents hkey
  exact ⟨rfl, hbare⟩

/-- A piece has the keys of another one. -/
abbrev Piece.Alike (fill : Key → Key) : Piece → Piece → Prop :=
  Piece.Rel Line.Alike (Stanza.Alike fill)

namespace Piece.Alike

variable {fill : Key → Key} {p p' : Piece} {pieces pieces' : List Piece} {key : Key}

lemma name_eq (h : Alike fill p' p) : p'.name = p.name := by
  cases h with
  | line h =>
    unfold Piece.name Piece.path
    dsimp only
    rw [h.parents]
    cases (Line.path _).parents with
    | nil => exact h.name
    | cons first more => rfl
  | stanza h =>
    unfold Piece.name Piece.path
    dsimp only
    rw [h.parents, h.key]
    have hname := Key.name_eq_of_bare h.bare
    cases (Stanza.path _).parents with
    | nil => exact hname
    | cons first more => rfl

/-- What is like a piece under a key is a piece under that key. -/
lemma exists_under (h : Alike fill p' (p.under key)) :
    ∃ p₀ : Piece, p' = p₀.under key ∧ Alike fill p₀ p := by
  cases p with
  | line l =>
    cases h with
    | line h =>
      rename_i l'
      obtain ⟨⟨parents, own⟩, literal, around⟩ := l'
      have hparents : parents = key.bare :: l.path.parents := h.parents
      subst hparents
      exact ⟨.line ⟨⟨l.path.parents, own⟩, literal, around⟩, rfl,
        .line ⟨rfl, h.name, h.literal⟩⟩
  | stanza s =>
    cases h with
    | stanza h =>
      rename_i s'
      obtain ⟨⟨parents, own⟩, repeated, head, lines⟩ := s'
      have hparents : parents = key.bare :: s.path.parents := h.parents
      subst hparents
      exact ⟨.stanza ⟨⟨s.path.parents, own⟩, repeated, head, lines⟩, rfl,
        .stanza ⟨rfl, h.key, h.bare, h.repeated, h.dotted, h.implicit, h.lines⟩⟩

lemma exists_map_under
    (h : List.Forall₂ (Alike fill) pieces' (pieces.map (Piece.under key))) :
    ∃ pieces₀, pieces' = pieces₀.map (Piece.under key) ∧
      List.Forall₂ (Alike fill) pieces₀ pieces := by
  induction pieces generalizing pieces' with
  | nil =>
    rw [List.forall₂_nil_right_iff.mp h]
    exact ⟨[], rfl, .nil⟩
  | cons p pieces ih =>
    obtain ⟨p', rest, hp, hrest, rfl⟩ := List.forall₂_cons_right_iff.mp h
    obtain ⟨p₀, rfl, hp₀⟩ := exists_under hp
    obtain ⟨pieces₀, rfl, hrest₀⟩ := ih hrest
    exact ⟨p₀ :: pieces₀, rfl, .cons hp₀ hrest₀⟩

/-- What is like a header with what goes on under its name is such a header again. -/
lemma exists_own {s : Stanza} {behind : List Stanza} (hpath : s.path = ⟨[], key⟩)
    (h : List.Forall₂ (Alike fill) pieces'
      (.stanza s :: (behind.map Piece.stanza).map (Piece.under key))) :
    ∃ (s' : Stanza) (behind' : List Stanza),
      pieces' = .stanza s' :: (behind'.map Piece.stanza).map (Piece.under (fill key)) ∧
      s'.Alike fill s ∧ s'.path = ⟨[], fill key⟩ ∧ (fill key).bare = key.bare ∧
      List.Forall₂ (Alike fill) (behind'.map Piece.stanza) (behind.map Piece.stanza) ∧
      List.Forall₂ (Alike fill) (s'.lines.map Piece.line ++ behind'.map Piece.stanza)
        (s.lines.map Piece.line ++ behind.map Piece.stanza) := by
  obtain ⟨p', rest, hp, hrest, rfl⟩ := List.forall₂_cons_right_iff.mp h
  obtain ⟨rest₀, rfl, hrest₀⟩ := exists_map_under hrest
  obtain ⟨behind', rfl, -⟩ := Piece.Rel.exists_map_stanza hrest₀
  cases hp with
  | stanza hs =>
    obtain ⟨hpath', hbare⟩ := hs.path_eq hpath
    refine ⟨_, behind', ?_, hs, hpath', hbare, hrest₀,
      List.rel_append (Piece.Rel.map_line hs.lines) hrest₀⟩
    rw [← Piece.under_bare key, ← hbare, Piece.under_bare]

end Piece.Alike

/-- **Places and space do not matter.** Pieces with the keys of others make what the others make,
but for places and space. -/
lemma alike_of_makes (fill : Key → Key) :
    (∀ {pieces : List Piece} {entries : Entries}, Makes pieces entries →
      ∀ pieces', List.Forall₂ (Piece.Alike fill) pieces' pieces →
        ∃ entries', Makes pieces' entries') ∧
    ∀ {pieces : List Piece} {key : Key} {item : Item}, MakesItem pieces key item →
      ∀ pieces', List.Forall₂ (Piece.Alike fill) pieces' pieces →
        ∃ key' item', MakesItem pieces' key' item' ∧ key'.name = key.name ∧
          ∀ members, item = .tables members →
            key' = fill key ∧ ∃ members', item' = .tables members' := by
  refine @makes_induction
    (fun pieces _ => ∀ pieces', List.Forall₂ (Piece.Alike fill) pieces' pieces →
      ∃ entries', Makes pieces' entries')
    (fun pieces key item => ∀ pieces', List.Forall₂ (Piece.Alike fill) pieces' pieces →
      ∃ key' item', MakesItem pieces' key' item' ∧ key'.name = key.name ∧
        ∀ members, item = .tables members → key' = fill key ∧ ∃ members', item' = .tables members')
    ?mk ?value ?dotted ?implicit ?headed ?first ?more
  case mk =>
    intro pieces entries _ hnames _ ih pieces' h
    refine exists_makes fun p' hp' => ?_
    have hmem : p'.name ∈ pieces.map Piece.name := by
      have hmap : pieces'.map Piece.name = pieces.map Piece.name := by
        rw [← List.forall₂_eq_eq_eq, List.forall₂_map_left_iff, List.forall₂_map_right_iff]
        exact h.imp fun _ _ hp => Piece.Alike.name_eq hp
      rw [← hmap]
      exact List.mem_map_of_mem hp'
    obtain ⟨p, hp, hname⟩ := List.mem_map.mp hmem
    obtain ⟨e, he, hkey⟩ := List.mem_map.mp (hnames p hp)
    obtain ⟨key', item', hitem, hname', -⟩ :=
      ih e he _ (Piece.Rel.forall₂_piecesOf Piece.Alike.name_eq h e.1.name)
    have heq : e.1.name = p'.name := hkey.trans hname
    rw [heq] at hitem hname'
    exact ⟨key', item', hname', hitem⟩
  case value =>
    intro key literal around pieces' h
    obtain ⟨p', rest, hp, hrest, rfl⟩ := List.forall₂_cons_right_iff.mp h
    rw [List.forall₂_nil_right_iff.mp hrest]
    cases hp with
    | line hl =>
      rename_i l'
      obtain ⟨⟨parents, own⟩, literal', around'⟩ := l'
      have hparents : parents = [] := hl.parents
      subst hparents
      exact ⟨own, .value literal' around', .value, hl.name, nofun⟩
  case dotted =>
    intro key l pieces inner _ ih pieces' h
    obtain ⟨pieces₀, rfl, h₀⟩ := Piece.Alike.exists_map_under h
    obtain ⟨inner', hinner⟩ := ih _ h₀
    obtain ⟨p', rest, hp, hrest, rfl⟩ := List.forall₂_cons_right_iff.mp h₀
    cases hp with
    | line hl => exact ⟨key, .table Entries.dottedHead inner', .dotted hinner, rfl, nofun⟩
  case implicit =>
    intro key stanzas inner hbare hne _ ih pieces' h
    obtain ⟨pieces₀, rfl, h₀⟩ := Piece.Alike.exists_map_under h
    obtain ⟨inner', hinner⟩ := ih _ h₀
    obtain ⟨stanzas', rfl, hstanzas⟩ := Piece.Rel.exists_map_stanza h₀
    refine ⟨key, .table { implicit := true } inner', .implicit hbare ?_ hinner, rfl, nofun⟩
    rintro rfl
    exact hne (List.forall₂_nil_left_iff.mp hstanzas)
  case headed =>
    intro key s before behind inner hpath hrepeated hdotted himplicit _ ih pieces' h
    obtain ⟨first, second, rfl, hfirst, hsecond⟩ := Piece.Rel.exists_append h
    obtain ⟨first₀, rfl, hfirst₀⟩ := Piece.Alike.exists_map_under hfirst
    obtain ⟨before', rfl, -⟩ := Piece.Rel.exists_map_stanza hfirst₀
    obtain ⟨s', behind', rfl, hs, hpath', hbare, hbehind, -⟩ :=
      Piece.Alike.exists_own hpath hsecond
    obtain ⟨inner', hinner⟩ := ih _ (List.rel_append (List.rel_append hfirst₀
      (Piece.Rel.map_line hs.lines)) hbehind)
    refine ⟨fill key, .table s'.head inner', ?_, Key.name_eq_of_bare hbare, nofun⟩
    rw [← Piece.under_bare key, ← hbare, Piece.under_bare]
    exact .headed hpath' (hs.repeated.trans hrepeated) hs.dotted
      (fun himplicit => by simp [hs.implicit] at himplicit) hinner
  case first =>
    intro key s behind inner hpath hrepeated _ ih pieces' h
    obtain ⟨s', behind', rfl, hs, hpath', hbare, -, hinside⟩ := Piece.Alike.exists_own hpath h
    obtain ⟨inner', hinner⟩ := ih _ hinside
    exact ⟨fill key, .tables [(s'.head, inner')],
      .first hpath' (hs.repeated.trans hrepeated) hinner, Key.name_eq_of_bare hbare,
      fun _ _ => ⟨rfl, _, rfl⟩⟩
  case more =>
    intro key pieces members s behind inner _ ihmembers hpath hrepeated _ ih pieces' h
    obtain ⟨first, second, rfl, hfirst, hsecond⟩ := Piece.Rel.exists_append h
    obtain ⟨key', item', hitem', hname, htables⟩ := ihmembers _ hfirst
    obtain ⟨rfl, members', rfl⟩ := htables members rfl
    obtain ⟨s', behind', rfl, hs, hpath', -, -, hinside⟩ := Piece.Alike.exists_own hpath hsecond
    obtain ⟨inner', hinner⟩ := ih _ hinside
    exact ⟨fill key, .tables (members' ++ [(s'.head, inner')]),
      .more hitem' hpath' (hs.repeated.trans hrepeated) hinner, hname, fun _ _ => ⟨rfl, _, rfl⟩⟩

/-! ### Lines with new names -/

/-- The entry that a line with a single key makes. -/
def Line.entry (l : Line) : Key × Item := (l.path.key, .value l.literal l.around)

lemma Line.name_eq {l : Line} (h : l.path.parents = []) :
    (Piece.line l).name = l.path.key.name := by
  rw [Piece.name, Piece.path, h]
  rfl

lemma Line.eq_of_single {l : Line} (h : l.path.parents = []) :
    l = ⟨⟨[], l.path.key⟩, l.literal, l.around⟩ := by
  obtain ⟨⟨parents, key⟩, literal, around⟩ := l
  obtain rfl := h
  rfl

/-- Of lines with different single keys one has a name. -/
lemma piecesOf_map_line {lines : List Line} (hsingle : ∀ l ∈ lines, l.path.parents = [])
    (hnodup : (lines.map fun l => l.path.key.name).Nodup) {l : Line} (hl : l ∈ lines) :
    piecesOf l.path.key.name (lines.map Piece.line) = [.line l] := by
  induction lines with
  | nil => cases hl
  | cons first lines ih =>
    obtain ⟨hfirst, hrest⟩ := List.forall_mem_cons.mp hsingle
    obtain ⟨hnew, hnodup⟩ := List.nodup_cons.mp hnodup
    have hname := Line.name_eq hfirst
    rw [List.map_cons, piecesOf, List.filter_cons]
    rcases List.mem_cons.mp hl with rfl | hl
    · rw [if_pos (decide_eq_true hname)]
      refine congrArg _ (piecesOf_eq_nil fun p hp hsame => hnew ?_)
      obtain ⟨l', hl', rfl⟩ := List.mem_map.mp hp
      rw [Line.name_eq (hrest l' hl')] at hsame
      exact List.mem_map.mpr ⟨l', hl', hsame⟩
    · rw [hname, if_neg fun hsame => hnew ?_]
      · exact ih hrest hnodup hl
      · exact List.mem_map.mpr ⟨l, hl, (of_decide_eq_true hsame).symm⟩

/-- **A line may stand anywhere.** Lines with single keys that are new stand anywhere among pieces
and make entries of their own. -/
lemma Makes.insert {before behind : List Piece} {entries : Entries} {lines : List Line}
    (h : Makes (before ++ behind) entries) (hsingle : ∀ l ∈ lines, l.path.parents = [])
    (hnodup : (entries.names ++ lines.map fun l => l.path.key.name).Nodup) :
    Makes (before ++ lines.map Piece.line ++ behind) (entries ++ lines.map Line.entry) := by
  obtain ⟨-, hlines, hdisjoint⟩ := List.nodup_append.mp hnodup
  have hnames : Entries.names (entries ++ lines.map Line.entry) =
      entries.names ++ lines.map fun l => l.path.key.name := by
    rw [Entries.names_append, Entries.names, Entries.names, List.map_map]
    rfl
  have hold : ∀ p ∈ before ++ behind, p.name ∈ entries.names := fun p hp => h.names hp
  have hnew : ∀ p ∈ lines.map Piece.line, p.name ∈ lines.map fun l => l.path.key.name := by
    intro p hp
    obtain ⟨l, hl, rfl⟩ := List.mem_map.mp hp
    rw [Line.name_eq (hsingle l hl)]
    exact List.mem_map_of_mem hl
  refine ⟨by rwa [hnames], fun p hp => ?_, fun e he => ?_⟩
  · rw [hnames, List.mem_append]
    rcases List.mem_append.mp hp with hp | hp
    · rcases List.mem_append.mp hp with hp | hp
      · exact .inl (hold p (List.mem_append_left _ hp))
      · exact .inr (hnew p hp)
    · exact .inl (hold p (List.mem_append_right _ hp))
  · rcases List.mem_append.mp he with he | he
    · have hnone : piecesOf e.1.name (lines.map Piece.line) = [] :=
        piecesOf_eq_nil fun p hp hname =>
          hdisjoint _ (List.mem_map_of_mem he) _ (hnew p hp) hname.symm
      have hitem := h.items he
      rw [piecesOf_append] at hitem
      rw [piecesOf_append, piecesOf_append, hnone, List.append_nil]
      exact hitem
    · obtain ⟨l, hl, rfl⟩ := List.mem_map.mp he
      have hmem : l.path.key.name ∈ lines.map fun l => l.path.key.name := List.mem_map_of_mem hl
      have hnone : ∀ p ∈ before ++ behind, p.name ≠ l.path.key.name :=
        fun p hp hname => hdisjoint _ (hold p hp) _ hmem hname
      rw [Line.entry, piecesOf_append, piecesOf_append, piecesOf_map_line hsingle hlines hl,
        piecesOf_eq_nil fun p hp => hnone p (List.mem_append_left _ hp),
        piecesOf_eq_nil fun p hp => hnone p (List.mem_append_right _ hp), List.append_nil,
        List.nil_append]
      rw [Line.eq_of_single (hsingle l hl)]
      exact .value

end CrudScaffold.Toml
