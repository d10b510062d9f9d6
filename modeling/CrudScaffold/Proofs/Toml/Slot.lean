import Mathlib.Data.List.Perm.Basic
import CrudScaffold.Proofs.Toml.Layout

/-!
# One name at a time

A line or a stanza changes the entry of one name, the first one of its path, and looks at no other
(`Toml.Piece.actsAt`). So a document is built name by name: what is under a name after all pieces
have been put in is what the pieces of that name alone make (`Toml.Entries.addAll?_slot`), and all
pieces can be put in if those of every name can (`Toml.Entries.exists_addAll?`).
-/

namespace CrudScaffold.Toml

namespace Entries

variable {entries entries' left right : Entries} {name : String} {f : Entries → Option Entries}

/-- The entries of a name, of which there is at most one where names are not repeated. -/
def slot (name : String) (entries : Entries) : Entries := entries.filter (·.1.name = name)

/-- The entries of all other names. -/
def others (name : String) (entries : Entries) : Entries := entries.filter (·.1.name ≠ name)

lemma slot_eq_nil (h : name ∉ entries.names) : entries.slot name = [] := by
  refine List.filter_eq_nil_iff.mpr fun e he hname => h ?_
  rw [← of_decide_eq_true hname]
  exact List.mem_map_of_mem he

lemma others_eq_self (h : name ∉ entries.names) : entries.others name = entries := by
  refine List.filter_eq_self.mpr fun e he => decide_eq_true fun hname => h ?_
  rw [← hname]
  exact List.mem_map_of_mem he

lemma slot_split {known : Key} {item : Item} (hname : known.name = name) (hleft : name ∉ left.names)
    (hright : name ∉ right.names) :
    (left ++ (known, item) :: right).slot name = [(known, item)] := by
  have hl := slot_eq_nil hleft
  have hr := slot_eq_nil hright
  unfold slot at *
  rw [List.filter_append, List.filter_cons_of_pos (by simpa using hname), hl, hr, List.nil_append]

lemma others_split {known : Key} {item : Item} (hname : known.name = name)
    (hleft : name ∉ left.names) (hright : name ∉ right.names) :
    (left ++ (known, item) :: right).others name = left ++ right := by
  have hl := others_eq_self hleft
  have hr := others_eq_self hright
  unfold others at *
  rw [List.filter_append, List.filter_cons_of_neg (by simp [hname]), hl, hr]

lemma slot_cons_self {known : Key} {item : Item} (hname : known.name = name) :
    slot name ((known, item) :: entries) = (known, item) :: slot name entries :=
  List.filter_cons_of_pos (by simpa using hname)

/-- An operation on a table looks at the entry of one name and changes that one, or adds it. -/
structure ActsAt (name : String) (f : Entries → Option Entries) : Prop where
  isSome : ∀ {entries : Entries}, entries.names.Nodup →
    ((f entries).isSome ↔ (f (entries.slot name)).isSome)
  perm : ∀ {entries entries' : Entries}, entries.names.Nodup → f entries = some entries' →
    ∃ key item, key.name = name ∧ f (entries.slot name) = some [(key, item)] ∧
      entries'.Perm ((key, item) :: entries.others name)

/-- Entries of a name that are not repeated are none or stand among others. -/
lemma slot_cases (h : entries.names.Nodup) (name : String) :
    name ∉ entries.names ∨ ∃ (left : Entries) (known : Key) (item : Item) (right : Entries),
      entries = left ++ (known, item) :: right ∧
      known.name = name ∧ name ∉ left.names ∧ name ∉ right.names := by
  by_cases hmem : name ∈ entries.names
  · obtain ⟨left, known, item, right, rfl, hknown, hleft⟩ := exists_split hmem
    refine .inr ⟨left, known, item, right, rfl, hknown, hleft, fun hright => ?_⟩
    rw [names_append, names_cons, hknown] at h
    exact (List.nodup_cons.mp (List.nodup_append.mp h).2.1).1 hright
  · exact .inl hmem

/-- An operation that makes one entry of none or of one, wherever that one stands. -/
lemma actsAt_of (g : Option (Key × Item) → Option (Key × Item))
    (hnew : ∀ entries : Entries, name ∉ entries.names →
      f entries = (g none).map fun e => entries ++ [e])
    (hknown : ∀ (left : Entries) (known : Key) (item : Item) (right : Entries), known.name = name →
      name ∉ left.names → name ∉ right.names →
      f (left ++ (known, item) :: right) = none ∧ g (some (known, item)) = none ∨
      ∃ e entries', g (some (known, item)) = some e ∧
        f (left ++ (known, item) :: right) = some entries' ∧ entries'.Perm (e :: (left ++ right)))
    (hname : ∀ o e, g o = some e → (∀ e₀, o = some e₀ → e₀.1.name = name) → e.1.name = name) :
    ActsAt name f := by
  have hsingle : ∀ known item, known.name = name →
      f [(known, item)] = (g (some (known, item))).map fun e => [e] := by
    intro known item hk
    rcases hknown [] known item [] hk (by simp) (by simp) with ⟨hf, hg⟩ | ⟨e, es, hg, hf, hperm⟩
    · rw [List.nil_append] at hf
      rw [hf, hg]
      rfl
    · rw [List.nil_append] at hf
      rw [hf, hg, List.perm_singleton.mp hperm]
      rfl
  constructor
  · intro entries h
    rcases slot_cases h name with hmem | ⟨left, known, item, right, rfl, hk, hleft, hright⟩
    · rw [slot_eq_nil hmem, hnew entries hmem, hnew [] (by simp)]
      simp
    · rw [slot_split hk hleft hright, hsingle known item hk]
      rcases hknown left known item right hk hleft hright with ⟨hf, hg⟩ | ⟨e, es, hg, hf, -⟩
      · rw [hf, hg]
        rfl
      · rw [hf, hg]
        simp
  · intro entries entries' h hput
    rcases slot_cases h name with hmem | ⟨left, known, item, right, rfl, hk, hleft, hright⟩
    · rw [hnew entries hmem] at hput
      obtain ⟨⟨key, item⟩, he, rfl⟩ := Option.map_eq_some_iff.mp hput
      refine ⟨key, item, hname none _ he nofun, ?_, ?_⟩
      · rw [slot_eq_nil hmem, hnew [] (by simp), he]
        rfl
      · rw [others_eq_self hmem]
        exact List.perm_append_singleton _ _
    · rcases hknown left known item right hk hleft hright with ⟨hf, -⟩ |
        ⟨⟨key, new⟩, es, hg, hf, hperm⟩
      · rw [hf] at hput
        cases hput
      · obtain rfl := Option.some.inj (hf.symm.trans hput)
        refine ⟨key, new, hname _ _ hg fun e₀ he₀ => ?_, ?_, ?_⟩
        · rw [← Option.some.inj he₀]
          exact hk
        · rw [slot_split hk hleft hright, hsingle known item hk, hg]
          rfl
        · rw [others_split hk hleft hright]
          exact hperm

lemma actsAt_none (name : String) : ActsAt name fun _ => none :=
  ⟨fun _ => Iff.rfl, nofun⟩

lemma actsAt_alter? (key : Key) (g : Option Item → Option Item) :
    ActsAt key.name fun entries => entries.alter? key g := by
  refine actsAt_of (fun
    | none => (g none).map fun item => (key, item)
    | some (known, item) => (g (some item)).map fun new => (known, new)) ?_ ?_ ?_
  · intro entries hmem
    rw [alter?_of_notMem hmem, Option.map_map]
    rfl
  · intro left known item right hk hleft hright
    rw [alter?_of_split hleft hk]
    dsimp only
    cases g (some item) with
    | none => exact .inl ⟨rfl, rfl⟩
    | some new => exact .inr ⟨_, _, rfl, rfl, List.perm_middle⟩
  · rintro (_ | ⟨known, item⟩) e he hold
    · obtain ⟨new, -, rfl⟩ := Option.map_eq_some_iff.mp he
      rfl
    · obtain ⟨new, -, rfl⟩ := Option.map_eq_some_iff.mp he
      exact hold (known, item) rfl

lemma get?_eq_none (h : name ∉ entries.names) : entries.get? name = none := by
  induction entries with
  | nil => rfl
  | cons e entries ih =>
    obtain ⟨key, item⟩ := e
    rw [names_cons, List.mem_cons, not_or] at h
    rw [get?, if_neg (Ne.symm h.1), ih h.2]

lemma get?_split {known : Key} {item : Item} (hname : known.name = name)
    (hleft : name ∉ left.names) :
    get? name (left ++ (known, item) :: right) = some item := by
  rw [get?_append, get?_eq_none hleft, Option.none_or, get?, if_pos hname]

lemma get?_ne_none (h : name ∈ entries.names) : entries.get? name ≠ none := by
  obtain ⟨left, known, item, right, rfl, hname, hleft⟩ := exists_split h
  rw [get?_split hname hleft]
  exact Option.some_ne_none item

lemma erase_split {known : Key} {item : Item} (hname : known.name = name)
    (hleft : name ∉ left.names) :
    erase name (left ++ (known, item) :: right) = left ++ right := by
  induction left with
  | nil => rw [List.nil_append, erase, if_pos hname, List.nil_append]
  | cons e left ih =>
    obtain ⟨key, old⟩ := e
    rw [names_cons, List.mem_cons, not_or] at hleft
    rw [List.cons_append, erase, if_neg (Ne.symm hleft.1), ih hleft.2, List.cons_append]

/-- What a header that names one table makes of the entry of its name: a new table, or more of one
that other headers have made. -/
def tableBeside? (s : Section) : Option (Key × Item) → Option (Key × Item)
  | none => (putAll? s.body []).map fun inner => (s.path.key, .table s.head inner)
  | some (_, .table head known) =>
    if head.implicit && !head.dotted then
      (putAll? s.body known).map fun inner => (s.path.key, .table s.head inner)
    else none
  | some _ => none

section Beside

variable {s : Section} (hrepeated : s.repeated = false)

include hrepeated

lemma addBeside?_of_notMem (h : s.path.key.name ∉ entries.names) :
    entries.addBeside? s = (tableBeside? s none).map fun e => entries ++ [e] := by
  rw [addBeside?, if_neg (by simp [hrepeated]), get?_eq_none h, tableBeside?]
  dsimp only
  cases putAll? s.body [] with
  | none => rfl
  | some inner => exact add?_of_notMem h

lemma addBeside?_split {known : Key} {item : Item} (hname : known.name = s.path.key.name)
    (hleft : s.path.key.name ∉ left.names) (hright : s.path.key.name ∉ right.names) :
    addBeside? s (left ++ (known, item) :: right) =
      (tableBeside? s (some (known, item))).map fun e => left ++ right ++ [e] := by
  rw [addBeside?, if_neg (by simp [hrepeated]), get?_split hname hleft, tableBeside?.eq_def]
  have hadd : ∀ new : Item, add? s.path.key new (left ++ right) =
      some (left ++ right ++ [(s.path.key, new)]) := by
    intro new
    refine add?_of_notMem ?_
    rw [names_append, List.mem_append, not_or]
    exact ⟨hleft, hright⟩
  cases item with
  | value literal around => rfl
  | tables members => rfl
  | table head inner =>
    dsimp only
    rw [erase_split hname hleft]
    split
    · cases putAll? s.body inner with
      | none => rfl
      | some inner' => exact hadd _
    · rfl

end Beside

lemma actsAt_addBeside? (s : Section) :
    ActsAt s.path.key.name fun entries => entries.addBeside? s := by
  by_cases hrepeated : s.repeated = true
  · unfold addBeside?
    simp only [hrepeated, if_true]
    cases putAll? s.body [] with
    | none => exact actsAt_none _
    | some body => exact actsAt_alter? _ _
  · rw [Bool.not_eq_true] at hrepeated
    refine actsAt_of (tableBeside? s) (fun entries => addBeside?_of_notMem hrepeated) ?_ ?_
    · intro left known item right hk hleft hright
      rw [addBeside?_split hrepeated hk hleft hright]
      cases tableBeside? s (some (known, item)) with
      | none => exact .inl ⟨rfl, rfl⟩
      | some e => exact .inr ⟨_, _, rfl, rfl, List.perm_append_singleton _ _⟩
    · intro o e he _
      have hkey : e.1 = s.path.key := by
        unfold tableBeside? at he
        split at he
        · obtain ⟨inner, -, rfl⟩ := Option.map_eq_some_iff.mp he
          rfl
        · split at he
          · obtain ⟨inner, -, rfl⟩ := Option.map_eq_some_iff.mp he
            rfl
          · cases he
        · cases he
      rw [hkey]

/-- Changing the table that a path of keys leads to concerns the first of them. -/
lemma actsAt_within? (dotted : Bool) (first : Key) (path : List Key)
    (g : Head → Entries → Option Entries) (head : Head) :
    ActsAt first.name (within? dotted (first :: path) g head) :=
  actsAt_alter? first _

end Entries

/-! ### Pieces -/

/-- A line or a stanza. -/
inductive Piece
  | line (l : Line)
  | stanza (s : Stanza)

namespace Piece

/-- The path of a line or a header. -/
def path : Piece → Path
  | line l => l.path
  | stanza s => s.path

/-- The first name of the path. -/
def name (p : Piece) : String := (p.path.parents.headD p.path.key).name

/-- Puts a piece into a table. -/
def put? : Piece → Entries → Option Entries
  | line l, entries => entries.put? l.path (.value l.literal l.around)
  | stanza s, entries => entries.addSection? s.section

/-- A piece concerns the first name of its path. -/
lemma actsAt (p : Piece) : Entries.ActsAt p.name p.put? := by
  match p with
  | line ⟨⟨[], key⟩, literal, around⟩ => exact Entries.actsAt_alter? key _
  | line ⟨⟨first :: parents, key⟩, literal, around⟩ =>
    exact Entries.actsAt_within? true first parents _ {}
  | stanza s =>
    obtain ⟨⟨_ | ⟨first, parents⟩, key⟩, repeated, head, lines⟩ := s
    · exact Entries.actsAt_addBeside? (Stanza.section ⟨⟨[], key⟩, repeated, head, lines⟩)
    · exact Entries.actsAt_within? false first parents _ {}

end Piece

namespace Entries

variable {entries entries' : Entries} {name : String} {pieces : List Piece}

/-- Puts pieces into a table one after the other. -/
def addAll? (pieces : List Piece) (entries : Entries) : Option Entries :=
  pieces.foldlM (fun entries p => p.put? entries) entries

@[simp] lemma addAll?_nil (entries : Entries) : addAll? [] entries = some entries := rfl

lemma addAll?_cons (p : Piece) (pieces : List Piece) (entries : Entries) :
    addAll? (p :: pieces) entries = (p.put? entries).bind (addAll? pieces) := rfl

lemma addAll?_append (pieces more : List Piece) (entries : Entries) :
    addAll? (pieces ++ more) entries = (addAll? pieces entries).bind (addAll? more) := by
  rw [addAll?, List.foldlM_append]
  rfl

end Entries

/-- The pieces of a name. -/
def piecesOf (name : String) (pieces : List Piece) : List Piece := pieces.filter (·.name = name)

namespace Entries

/-- A piece keeps names apart. -/
lemma nodup_put? {p : Piece} (h : entries.names.Nodup) (hput : p.put? entries = some entries') :
    entries'.names.Nodup := by
  obtain ⟨key, item, hname, -, hperm⟩ := p.actsAt.perm h hput
  have hnames := hperm.map (·.1.name)
  refine (List.Perm.nodup_iff hnames).mpr (List.nodup_cons.mpr ⟨fun hmem => ?_, ?_⟩)
  · obtain ⟨e, he, hkey⟩ := List.mem_map.mp hmem
    have hno := of_decide_eq_true (List.mem_filter.mp he).2
    exact hno (hkey.trans hname)
  · exact h.sublist (List.filter_sublist.map _)

lemma nodup_addAll? (h : entries.names.Nodup) (hadd : addAll? pieces entries = some entries') :
    entries'.names.Nodup := by
  induction pieces generalizing entries with
  | nil =>
    cases hadd
    exact h
  | cons p pieces ih =>
    obtain ⟨next, hnext, hadd⟩ := Option.bind_eq_some_iff.mp hadd
    exact ih (nodup_put? h hnext) hadd

/-- What a piece makes of the entries of a name. -/
lemma slot_put? {p : Piece} (h : entries.names.Nodup) (hput : p.put? entries = some entries')
    (name : String) :
    (p.name = name → p.put? (entries.slot name) = some (entries'.slot name)) ∧
      (p.name ≠ name → entries'.slot name = entries.slot name) := by
  obtain ⟨key, item, hname, hslot, hperm⟩ := p.actsAt.perm h hput
  have hfilter : (entries'.slot name).Perm (slot name ((key, item) :: entries.others p.name)) :=
    hperm.filter _
  constructor
  · rintro rfl
    have hothers : (entries.others p.name).slot p.name = [] := by
      refine slot_eq_nil fun hmem => ?_
      obtain ⟨e, he, hkey⟩ := List.mem_map.mp hmem
      exact of_decide_eq_true (List.mem_filter.mp he).2 hkey
    rw [slot_cons_self hname, hothers] at hfilter
    rw [hslot, List.perm_singleton.mp hfilter]
  · intro hne
    have hsame : slot name ((key, item) :: entries.others p.name) = entries.slot name := by
      unfold slot others
      rw [List.filter_cons_of_neg (by simpa [hname] using hne), List.filter_filter]
      refine List.filter_congr fun e _ => ?_
      by_cases he : e.1.name = name
      · simp [he, Ne.symm hne]
      · simp [he]
    rw [hsame] at hfilter
    -- there is at most one entry of a name, so the order makes no difference
    rcases slot_cases h name with hmem | ⟨left, known, old, right, rfl, hk, hleft, hright⟩
    · rw [slot_eq_nil hmem] at hfilter ⊢
      exact List.perm_nil.mp hfilter
    · rw [slot_split hk hleft hright] at hfilter ⊢
      exact List.perm_singleton.mp hfilter

/-- **One name at a time.** What all pieces make of the entries of a name is what the pieces of that
name make of them. -/
lemma addAll?_slot (h : entries.names.Nodup) (hadd : addAll? pieces entries = some entries')
    (name : String) :
    addAll? (piecesOf name pieces) (entries.slot name) = some (entries'.slot name) := by
  induction pieces generalizing entries with
  | nil =>
    cases hadd
    rfl
  | cons p pieces ih =>
    obtain ⟨next, hnext, hadd⟩ := Option.bind_eq_some_iff.mp hadd
    have ih := ih (nodup_put? h hnext) hadd
    obtain ⟨hsame, hother⟩ := slot_put? h hnext name
    by_cases hname : p.name = name
    · rw [piecesOf, List.filter_cons_of_pos (by simpa using hname), addAll?_cons, hsame hname]
      exact ih
    · rw [piecesOf, List.filter_cons_of_neg (by simpa using hname), ← hother hname]
      exact ih

/-- **All names together.** All pieces can be put into a table if those of every name can be put
into the entries of that name. -/
lemma exists_addAll? (h : entries.names.Nodup)
    (hslots : ∀ name, ∃ slot', addAll? (piecesOf name pieces) (entries.slot name) = some slot') :
    ∃ entries', addAll? pieces entries = some entries' := by
  induction pieces generalizing entries with
  | nil => exact ⟨entries, rfl⟩
  | cons p pieces ih =>
    obtain ⟨slot', hslot⟩ := hslots p.name
    rw [piecesOf, List.filter_cons_of_pos (by simp), addAll?_cons] at hslot
    obtain ⟨next', hnext', -⟩ := Option.bind_eq_some_iff.mp hslot
    obtain ⟨next, hnext⟩ := Option.isSome_iff_exists.mp
      ((p.actsAt.isSome h).mpr (Option.isSome_iff_exists.mpr ⟨next', hnext'⟩))
    rw [addAll?_cons, hnext]
    refine ih (nodup_put? h hnext) fun name => ?_
    obtain ⟨slot', hslot⟩ := hslots name
    obtain ⟨hsame, hother⟩ := slot_put? h hnext name
    by_cases hname : p.name = name
    · rw [piecesOf, List.filter_cons_of_pos (by simpa using hname), addAll?_cons,
        hsame hname] at hslot
      exact ⟨slot', hslot⟩
    · rw [piecesOf, List.filter_cons_of_neg (by simpa using hname), ← hother hname] at hslot
      exact ⟨slot', hslot⟩

end Entries

end CrudScaffold.Toml
