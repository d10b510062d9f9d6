import Mathlib.Data.List.Pairwise
import Mathlib.Data.List.Sort
import CrudScaffold.Proofs.Toml.Contents

/-!
# The order of what is printed

Lines and headers are printed in the order of their places. What has no place, because it was never
written, comes behind all lines that have one, or somewhere among the headers
(`Toml.Document.inOrder_stanzas`). So if the pieces that make a document have rising places, the
document is printed as these pieces (`Toml.Document.layout_of_makes`).
-/

namespace CrudScaffold.Toml

/-! ### Places -/

section Places

variable {α β : Type*} {place : α → Option ℕ} {l l₁ l₂ : List α}

/-- Whatever has a place in a list stands behind what has a lower one. -/
def InOrder (place : α → Option ℕ) (l : List α) : Prop :=
  l.Pairwise fun a b => ∀ i j, place a = some i → place b = some j → i ≤ j

/-- All members of a list have places, and each one has a higher place than the one in front. -/
structure Rising (place : α → Option ℕ) (l : List α) : Prop where
  placed : ∀ a ∈ l, (place a).isSome
  rising : l.Pairwise fun a b => ∀ i j, place a = some i → place b = some j → i < j

lemma Rising.nil : Rising place [] := ⟨nofun, .nil⟩

lemma Rising.inOrder (h : Rising place l) : InOrder place l :=
  h.rising.imp fun hlt i j hi hj => Nat.le_of_lt (hlt i j hi hj)

lemma Rising.sublist (h : Rising place l₂) (hsub : l₁.Sublist l₂) : Rising place l₁ :=
  ⟨fun a ha => h.placed a (hsub.subset ha), h.rising.sublist hsub⟩

/-- No place is taken twice. -/
lemma Rising.eq_of_place (h : Rising place l) {a b : α} (ha : a ∈ l) (hb : b ∈ l)
    (hplace : place a = place b) : a = b := by
  by_contra hne
  obtain ⟨i, hi⟩ := Option.isSome_iff_exists.mp (h.placed a ha)
  have hdiffer : l.Pairwise fun x y => place x ≠ some i ∨ place y ≠ some i := by
    refine h.rising.imp fun {x y} hlt => ?_
    by_contra hboth
    obtain ⟨hx, hy⟩ := not_or.mp hboth
    have hii := hlt i i (not_not.mp hx) (not_not.mp hy)
    omega
  have hsymm : Std.Symm fun x y : α => place x ≠ some i ∨ place y ≠ some i := ⟨fun _ _ => Or.symm⟩
  have hone := hdiffer.forall ha hb hne
  exact hone.elim (fun hx => hx hi) fun hy => hy (hplace.symm.trans hi)

/-- There is one order for what has rising places. -/
lemma Rising.eq_of_perm (h₂ : Rising place l₂) (h : l₁.Perm l₂) (h₁ : InOrder place l₁) :
    l₁ = l₂ := by
  refine List.Perm.eq_of_pairwise (fun a b ha hb hab hba => ?_) h₁ h₂.inOrder h
  have ha' := h.subset ha
  obtain ⟨i, hi⟩ := Option.isSome_iff_exists.mp (h₂.placed a ha')
  obtain ⟨j, hj⟩ := Option.isSome_iff_exists.mp (h₂.placed b hb)
  have hij := hab i j hi hj
  have hji := hba j i hj hi
  exact h₂.eq_of_place ha' hb (by rw [hi, hj, Nat.le_antisymm hij hji])

end Places

/-! ### Lines in order -/

lemma bareParents_map (parents : List Key) :
    bareParents (parents.map Key.bare) = bareParents parents := by
  cases parents with
  | nil => rfl
  | cons first more =>
    have hmore : (more.map Key.bare).map Key.bare = more.map Key.bare := by
      rw [List.map_map]
      rfl
    rw [List.map_cons, bareParents, bareParents, hmore]
    rfl

lemma Path.printed_bare (p : Path) (standard : Around) :
    p.bare.printed standard = p.printed standard := by
  unfold Path.printed Path.bare
  dsimp only
  rw [bareParents_map, List.isEmpty_map]

/-- The place of a line. -/
def Line.place (l : Line) : Option ℕ := l.path.key.place

namespace Line

lemma printed_bare (l : Line) : l.bare.printed = l.printed := by
  unfold printed bare
  dsimp only
  rw [Path.printed_bare]

lemma before_iff (a b : Line) : a.before b ↔
    (∀ i j, a.place = some i → b.place = some j → i ≤ j) ∧ (b.place.isSome → a.place.isSome) := by
  unfold before place
  cases a.path.key.place <;> cases b.path.key.place <;> simp

end Line

/-- The lines of a table are printed in order, and those without a place come last. -/
lemma Entries.pairwise_lines (entries : Entries) :
    (Entries.lines entries).Pairwise fun a b : Line => a.before b := by
  refine List.pairwise_mergeSort (fun a b c hab hbc => ?_) (fun a b => ?_) _
  · rw [Line.before_iff] at hab hbc ⊢
    refine ⟨fun i k hi hk => ?_, fun hc => hab.2 (hbc.2 hc)⟩
    obtain ⟨j, hj⟩ := Option.isSome_iff_exists.mp (hbc.2 (by rw [hk]; rfl))
    exact Nat.le_trans (hab.1 i j hi hj) (hbc.1 j k hj hk)
  · rw [Bool.or_eq_true, Line.before_iff, Line.before_iff]
    cases ha : a.place with
    | none => exact .inr ⟨fun _ _ _ hi => (nomatch hi), fun h => absurd h Bool.false_ne_true⟩
    | some i =>
      cases hb : b.place with
      | none => exact .inl ⟨nofun, fun _ => rfl⟩
      | some j =>
        rcases Nat.le_total i j with hij | hji
        · refine .inl ⟨fun i' j' hi hj => ?_, fun _ => rfl⟩
          obtain rfl := Option.some.inj hi
          obtain rfl := Option.some.inj hj
          exact hij
        · refine .inr ⟨fun j' i' hj hi => ?_, fun _ => rfl⟩
          obtain rfl := Option.some.inj hi
          obtain rfl := Option.some.inj hj
          exact hji

lemma Entries.inOrder_lines (entries : Entries) : InOrder Line.place (Entries.lines entries) :=
  (Entries.pairwise_lines entries).imp fun h => ((Line.before_iff _ _).mp h).1

/-- The lines of a table that is made of lines in rising places are these lines. -/
lemma Makes.lines_eq {pieces : List Piece} {entries : Entries} (h : Makes pieces entries)
    (hrising : Rising Line.place (linesIn pieces)) :
    (Entries.lines entries).map Line.bare = linesIn pieces :=
  hrising.eq_of_perm h.perm_lines_bare (List.pairwise_map.mpr (Entries.inOrder_lines entries))

/-! ### Stanzas in order -/

namespace Stanza

/-- The place of a stanza. -/
def place (s : Stanza) : Option ℕ := s.head.place

/-- A stanza as it is printed. -/
def printed (s : Stanza) : Stanza :=
  ⟨(s.path.printed ⟨"", ""⟩).unplaced, s.repeated, s.head, s.lines.map Line.printed⟩

end Stanza

lemma Block.stanza?_eq (b : Block) : b.stanza? = b.plain?.map Stanza.printed := by
  obtain ⟨_ | path, repeated, head, lines⟩ := b
  · rfl
  · have hlines : (lines.map Line.bare).map Line.printed = lines.map Line.printed := by
      rw [List.map_map]
      exact List.map_congr_left fun l _ => l.printed_bare
    change (if (⟨some path, repeated, head, lines⟩ : Block).hasHeader then _ else none) =
      Option.map _ (if (⟨some path, repeated, head, lines⟩ : Block).hasHeader then _ else none)
    split
    · rw [Option.map_some, Stanza.printed, Path.printed_bare, hlines]
    · rfl

lemma Block.plain?_eq_some {b : Block} {s : Stanza} (h : b.plain? = some s) :
    s.place = b.head.place ∧ s.lines = b.lines.map Line.bare := by
  obtain ⟨path, -, h⟩ := Option.bind_eq_some_iff.mp h
  split at h
  · obtain rfl := Option.some.inj h
    exact ⟨rfl, rfl⟩
  · cases h

mutual

lemma Item.exists_lines {parents : List Key} {key : Key} {item : Item} {b : Block}
    (hb : b ∈ item.blocks parents key) : ∃ entries, b.lines = Entries.lines entries := by
  match item with
  | .value literal around => cases hb
  | .table head entries =>
    rw [Item.blocks, List.mem_append] at hb
    rcases hb with hb | hb
    · split at hb
      · cases hb
      · rw [List.mem_singleton.mp hb]
        exact ⟨entries, rfl⟩
    · exact exists_lines_of_mem_blocksOf hb
  | .tables members => exact exists_lines_of_mem_memberBlocks hb

lemma exists_lines_of_mem_blocksOf {parents : List Key} {entries : List (Key × Item)} {b : Block}
    (hb : b ∈ blocksOf parents entries) : ∃ entries, b.lines = Entries.lines entries := by
  match entries with
  | [] => cases hb
  | (key, item) :: rest =>
    rw [blocksOf, List.mem_append] at hb
    rcases hb with hb | hb
    · exact Item.exists_lines hb
    · exact exists_lines_of_mem_blocksOf hb

lemma exists_lines_of_mem_memberBlocks {parents : List Key} {key : Key}
    {members : List (Head × List (Key × Item))} {b : Block}
    (hb : b ∈ memberBlocks parents key members) : ∃ entries, b.lines = Entries.lines entries := by
  match members with
  | [] => cases hb
  | (head, entries) :: rest =>
    rw [memberBlocks, List.mem_append, List.mem_append, List.mem_singleton] at hb
    rcases hb with (rfl | hb) | hb
    · exact ⟨entries, rfl⟩
    · exact exists_lines_of_mem_blocksOf hb
    · exact exists_lines_of_mem_memberBlocks hb

end

/-- The rank of a block with a place is that place. -/
lemma eq_of_mem_ranked {last : ℕ} {blocks : List Block} {r : ℕ × Block}
    (hr : r ∈ ranked last blocks) {i : ℕ} (hi : r.2.head.place = some i) : r.1 = i := by
  induction blocks generalizing last with
  | nil => cases hr
  | cons b blocks ih =>
    rw [ranked] at hr
    rcases List.mem_cons.mp hr with rfl | hr
    · dsimp only at hi ⊢
      rw [hi, Option.getD_some]
    · exact ih hr

namespace Document

variable (d : Document)

/-- The stanzas of a document in the order they are printed. -/
def stanzas : List Stanza := d.headed.filterMap Block.plain?

lemma layout_eq : d.layout =
    ((Entries.lines d.entries).map Line.printed, d.stanzas.map Stanza.printed) := by
  have hstanzas : d.blocks.filterMap Block.stanza? = d.stanzas.map Stanza.printed := by
    rw [blocks_eq, stanzas, List.map_filterMap]
    exact List.filterMap_congr fun b (_ : b ∈ d.headed) => Block.stanza?_eq b
  rw [layout, hstanzas]

lemma perm_stanzas : d.stanzas.Perm ((blocksOf [] d.entries).filterMap Block.plain?) :=
  d.perm_headed.filterMap _

/-- Headers are printed in order, but for those without a place. -/
lemma inOrder_stanzas : InOrder Stanza.place d.stanzas := by
  have hsorted : ((ranked 0 (blocksOf [] d.entries)).mergeSort
      fun a b => decide (a.1 ≤ b.1)).Pairwise fun a b => decide (a.1 ≤ b.1) = true := by
    refine List.pairwise_mergeSort (fun a b c hab hbc => ?_) (fun a b => ?_) _
    · simp only [decide_eq_true_eq] at hab hbc ⊢
      omega
    · simp only [Bool.or_eq_true, decide_eq_true_eq]
      omega
  refine List.pairwise_filterMap.mpr (List.pairwise_map.mpr (hsorted.imp_of_mem ?_))
  intro a b ha hb hab s hs s' hs' i j hi hj
  rw [(Block.plain?_eq_some hs).1] at hi
  rw [(Block.plain?_eq_some hs').1] at hj
  rw [← eq_of_mem_ranked (List.mem_mergeSort.mp ha) hi,
    ← eq_of_mem_ranked (List.mem_mergeSort.mp hb) hj]
  exact of_decide_eq_true hab

end Document

/-- There is one order for the lines of a stanza if their places are rising. -/
lemma Stanza.eq_of_loose {s s' : Stanza} (h : s'.loose = s.loose)
    (hlines : InOrder Line.place s'.lines) (hrising : Rising Line.place s.lines) : s' = s := by
  obtain ⟨path, repeated, head, lines⟩ := s
  obtain ⟨path', repeated', head', lines'⟩ := s'
  simp only [Stanza.loose, Prod.mk.injEq, Multiset.coe_eq_coe] at h
  obtain ⟨rfl, rfl, rfl, hperm⟩ := h
  rw [hrising.eq_of_perm hperm hlines]

lemma perm_of_map_perm {α β : Type*} {f : α → β} {l l' : List α} (h : (l.map f).Perm (l'.map f))
    (hf : ∀ a ∈ l, ∀ b ∈ l', f a = f b → a = b) : l.Perm l' := by
  induction l generalizing l' with
  | nil =>
    rw [List.map_eq_nil_iff.mp (List.nil_perm.mp h)]
  | cons a l ih =>
    have hmem : f a ∈ l'.map f := h.subset (List.mem_map_of_mem List.mem_cons_self)
    obtain ⟨b, hb, hab⟩ := List.mem_map.mp hmem
    obtain rfl := hf a List.mem_cons_self b hb hab.symm
    obtain ⟨left, right, rfl⟩ := List.append_of_mem hb
    have hrest : (l.map f).Perm ((left ++ right).map f) := by
      have hmiddle : ((left ++ a :: right).map f).Perm (f a :: (left ++ right).map f) :=
        (List.perm_middle : (left ++ a :: right).Perm (a :: (left ++ right))).map f
      exact (List.perm_cons (f a)).mp (h.trans hmiddle)
    refine (List.Perm.cons a (ih hrest fun x hx y hy => ?_)).trans List.perm_middle.symm
    refine hf x (List.mem_cons_of_mem _ hx) y ?_
    rcases List.mem_append.mp hy with hy | hy
    · exact List.mem_append_left _ hy
    · exact List.mem_append_right _ (List.mem_cons_of_mem _ hy)

/-- Pieces have rising places: the lines in front, the headers, and the lines under each header. -/
structure AreRising (lines : List Line) (stanzas : List Stanza) : Prop where
  front : Rising Line.place lines
  headers : Rising Stanza.place stanzas
  inner : ∀ s ∈ stanzas, Rising Line.place s.lines

/-- The stanzas of blocks are those of a list exactly, if the lines of the former are in order and
the lines of the latter are rising. -/
lemma HaveStanzas.perm {blocks : List Block} {stanzas : List Stanza}
    (h : HaveStanzas blocks stanzas)
    (hlines : ∀ b ∈ blocks, ∃ entries, b.lines = Entries.lines entries)
    (hrising : ∀ s ∈ stanzas, Rising Line.place s.lines) :
    (blocks.filterMap Block.plain?).Perm stanzas := by
  refine perm_of_map_perm h fun s' hs' s hs heq => Stanza.eq_of_loose heq ?_ (hrising s hs)
  obtain ⟨b, hb, hs'⟩ := List.mem_filterMap.mp hs'
  obtain ⟨entries, hentries⟩ := hlines b hb
  rw [(Block.plain?_eq_some hs').2, hentries]
  exact List.pairwise_map.mpr (Entries.inOrder_lines entries)

/-- **The layout of a document.** A document that is made of pieces with rising places is printed as
these pieces in their order. -/
lemma Document.layout_of_makes {d : Document} {lines : List Line} {stanzas : List Stanza}
    (h : Makes (lines.map .line ++ stanzas.map .stanza) d.entries)
    (hrising : AreRising lines stanzas) :
    (Entries.lines d.entries).map Line.bare = lines ∧ d.stanzas = stanzas ∧
      d.layout = (lines.map Line.printed, stanzas.map Stanza.printed) := by
  have hlines : (Entries.lines d.entries).map Line.bare = lines := by
    have hin := h.lines_eq (by simpa using hrising.front)
    simpa using hin
  have hstanzas : d.stanzas = stanzas := by
    have hperm := h.perm_stanzas
    rw [stanzasIn_append, stanzasIn_map_line, stanzasIn_map_stanza, List.nil_append] at hperm
    have hall := hperm.perm (fun b hb => exists_lines_of_mem_blocksOf hb) hrising.inner
    exact hrising.headers.eq_of_perm (d.perm_stanzas.trans hall) d.inOrder_stanzas
  refine ⟨hlines, hstanzas, ?_⟩
  rw [d.layout_eq, hstanzas, ← hlines, List.map_map]
  exact congrArg (·, _) (List.map_congr_left fun l _ => l.printed_bare.symm)

end CrudScaffold.Toml
