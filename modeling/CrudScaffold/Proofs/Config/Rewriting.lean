import Mathlib
import CrudScaffold.Proofs.Config.Completion
import CrudScaffold.Proofs.Toml.Return

/-!
# A completed document is written and read again

A document that was read and completed is printed as a text that is read as a document with the same
values. That one has all keys of the settings, so it is not changed by being completed again, and it
has the same text (`Config.exists_reread`). The new header of a section must be one that can be
read, which a comment in front of its key prevents.
-/

namespace CrudScaffold.Toml.Entries

variable {entries : Entries} {key : Key} {item : Item}

lemma names_set (entries : Entries) (key : Key) (item : Item) :
    (entries.set key item).names =
      if key.name ∈ entries.names then entries.names else entries.names ++ [key.name] := by
  induction entries with
  | nil => rfl
  | cons e entries ih =>
    obtain ⟨known, old⟩ := e
    rw [set]
    by_cases hknown : known.name = key.name
    · simp [hknown]
    · rw [if_neg hknown, names_cons, names_cons, ih]
      by_cases hmem : key.name ∈ names entries
      · simp [hmem]
      · simp [hmem, Ne.symm hknown]

lemma nodup_set (h : entries.names.Nodup) (key : Key) (item : Item) :
    (entries.set key item).names.Nodup := by
  rw [names_set]
  split
  · exact h
  · rename_i hmem
    exact List.nodup_append.mpr ⟨h, List.nodup_singleton _, fun a ha b hb => by
      rw [List.mem_singleton.mp hb]
      rintro rfl
      exact hmem ha⟩

/-- An entry of a table in which an item was put under a name is another one, or the item under the
key that it had or gets. -/
lemma mem_set (h : entries.names.Nodup) {e : Key × Item} (he : e ∈ entries.set key item) :
    e.1.name ≠ key.name ∧ e ∈ entries ∨ e.1.name = key.name ∧ e.2 = item ∧
      ((∃ old, (e.1, old) ∈ entries) ∨ e.1 = key ∧ key.name ∉ entries.names) := by
  induction entries with
  | nil =>
    rw [List.mem_singleton.mp he]
    exact .inr ⟨rfl, rfl, .inr ⟨rfl, nofun⟩⟩
  | cons first entries ih =>
    obtain ⟨known, old⟩ := first
    obtain ⟨hknown, h⟩ := List.nodup_cons.mp h
    rw [set] at he
    by_cases hname : known.name = key.name
    · rw [if_pos hname] at he
      rcases List.mem_cons.mp he with rfl | he
      · exact .inr ⟨hname, rfl, .inl ⟨old, List.mem_cons_self⟩⟩
      · refine .inl ⟨fun hsame => hknown ?_, List.mem_cons_of_mem _ he⟩
        change known.name ∈ names entries
        rw [hname, ← hsame]
        exact List.mem_map_of_mem he
    · rw [if_neg hname] at he
      rcases List.mem_cons.mp he with rfl | he
      · exact .inl ⟨hname, List.mem_cons_self⟩
      · rcases ih h he with ⟨hne, hmem⟩ | ⟨hsame, hitem, ⟨old', hold⟩ | ⟨hkey, hno⟩⟩
        · exact .inl ⟨hne, List.mem_cons_of_mem _ hmem⟩
        · exact .inr ⟨hsame, hitem, .inl ⟨old', List.mem_cons_of_mem _ hold⟩⟩
        · refine .inr ⟨hsame, hitem, .inr ⟨hkey, fun hmem => ?_⟩⟩
          rcases List.mem_cons.mp hmem with hmem | hmem
          · exact hname hmem.symm
          · exact hno hmem

end CrudScaffold.Toml.Entries

namespace CrudScaffold.Config

open Toml

variable {entries entries' inner : Entries} {count count' : Nat} {name : String}
  {settings : List (String × Setting)} {sections : List (String × List (String × Setting))}

/-! ### The lines that a section gets -/

/-- The lines that a table gets: one for each setting that it lacks. -/
def addedLines (entries : Entries) (settings : List (String × Setting)) : List Line :=
  settings.filterMap fun setting =>
    if (entries.get? setting.1).isSome then none
    else (literal? setting.2).map fun literal => ⟨⟨[], Key.ofWord setting.1⟩, literal, none⟩

lemma map_entry_addedLines (entries : Entries) (settings : List (String × Setting)) :
    (addedLines entries settings).map Line.entry = additions entries settings := by
  rw [addedLines, additions, List.map_filterMap]
  refine List.filterMap_congr fun setting _ => ?_
  split
  · rfl
  · rw [Option.map_map]
    rfl

/-- What is expected of sections that are written: their names and keys are words, and the values of
their settings can be read again. -/
structure Writable (sections : List (String × List (String × Setting))) : Prop where
  names : ∀ s ∈ sections, Spells s.1 s.1
  keys : ∀ s ∈ sections, ∀ e ∈ s.2, Spells e.1 e.1
  literals : ∀ s ∈ sections, ∀ e ∈ s.2, ∀ literal, literal? e.2 = some literal →
    literal.IsStable Toml.literal?

lemma exists_of_mem_addedLines {l : Line} (hl : l ∈ addedLines entries settings) :
    ∃ e ∈ settings, entries.get? e.1 = none ∧ ∃ literal, literal? e.2 = some literal ∧
      l = ⟨⟨[], Key.ofWord e.1⟩, literal, none⟩ := by
  obtain ⟨e, he, hl⟩ := List.mem_filterMap.mp hl
  split at hl
  · cases hl
  · rename_i hget
    obtain ⟨literal, hliteral, rfl⟩ := Option.map_eq_some_iff.mp hl
    exact ⟨e, he, by simpa using hget, literal, hliteral, rfl⟩

lemma Writable.isAddable (h : Writable sections) {s : String × List (String × Setting)}
    (hs : s ∈ sections) (entries : Entries) : ∀ l ∈ addedLines entries s.2, l.IsAddable := by
  intro l hl
  obtain ⟨e, he, -, literal, hliteral, rfl⟩ := exists_of_mem_addedLines hl
  exact ⟨rfl, rfl, h.keys s hs e he, h.literals s hs e he literal hliteral⟩

lemma sublist_addedLines (entries : Entries) (settings : List (String × Setting)) :
    ((addedLines entries settings).map fun l => l.path.key.name).Sublist
      (settings.map Prod.fst) := by
  induction settings with
  | nil => exact .slnil
  | cons e settings ih =>
    rw [addedLines, List.filterMap_cons, List.map_cons]
    split
    · exact ih.cons _
    · rename_i l hl
      split at hl
      · cases hl
      · obtain ⟨literal, -, rfl⟩ := Option.map_eq_some_iff.mp hl
        exact ih.cons_cons _

/-- The lines that a table gets have names of their own. -/
lemma nodup_addedLines (hkeys : (settings.map Prod.fst).Nodup) (hnodup : entries.names.Nodup) :
    (entries.names ++ (addedLines entries settings).map fun l => l.path.key.name).Nodup := by
  refine List.nodup_append.mpr ⟨hnodup, hkeys.sublist (sublist_addedLines _ _),
    fun a ha b hb => ?_⟩
  obtain ⟨l, hl, rfl⟩ := List.mem_map.mp hb
  obtain ⟨e, -, hnone, literal, -, rfl⟩ := exists_of_mem_addedLines hl
  rintro rfl
  exact Entries.get?_ne_none ha hnone

/-- The default settings can be written. -/
lemma writable_default : Writable ({} : Config).settings := by
  have hword : ∀ w : String, w.toList ≠ [] → (∀ c ∈ w.toList, isWordChar c) → Spells w w := by
    intro w hne hw
    obtain ⟨c, cs, hcs⟩ := List.exists_cons_of_ne_nil hne
    rw [hcs] at hw
    obtain ⟨hc, hcs'⟩ := List.forall_mem_cons.mp hw
    rw [← @String.ofList_toList w, hcs]
    exact spells_word hc hcs'
  have hnames : ∀ s ∈ ({} : Config).settings, s.1.toList ≠ [] ∧
      s.1.toList.all isWordChar ∧ ∀ e ∈ s.2, e.1.toList ≠ [] ∧ e.1.toList.all isWordChar := by
    decide
  have hall : ∀ s ∈ ({} : Config).settings, ∀ e ∈ s.2, ∀ l, literal? e.2 = some l →
      Toml.literal? (l.text.toList ++ ['\n']) = some (l, ['\n']) := by
    simp only [settings, List.forall_mem_cons, literal?, Option.some.injEq, forall_eq']
    refine ⟨⟨?_, ?_, ?_, ?_, ?_⟩, ⟨?_, ?_⟩, ⟨?_, ?_, ?_, ?_⟩, ⟨?_, ?_⟩, ?_⟩
    all_goals first | rfl | exact List.forall_mem_nil _
  have hend : IsEnd ['\n'] := isEnd_of_skipSpace fun c hc => by
    obtain rfl : '\n' = c := Option.some.inj hc
    decide
  refine ⟨fun s hs => ?_, fun s hs e he => ?_, fun s hs e he l hl => ?_⟩
  · obtain ⟨hne, hw, -⟩ := hnames s hs
    exact hword _ hne (List.all_eq_true.mp hw)
  · obtain ⟨-, -, hkeys⟩ := hnames s hs
    obtain ⟨hne, hw⟩ := hkeys e he
    exact hword _ hne (List.all_eq_true.mp hw)
  · exact isStable_literal?.stable (hall s hs e he l hl) hend

/-! ### The entries of a completed document -/

/-- A section that is completed, as an item. -/
def completedItem (entries : Entries) (s : String × List (String × Setting)) : Item :=
  .table (tableOf entries s.1).1 ((tableOf entries s.1).2 ++ additions (tableOf entries s.1).2 s.2)

/-- An entry of a completed document is one that was there, or a section that is completed, under
the key that it had or a new one. -/
lemma mem_foldl_completeSection (hsections : Wellformed sections) (hnodup : entries.names.Nodup)
    (h : sections.foldl completeSection (entries, count) = (entries', count')) :
    entries'.names.Nodup ∧ ∀ e ∈ entries', e.1.name ∉ sections.map Prod.fst ∧ e ∈ entries ∨
      ∃ s ∈ sections, s.1 = e.1.name ∧ e.2 = completedItem entries s ∧
        ((∃ old, (e.1, old) ∈ entries) ∨ e.1 = Key.ofWord s.1 ∧ s.1 ∉ entries.names) := by
  induction sections generalizing entries count with
  | nil =>
    obtain ⟨rfl, -⟩ := Prod.mk.inj h
    exact ⟨hnodup, fun e he => .inl ⟨nofun, he⟩⟩
  | cons s sections ih =>
    obtain ⟨name, settings⟩ := s
    have hname : name ∉ sections.map Prod.fst := (List.nodup_cons.mp hsections.names).1
    rw [List.foldl_cons, completeSection_eq (hsections.keys _ List.mem_cons_self)] at h
    obtain ⟨hnodup', hentries⟩ := ih hsections.tail (Entries.nodup_set hnodup _ _) h
    refine ⟨hnodup', fun e he => ?_⟩
    rcases hentries e he with ⟨hnot, hmem⟩ | ⟨s, hs, hsame, hitem, hkey⟩
    · rcases Entries.mem_set hnodup hmem with ⟨hne, hmem⟩ | ⟨hsame, hitem, hkey⟩
      · exact .inl ⟨by rw [List.map_cons, List.mem_cons, not_or]; exact ⟨hne, hnot⟩, hmem⟩
      · exact .inr ⟨(name, settings), List.mem_cons_self, hsame.symm, hitem, hkey⟩
    · have hne : s.1 ≠ name := fun heq => hname (heq ▸ List.mem_map_of_mem hs)
      have hget : Entries.get? s.1 (entries.set (Key.ofWord name) (completedItem entries
          (name, settings))) = entries.get? s.1 := by
        rw [Entries.get?_set, if_neg (by exact Ne.symm hne)]
      have htable : completedItem (entries.set (Key.ofWord name) (completedItem entries
          (name, settings))) s = completedItem entries s := by
        rw [completedItem, tableOf, hget, completedItem, tableOf]
      refine .inr ⟨s, List.mem_cons_of_mem _ hs, hsame, hitem.trans htable, ?_⟩
      rcases hkey with ⟨old, hold⟩ | ⟨hkey, hno⟩
      · rcases Entries.mem_set hnodup hold with ⟨-, hold⟩ | ⟨heq, -, -⟩
        · exact .inl ⟨old, hold⟩
        · exact absurd (hsame.trans heq) hne
      · refine .inr ⟨hkey, fun hmem => hno ?_⟩
        rw [Entries.names_set]
        split
        · exact hmem
        · exact List.mem_append_left _ hmem

/-! ### Documents -/

variable {c : Config} {d d' : Document} {added : Nat}

/-- The keys of a document under which a configuration has settings can be those of new headers. -/
def CanHeadAll (c : Config) (d : Document) : Prop :=
  ∀ e ∈ d.entries, e.1.name ∈ c.settings.map Prod.fst → CanHead e.1 e.2

instance (c : Config) (d : Document) : Decidable (CanHeadAll c d) :=
  inferInstanceAs (Decidable (∀ e ∈ d.entries, e.1.name ∈ c.settings.map Prod.fst →
    CanHead e.1 e.2))

section Complete

variable (hd : d.IsRead) (hcan : CanHeadAll c d) (hwritable : Writable c.settings)
  (hcomplete : complete c d = (d', added))

include hd hcan hwritable hcomplete

/-- Every entry of a completed document comes back. -/
lemma returns_of_complete : d'.entries.names.Nodup ∧
    ∀ e ∈ d'.entries, Returns (piecesOf e.1.name d'.pieces) e := by
  rw [complete] at hcomplete
  generalize hfold : c.settings.foldl completeSection (d.entries, 0) = result at hcomplete
  obtain ⟨entries', count'⟩ := result
  obtain ⟨rfl, rfl⟩ := Prod.mk.inj hcomplete
  obtain ⟨hnodup', hentries⟩ :=
    mem_foldl_completeSection (wellformed_settings c) hd.makes.nodup hfold
  refine ⟨hnodup', fun e he => ?_⟩
  rcases hentries e he with ⟨-, hmem⟩ | ⟨s, hs, hname, hitem, hkey⟩
  · exact returns_kept hd hnodup' hmem he
  · have hkeys := (wellformed_settings c).keys s hs
    obtain ⟨key, item⟩ := e
    dsimp only at hname hitem hkey
    rw [completedItem, ← map_entry_addedLines] at hitem
    by_cases htable : ∃ head inner, d.entries.get? s.1 = some (.table head inner)
    · -- the table that is there gets the lines that it lacks
      obtain ⟨head, inner, hget⟩ := htable
      have htableOf : tableOf d.entries s.1 = (head, inner) := by rw [tableOf, hget]
      have hmem : (key, Item.table head inner) ∈ d.entries := by
        rcases hkey with ⟨old, hold⟩ | ⟨-, hno⟩
        · have hfound := Entries.get?_of_mem hd.makes.nodup hold
          dsimp only at hfound
          rw [← hname, hget] at hfound
          obtain rfl := Option.some.inj hfound
          exact hold
        · rw [Entries.get?_eq_none hno] at hget
          cases hget
      have hnodup : (Entries.names inner).Nodup := (hd.makes.items hmem).inside.nodup
      rw [htableOf] at hitem
      subst hitem
      exact returns_added hd hnodup' (hwritable.isAddable hs inner) hmem he
        (nodup_addedLines hkeys hnodup) (hcan _ hmem (hname ▸ List.mem_map_of_mem hs))
    · -- there is no table, so a new one with all lines takes its place
      have htableOf : tableOf d.entries s.1 = ({}, []) := by
        rw [tableOf]
        split
        · exact absurd ⟨_, _, ‹_›⟩ htable
        · rfl
      rw [htableOf] at hitem
      subst hitem
      have hnodup := @nodup_addedLines [] s.2 hkeys Entries.nodup_names_nil
      refine returns_table hnodup' (hwritable.isAddable hs []) he hnodup ?_
      rcases hkey with ⟨old, hold⟩ | ⟨rfl, -⟩
      · refine hd.isTitle hold (hcan _ hold (hname ▸ List.mem_map_of_mem hs))
          fun head inner heq => ?_
        have hfound := Entries.get?_of_mem hd.makes.nodup hold
        rw [← hname] at hfound
        exact htable ⟨head, inner, hfound.trans (congrArg some heq)⟩
      · exact Key.isTitle_ofWord (hwritable.names s hs)

/-- **A completed document is read again.** The text that a completed document is written as is read
as a document with the same values and the same text, which is complete. -/
theorem exists_reread : ∃ e : Document, Document.parse? d'.write = some e ∧ e.write = d'.write ∧
    (∀ name key, e.value? name key = d'.value? name key) ∧ complete c e = (e, 0) := by
  obtain ⟨hnodup', hreturns⟩ := returns_of_complete hd hcan hwritable hcomplete
  obtain ⟨-, -, hafter, -⟩ := complete_spec hcomplete
  have htail : IsTail d'.after := by
    rw [hafter]
    exact hd.after
  obtain ⟨e, hparse, hwrite, hvalues, htables⟩ :=
    Document.exists_reread_of_returns hnodup' hreturns htail
  refine ⟨e, hparse, hwrite, hvalues, ?_⟩
  rw [complete, foldl_completeSection_eq (wellformed_settings c) fun s hs => ?_]
  -- each section is a table in the completed document, and so in the one that is read
  rw [complete] at hcomplete
  generalize hfold : c.settings.foldl completeSection (d.entries, 0) = result at hcomplete
  obtain ⟨entries', count'⟩ := result
  obtain ⟨rfl, rfl⟩ := Prod.mk.inj hcomplete
  obtain ⟨hsections, -, -, -⟩ := foldl_completeSection (wellformed_settings c) hfold
  obtain ⟨head, inner, hget, hall⟩ := hsections s hs
  obtain ⟨head', inner', hget'⟩ := htables s.1 head inner hget
  refine ⟨head', inner', hget', fun setting hsetting => ?_⟩
  have hvalue := hvalues s.1 setting.1
  rw [Document.value?, Document.value?, Entries.value?_of_get?_eq_table hget',
    Entries.value?_of_get?_eq_table hget] at hvalue
  have hsome := congrArg Option.isSome hvalue
  rw [Option.isSome_map, Option.isSome_map] at hsome
  rw [hsome]
  exact hall setting hsetting

end Complete

/-- A header with a comment in front of its key cannot be read. -/
example : (Document.parse? "# c\nserver = \x7b\x7d\n").map (fun d =>
    (decide (CanHeadAll {} d), (Document.parse? (Document.write
      { d with entries := d.entries.set (Key.ofWord "server") (.table {} []) })).isNone)) =
    some (false, true) := by
  cbv

end CrudScaffold.Config
