import CrudScaffold.Config.Completion
import CrudScaffold.Proofs.Toml.Table

/-!
# What completing a document keeps

A section that is completed keeps its entries and gets the missing ones behind them
(`Config.additions`), so the values of its keys are those that it has, and the settings for the
others (`Config.completeSection_spec`). A document is completed section by section. This goes wrong
for one way to write a section alone: a table between braces cannot be added to, so an empty table
takes its place and what it holds is lost.
-/

namespace CrudScaffold.Config

open Toml

variable {entries entries' inner : Entries} {name key : String} {count count' : Nat}
  {settings : List (String × Setting)} {sections : List (String × List (String × Setting))}

/-! ### One table -/

/-- The entries that a table gets: one for each setting that it lacks. -/
def additions (entries : Entries) (settings : List (String × Setting)) : Entries :=
  settings.filterMap fun setting =>
    if (entries.get? setting.1).isSome then none
    else (literal? setting.2).map fun literal => (Key.ofWord setting.1, .value literal none)

/-- An entry that is added for one setting does not change what is added for others. -/
lemma additions_append_singleton {k : Key} {item : Item}
    (h : k.name ∉ settings.map Prod.fst) :
    additions (entries ++ [(k, item)]) settings = additions entries settings := by
  refine List.filterMap_congr fun setting hsetting => ?_
  have hne : k.name ≠ setting.1 := fun he => h (he ▸ List.mem_map_of_mem hsetting)
  rw [Entries.get?_append, Entries.get?, if_neg hne, Entries.get?, Option.or_none]

/-- Settings that differ in their keys are put into a table behind its entries, and counted. -/
lemma foldl_addMissing (hkeys : (settings.map Prod.fst).Nodup) (entries : Entries) (count : Nat) :
    settings.foldl addMissing (entries, count) =
      (entries ++ additions entries settings, count + (additions entries settings).length) := by
  induction settings generalizing entries count with
  | nil =>
    rw [List.foldl_nil, additions, List.filterMap_nil, List.append_nil, List.length_nil,
      Nat.add_zero]
  | cons setting settings ih =>
    obtain ⟨k, v⟩ := setting
    obtain ⟨hk, hkeys⟩ := List.nodup_cons.mp hkeys
    rw [List.foldl_cons]
    -- a setting is added exactly if its key is missing and it can be written
    rcases hget : entries.get? k with _ | item
    · rcases hliteral : literal? v with _ | literal
      · have hadd : addMissing (entries, count) (k, v) = (entries, count) := by
          rw [addMissing, hget, hliteral]
        have hadditions : additions entries ((k, v) :: settings) = additions entries settings := by
          simp [additions, hget, hliteral]
        rw [hadd, hadditions, ih hkeys]
      · have hadd : addMissing (entries, count) (k, v) =
            (entries ++ [(Key.ofWord k, .value literal none)], count + 1) := by
          rw [addMissing, hget, hliteral]
        have hadditions : additions entries ((k, v) :: settings) =
            (Key.ofWord k, .value literal none) :: additions entries settings := by
          simp [additions, hget, hliteral]
        rw [hadd, hadditions, ih hkeys, additions_append_singleton hk, List.append_assoc,
          List.singleton_append, List.length_cons, Nat.add_assoc, Nat.add_comm 1]
    · have hadd : addMissing (entries, count) (k, v) = (entries, count) := by
        rw [addMissing, hget]
      have hadditions : additions entries ((k, v) :: settings) = additions entries settings := by
        simp [additions, hget]
      rw [hadd, hadditions, ih hkeys]

/-- The value that a setting is written with, if it can be written. -/
def written? (v : Setting) : Option Value := (literal? v).map Literal.value

/-- What is added to a table is found under the keys that it lacks. -/
lemma get?_additions (hkeys : (settings.map Prod.fst).Nodup) (entries : Entries) (key : String) :
    (additions entries settings).get? key =
      if (entries.get? key).isSome then none
      else ((settings.lookup key).bind literal?).map fun literal => .value literal none := by
  induction settings with
  | nil => rw [additions, List.filterMap_nil, Entries.get?, List.lookup_nil, Option.bind_none,
      Option.map_none, ite_self]
  | cons setting settings ih =>
    obtain ⟨k, v⟩ := setting
    obtain ⟨hk, hkeys⟩ := List.nodup_cons.mp hkeys
    have ih := ih hkeys
    rw [additions] at ih
    rw [additions, List.filterMap_cons, lookup_cons_ite]
    by_cases hkey : key = k
    · -- the entry of this setting is the first one of its key, and there is no other
      subst hkey
      rw [lookup_eq_none_of_notMem hk] at ih
      rw [if_pos rfl]
      cases hget : entries.get? key <;> cases hliteral : literal? v <;>
        simp_all [Entries.get?, Key.ofWord]
    · have hne : k ≠ key := Ne.symm hkey
      rw [if_neg hkey, ← ih]
      cases entries.get? k <;> cases literal? v <;> simp [Entries.get?, Key.ofWord, hne]

/-- As many entries are added as keys are missing. -/
lemma length_additions (hliterals : ∀ e ∈ settings, (literal? e.2).isSome) (entries : Entries) :
    (additions entries settings).length =
      (settings.filter fun e => (entries.get? e.1).isNone).length := by
  induction settings with
  | nil => rfl
  | cons setting settings ih =>
    obtain ⟨literal, hliteral⟩ := Option.isSome_iff_exists.mp (hliterals _ List.mem_cons_self)
    have ih := ih fun e he => hliterals e (List.mem_cons_of_mem _ he)
    rw [additions] at ih ⊢
    cases hget : entries.get? setting.1 with
    | none => simp [hget, hliteral, ih]
    | some item => simp [hget, ih]

/-! ### One section -/

/-- The table of a section that is completed. -/
def tableOf (entries : Entries) (name : String) : Head × Entries :=
  match entries.get? name with
  | some (.table head inner) => (head, inner)
  | _ => ({}, [])

/-- The value of a key in the table of a section that is completed. -/
def tableValue? (entries : Entries) (name key : String) : Option Value :=
  ((tableOf entries name).2.get? key).map Item.toValue

/-- What is found under a name decides what its table has. -/
lemma tableValue?_congr (h : entries'.get? name = entries.get? name) (key : String) :
    tableValue? entries' name key = tableValue? entries name key := by
  rw [tableValue?, tableValue?, tableOf, tableOf, h]

/-- The table of a section has the values of its keys, unless the section is a table between braces
with something in it. -/
lemma tableValue?_eq (hclosed : entries.isClosed name = false) (key : String) :
    tableValue? entries name key = entries.value? name key := by
  by_cases htable : ∃ head inner, entries.get? name = some (.table head inner)
  · obtain ⟨head, inner, hget⟩ := htable
    rw [Entries.value?_of_get?_eq_table hget, tableValue?, tableOf, hget]
  · have hnone : tableOf entries name = ({}, []) := by
      rw [tableOf]
      split
      · exact absurd ⟨_, _, ‹_›⟩ htable
      · rfl
    rw [Entries.value?_eq_none hclosed (fun head inner h => htable ⟨head, inner, h⟩), tableValue?,
      hnone]
    rfl

/-- What is between braces is not in the table of its section. -/
lemma tableValue?_eq_none (hclosed : entries.isClosed name) (key : String) :
    tableValue? entries name key = none := by
  rw [Entries.isClosed] at hclosed
  rw [tableValue?, tableOf]
  split at hclosed
  · rename_i hget
    rw [hget]
    rfl
  · cases hclosed

/-- A section is completed by adding to its table. -/
lemma completeSection_eq (hkeys : (settings.map Prod.fst).Nodup) (entries : Entries) (count : Nat)
    (name : String) :
    completeSection (entries, count) (name, settings) =
      (entries.set (Key.ofWord name) (.table (tableOf entries name).1
        ((tableOf entries name).2 ++ additions (tableOf entries name).2 settings)),
        count + (additions (tableOf entries name).2 settings).length) := by
  rw [completeSection]
  simp only [foldl_addMissing hkeys]
  rfl

/-- A section is a table that has all keys of some settings. -/
def IsComplete (entries : Entries) (s : String × List (String × Setting)) : Prop :=
  ∃ head inner, entries.get? s.1 = some (.table head inner) ∧
    ∀ e ∈ s.2, (Entries.get? e.1 inner).isSome

/-- Completing a section that is complete changes nothing. -/
lemma IsComplete.completeSection_eq (hkeys : (settings.map Prod.fst).Nodup)
    (h : IsComplete entries (name, settings)) (count : Nat) :
    completeSection (entries, count) (name, settings) = (entries, count) := by
  obtain ⟨head, inner, hget, hall⟩ := h
  have hadditions : additions inner settings = [] :=
    List.filterMap_eq_nil_iff.mpr fun e he => if_pos (hall e he)
  have htable : tableOf entries name = (head, inner) := by rw [tableOf, hget]
  have hset : entries.set (Key.ofWord name) (.table head inner) = entries :=
    Entries.set_eq_self hget
  rw [Config.completeSection_eq hkeys, htable, hadditions, List.append_nil, hset]
  rfl

/-- **Completing a section.** The section becomes a table with all keys of the settings; a key has
the value that it had in the table or else the one of its setting, the settings whose keys were not
in the table are counted, and nothing else changes. -/
lemma completeSection_spec (hkeys : (settings.map Prod.fst).Nodup)
    (hliterals : ∀ e ∈ settings, (literal? e.2).isSome)
    (h : completeSection (entries, count) (name, settings) = (entries', count')) :
    IsComplete entries' (name, settings) ∧
      (∀ n, n ≠ name → entries'.get? n = entries.get? n) ∧
      (∀ key, entries'.value? name key =
        (tableValue? entries name key).or ((settings.lookup key).bind written?)) ∧
      count' = count + (settings.filter fun e => (tableValue? entries name e.1).isNone).length := by
  rw [completeSection_eq hkeys] at h
  obtain ⟨rfl, rfl⟩ := Prod.mk.inj h
  generalize htable : tableOf entries name = table
  obtain ⟨head, inner⟩ := table
  have hvalue : ∀ key,
      tableValue? entries name key = (Entries.get? key inner).map Item.toValue := by
    intro key
    rw [tableValue?, htable]
  have hget : Entries.get? name (entries.set (Key.ofWord name)
      (.table head (inner ++ additions inner settings))) =
        some (.table head (inner ++ additions inner settings)) := by
    rw [Entries.get?_set, Key.ofWord, if_pos rfl]
  refine ⟨⟨head, _, hget, fun e he => ?_⟩, fun n hn => ?_, fun key => ?_, ?_⟩
  · obtain ⟨literal, hliteral⟩ := Option.isSome_iff_exists.mp (hliterals e he)
    have hlookup : settings.lookup e.1 = some e.2 := lookup_eq_some_of_mem hkeys he
    rw [Entries.get?_append, get?_additions hkeys, hlookup, Option.bind_some, hliteral]
    cases Entries.get? e.1 inner <;> rfl
  · rw [Entries.get?_set, Key.ofWord, if_neg (Ne.symm hn)]
  · rw [Entries.value?_of_get?_eq_table hget, Entries.get?_append, get?_additions hkeys, hvalue]
    cases Entries.get? key inner with
    | some item => rfl
    | none =>
      rw [Option.isSome_none, if_neg Bool.false_ne_true, Option.none_or, Option.map_map,
        Option.map_bind]
      rfl
  · rw [length_additions hliterals]
    simp only [hvalue, Option.isNone_map]

/-! ### All sections -/

/-- What is expected of sections that a document is completed with: each has its own name, each of
its settings has its own key, and all settings can be written. -/
structure Wellformed (sections : List (String × List (String × Setting))) : Prop where
  names : (sections.map Prod.fst).Nodup
  keys : ∀ s ∈ sections, (s.2.map Prod.fst).Nodup
  literals : ∀ s ∈ sections, ∀ e ∈ s.2, (literal? e.2).isSome

/-- The sections of a configuration are like this. -/
lemma wellformed_settings (c : Config) : Wellformed c.settings := by
  refine ⟨by simp [settings], ?_, ?_⟩
  · simp [settings, -Prod.forall]
  · simp [settings, literal?, -Prod.forall]

/-- Fewer sections will do. -/
lemma Wellformed.tail {s : String × List (String × Setting)} (h : Wellformed (s :: sections)) :
    Wellformed sections :=
  ⟨(List.nodup_cons.mp h.names).2, fun s hs => h.keys s (List.mem_cons_of_mem _ hs),
    fun s hs => h.literals s (List.mem_cons_of_mem _ hs)⟩

/-- The keys of sections, each with the name of its section. -/
def keysOf (sections : List (String × List (String × Setting))) : List (String × String) :=
  sections.flatMap fun s => s.2.map fun e => (s.1, e.1)

/-- The value of a key in the sections that a document is completed with. -/
def default? (sections : List (String × List (String × Setting))) (name key : String) :
    Option Value :=
  ((sections.lookup name).bind (List.lookup key)).bind written?

/-- A key with a value is one of the keys. -/
lemma mem_keysOf_of_default? {v : Value} (h : default? sections name key = some v) :
    (name, key) ∈ keysOf sections := by
  obtain ⟨setting, hsetting, -⟩ := Option.bind_eq_some_iff.mp h
  obtain ⟨settings, hsettings, hsetting⟩ := Option.bind_eq_some_iff.mp hsetting
  obtain ⟨before, after, hsections, -⟩ := List.lookup_eq_some_iff.mp hsettings
  obtain ⟨before', after', hsettings', -⟩ := List.lookup_eq_some_iff.mp hsetting
  refine List.mem_flatMap.mpr ⟨(name, settings), ?_, List.mem_map.mpr ⟨(key, setting), ?_, rfl⟩⟩
  · rw [hsections]
    exact List.mem_append_right before List.mem_cons_self
  · rw [hsettings']
    exact List.mem_append_right before' List.mem_cons_self

/-- **Completing sections.** Every section becomes complete, every key of a section has the value
that it had in the table of the section or else the one of its setting, the keys that were in no
table are counted, and nothing else changes. -/
lemma foldl_completeSection (hsections : Wellformed sections)
    (h : sections.foldl completeSection (entries, count) = (entries', count')) :
    (∀ s ∈ sections, IsComplete entries' s) ∧
      (∀ n, n ∉ sections.map Prod.fst → entries'.get? n = entries.get? n) ∧
      (∀ n ∈ sections.map Prod.fst, ∀ key, entries'.value? n key =
        (tableValue? entries n key).or (default? sections n key)) ∧
      count' = count +
        ((keysOf sections).filter fun k => (tableValue? entries k.1 k.2).isNone).length := by
  induction sections generalizing entries count with
  | nil =>
    obtain ⟨rfl, rfl⟩ := Prod.mk.inj h
    exact ⟨nofun, fun _ _ => rfl, nofun, rfl⟩
  | cons s sections ih =>
    obtain ⟨name, settings⟩ := s
    have hname : name ∉ sections.map Prod.fst := (List.nodup_cons.mp hsections.names).1
    rw [List.foldl_cons] at h
    generalize hfirst : completeSection (entries, count) (name, settings) = first at h
    obtain ⟨entries₁, count₁⟩ := first
    obtain ⟨hcomplete, hothers, hvalues, hcount⟩ := completeSection_spec
      (hsections.keys _ List.mem_cons_self) (hsections.literals _ List.mem_cons_self) hfirst
    obtain ⟨hcompletes, hothers', hvalues', hcount'⟩ := ih hsections.tail h
    -- the sections behind the first one have other names, so they are found as before
    have hkept : ∀ n ∈ sections.map Prod.fst, ∀ key,
        tableValue? entries₁ n key = tableValue? entries n key :=
      fun n hn => tableValue?_congr (hothers n fun he => hname (he ▸ hn))
    refine ⟨fun s hs => ?_, fun n hn => ?_, fun n hn key => ?_, ?_⟩
    · rcases List.mem_cons.mp hs with rfl | hs
      · obtain ⟨head, inner, hget, hall⟩ := hcomplete
        exact ⟨head, inner, (hothers' name hname).trans hget, hall⟩
      · exact hcompletes s hs
    · obtain ⟨hn, hn'⟩ := not_or.mp (List.mem_cons.not.mp hn)
      rw [hothers' n hn', hothers n hn]
    · rw [default?, lookup_cons_ite]
      rcases List.mem_cons.mp hn with hn | hn
      · rw [if_pos hn, Option.bind_some, hn, Entries.value?_congr (hothers' name hname), hvalues]
      · rw [if_neg (fun he : n = name => hname (he ▸ hn)), hvalues' n hn, hkept n hn, default?]
    · have hsame : (keysOf sections).filter (fun k => (tableValue? entries₁ k.1 k.2).isNone) =
          (keysOf sections).filter fun k => (tableValue? entries k.1 k.2).isNone := by
        refine List.filter_congr fun k hk => ?_
        obtain ⟨s, hs, hk⟩ := List.mem_flatMap.mp hk
        obtain ⟨e, -, rfl⟩ := List.mem_map.mp hk
        rw [hkept s.1 (List.mem_map_of_mem hs)]
      rw [hcount', hcount, hsame, keysOf, keysOf, List.flatMap_cons, List.filter_append,
        List.length_append, List.filter_map, List.length_map, Nat.add_assoc]
      rfl

/-- Completing sections that are complete changes nothing. -/
lemma foldl_completeSection_eq (hsections : Wellformed sections)
    (h : ∀ s ∈ sections, IsComplete entries s) (count : Nat) :
    sections.foldl completeSection (entries, count) = (entries, count) := by
  induction sections with
  | nil => rfl
  | cons s sections ih =>
    have hfirst := (h s List.mem_cons_self).completeSection_eq
      (hsections.keys s List.mem_cons_self) count
    rw [List.foldl_cons, hfirst]
    exact ih hsections.tail fun s hs => h s (List.mem_cons_of_mem _ hs)

/-! ### Documents -/

variable {c : Config} {d d' : Document} {added : Nat}

/-- The keys of a configuration that a document has no value for. -/
def missing (c : Config) (d : Document) : List (String × String) :=
  (keysOf c.settings).filter fun k => (d.value? k.1 k.2).isNone

/-- No section of a configuration is a table between braces with something in it. -/
def SectionsOpen (c : Config) (d : Document) : Prop :=
  ∀ s ∈ c.settings, d.entries.isClosed s.1 = false

/-- A completed document has a value for every key and whatever else it had, and is not changed by
being completed again. -/
lemma complete_spec (h : complete c d = (d', added)) :
    (∀ k ∈ keysOf c.settings, (d'.value? k.1 k.2).isSome) ∧
      (∀ name, name ∉ c.settings.map Prod.fst → d'.entries.get? name = d.entries.get? name) ∧
      d'.after = d.after ∧ complete c d' = (d', 0) := by
  rw [complete] at h
  generalize hfold : c.settings.foldl completeSection (d.entries, 0) = result at h
  obtain ⟨entries', count'⟩ := result
  obtain ⟨rfl, rfl⟩ := Prod.mk.inj h
  obtain ⟨hcomplete, hothers, -, -⟩ := foldl_completeSection (wellformed_settings c) hfold
  refine ⟨fun k hk => ?_, hothers, rfl, ?_⟩
  · obtain ⟨s, hs, hk⟩ := List.mem_flatMap.mp hk
    obtain ⟨e, he, rfl⟩ := List.mem_map.mp hk
    obtain ⟨head, inner, hget, hall⟩ := hcomplete s hs
    rw [Document.value?, Entries.value?_of_get?_eq_table hget, Option.isSome_map]
    exact hall e he
  · rw [complete, foldl_completeSection_eq (wellformed_settings c) hcomplete]

/-- **Completing a document.** All keys keep their values, and the number of those that were missing
is told, exactly if no section is a table between braces with something in it. -/
lemma complete_keeps_iff (h : complete c d = (d', added)) :
    ((∀ name key v, d.value? name key = some v → d'.value? name key = some v) ∧
      added = (missing c d).length) ↔ SectionsOpen c d := by
  rw [complete] at h
  generalize hfold : c.settings.foldl completeSection (d.entries, 0) = result at h
  obtain ⟨entries', count'⟩ := result
  obtain ⟨rfl, rfl⟩ := Prod.mk.inj h
  obtain ⟨-, hothers, hvalues, hcount⟩ := foldl_completeSection (wellformed_settings c) hfold
  rw [Nat.zero_add] at hcount
  constructor
  · rintro ⟨hkept, hadded⟩ s hs
    rw [← Bool.not_eq_true]
    intro hclosed
    obtain ⟨key, v, hv⟩ := Entries.exists_value?_of_isClosed hclosed
    -- the key is one of those that are counted, and it is counted though it has a value
    have hdefault : default? c.settings s.1 key = some v := by
      have hnow := hkept s.1 key v hv
      rwa [Document.value?, hvalues s.1 (List.mem_map_of_mem hs), tableValue?_eq_none hclosed,
        Option.none_or] at hnow
    have hsub : (missing c d).Sublist
        ((keysOf c.settings).filter fun k => (tableValue? d.entries k.1 k.2).isNone) := by
      refine List.monotone_filter_right _ fun k hk => ?_
      by_cases hk' : d.entries.isClosed k.1
      · rw [tableValue?_eq_none hk']
        rfl
      · rwa [tableValue?_eq (Bool.eq_false_iff.mpr hk')]
    have hsame := hsub.eq_of_length (hadded.symm.trans hcount)
    have hmem : (s.1, key) ∈ missing c d := by
      rw [hsame, List.mem_filter, tableValue?_eq_none hclosed]
      exact ⟨mem_keysOf_of_default? hdefault, rfl⟩
    have hnone := (List.mem_filter.mp hmem).2
    rw [Document.value?, hv] at hnone
    cases hnone
  · intro hopen
    refine ⟨fun name key v hv => ?_, ?_⟩
    · by_cases hname : name ∈ c.settings.map Prod.fst
      · obtain ⟨s, hs, rfl⟩ := List.mem_map.mp hname
        rw [Document.value?, hvalues s.1 hname, tableValue?_eq (hopen s hs)]
        rw [Document.value?] at hv
        rw [hv, Option.some_or]
      · rwa [Document.value?, Entries.value?_congr (hothers name hname)]
    · rw [hcount, missing]
      refine congrArg List.length (List.filter_congr fun k hk => ?_)
      obtain ⟨s, hs, hk⟩ := List.mem_flatMap.mp hk
      obtain ⟨e, -, rfl⟩ := List.mem_map.mp hk
      rw [tableValue?_eq (hopen s hs), Document.value?]

end CrudScaffold.Config
