import Mathlib.Data.Option.Basic
import CrudScaffold.Proofs.Toml.Table

/-!
# Documents do not repeat keys

A document that has been read gives every key once, in its own table and in all tables inside it,
however they are written: under headers, along paths, or between braces (`distinct_values`). Entries
get into a table by `Entries.alter?` alone, which keeps the keys apart, and everything else that
reading does is alterations inside alterations.
-/

namespace CrudScaffold.Toml

/-- No table in a value gives a key twice. -/
inductive Value.Distinct : Value → Prop
  | text (s : String) : Distinct (.text s)
  | integer (n : Int) : Distinct (.integer n)
  | float (written : String) : Distinct (.float written)
  | boolean (b : Bool) : Distinct (.boolean b)
  | moment (written : String) : Distinct (.moment written)
  | list {items : List Value} (hitems : ∀ v ∈ items, v.Distinct) : Distinct (.list items)
  | table {entries : List (String × Value)} (hkeys : (entries.map Prod.fst).Nodup)
      (hentries : ∀ e ∈ entries, e.2.Distinct) : Distinct (.table entries)

/-- No table in an item gives a key twice. -/
inductive Item.Distinct : Item → Prop
  | value {literal : Literal} {around : Option Around} (h : literal.value.Distinct) :
      Distinct (.value literal around)
  | table {head : Head} {entries : Entries} (hkeys : (entries.map (·.1.name)).Nodup)
      (hentries : ∀ e ∈ entries, e.2.Distinct) : Distinct (.table head entries)
  | tables {members : List (Head × Entries)}
      (hkeys : ∀ m ∈ members, (m.2.map (·.1.name)).Nodup)
      (hentries : ∀ m ∈ members, ∀ e ∈ m.2, e.2.Distinct) : Distinct (.tables members)

namespace Entries

/-- Entries that give every key once, and so do all tables in them. -/
def Distinct (entries : Entries) : Prop :=
  (entries.map (·.1.name)).Nodup ∧ ∀ e ∈ entries, e.2.Distinct

@[simp] lemma distinct_nil : Distinct [] := ⟨List.nodup_nil, nofun⟩

/-- The values of entries one by one. -/
lemma toValues_eq_map (entries : Entries) :
    toValues entries = entries.map fun e => (e.1.name, e.2.toValue) := by
  induction entries with
  | nil => rfl
  | cons e entries ih =>
    obtain ⟨key, item⟩ := e
    rw [toValues, ih, List.map_cons]

end Entries

/-- The values of the members of a list of tables one by one. -/
lemma memberValues_eq_map (members : List (Head × Entries)) :
    memberValues members = members.map fun m => .table (Entries.toValues m.2) := by
  induction members with
  | nil => rfl
  | cons m members ih =>
    obtain ⟨head, entries⟩ := m
    rw [memberValues, ih, List.map_cons]

/-- A table of entries whose items have values without repeated keys. -/
lemma Value.distinct_toValues {entries : Entries} (hkeys : (entries.map (·.1.name)).Nodup)
    (hentries : ∀ e ∈ entries, e.2.toValue.Distinct) :
    (Value.table (Entries.toValues entries)).Distinct := by
  rw [Entries.toValues_eq_map]
  refine .table ?_ ?_
  · rw [List.map_map]
    exact hkeys
  · intro v hv
    obtain ⟨e, he, rfl⟩ := List.mem_map.mp hv
    exact hentries e he

/-- The value of an item repeats no keys if the item does not. -/
lemma Item.Distinct.toValue {item : Item} (h : item.Distinct) : item.toValue.Distinct := by
  induction h with
  | value h =>
    rw [Item.toValue]
    exact h
  | table hkeys _ ih =>
    rw [Item.toValue]
    exact Value.distinct_toValues hkeys ih
  | tables hkeys _ ih =>
    rw [Item.toValue, memberValues_eq_map]
    refine .list fun v hv => ?_
    obtain ⟨m, hm, rfl⟩ := List.mem_map.mp hv
    exact Value.distinct_toValues (hkeys m hm) (ih m hm)

namespace Entries

variable {entries entries' : Entries}

/-- The values of entries repeat no keys if the entries do not. -/
lemma Distinct.toValues (h : Distinct entries) : (Value.table (toValues entries)).Distinct :=
  Value.distinct_toValues h.1 fun e he => (h.2 e he).toValue

/-! ### Alterations -/

/-- Altering the item of a key leaves the keys as they are, or adds the key at the end. -/
lemma names_alter? {key : Key} {f : Option Item → Option Item}
    (h : entries.alter? key f = some entries') :
    entries'.map (·.1.name) = entries.map (·.1.name) ∨
      key.name ∉ entries.map (·.1.name) ∧
        entries'.map (·.1.name) = entries.map (·.1.name) ++ [key.name] := by
  induction entries generalizing entries' with
  | nil =>
    obtain ⟨item, -, hitem⟩ := Option.bind_eq_some_iff.mp h
    cases hitem
    exact .inr ⟨nofun, rfl⟩
  | cons e entries ih =>
    obtain ⟨known, item⟩ := e
    rw [alter?] at h
    split_ifs at h with hknown
    · obtain ⟨new, -, hnew⟩ := Option.bind_eq_some_iff.mp h
      cases hnew
      exact .inl rfl
    · obtain ⟨rest, hrest, hnew⟩ := Option.bind_eq_some_iff.mp h
      cases hnew
      rcases ih hrest with hsame | ⟨hnot, hadded⟩
      · exact .inl (congrArg (known.name :: ·) hsame)
      · refine .inr ⟨?_, congrArg (known.name :: ·) hadded⟩
        rw [List.map_cons, List.mem_cons, not_or]
        exact ⟨Ne.symm hknown, hnot⟩

/-- An item of altered entries was there before, or is what an item that was there, or nothing, has
been altered to. -/
lemma mem_alter? {key : Key} {f : Option Item → Option Item}
    (h : entries.alter? key f = some entries') {e : Key × Item} (he : e ∈ entries') :
    e ∈ entries ∨ f none = some e.2 ∨ ∃ e₀ ∈ entries, f (some e₀.2) = some e.2 := by
  induction entries generalizing entries' with
  | nil =>
    obtain ⟨item, hf, hitem⟩ := Option.bind_eq_some_iff.mp h
    cases hitem
    rw [List.mem_singleton.mp he]
    exact .inr (.inl hf)
  | cons e₁ entries ih =>
    obtain ⟨known, item⟩ := e₁
    rw [alter?] at h
    split_ifs at h with hknown
    · obtain ⟨new, hf, hnew⟩ := Option.bind_eq_some_iff.mp h
      cases hnew
      rcases List.mem_cons.mp he with rfl | he
      · exact .inr (.inr ⟨_, List.mem_cons_self, hf⟩)
      · exact .inl (List.mem_cons_of_mem _ he)
    · obtain ⟨rest, hrest, hnew⟩ := Option.bind_eq_some_iff.mp h
      cases hnew
      rcases List.mem_cons.mp he with rfl | he
      · exact .inl List.mem_cons_self
      · rcases ih hrest he with he | hf | ⟨e₀, he₀, hf⟩
        · exact .inl (List.mem_cons_of_mem _ he)
        · exact .inr (.inl hf)
        · exact .inr (.inr ⟨e₀, List.mem_cons_of_mem _ he₀, hf⟩)

/-- An alteration that keeps items free of repeated keys keeps entries so. -/
lemma Distinct.alter? (h : Distinct entries) {key : Key} {f : Option Item → Option Item}
    (hnew : ∀ item, f none = some item → item.Distinct)
    (hold : ∀ old item, old.Distinct → f (some old) = some item → item.Distinct)
    (halter : entries.alter? key f = some entries') : Distinct entries' := by
  constructor
  · rcases names_alter? halter with hsame | ⟨hnot, hadded⟩
    · rw [hsame]
      exact h.1
    · rw [hadded]
      exact List.nodup_append.mpr ⟨h.1, List.nodup_singleton _, fun a ha b hb => by
        rw [List.mem_singleton.mp hb]
        rintro rfl
        exact hnot ha⟩
  · intro e he
    rcases mem_alter? halter he with he | hf | ⟨e₀, he₀, hf⟩
    · exact h.2 e he
    · exact hnew _ hf
    · exact hold _ _ (h.2 e₀ he₀) hf

/-- A new entry keeps the keys apart. -/
lemma Distinct.add? (h : Distinct entries) {key : Key} {item : Item} (hitem : item.Distinct)
    (hadd : entries.add? key item = some entries') : Distinct entries' := by
  refine h.alter? (fun new hnew => ?_) (fun old new _ hnew => ?_) hadd
  · cases hnew
    exact hitem
  · cases hnew

/-- Changing the table that a path leads to keeps the keys apart if the change does. -/
lemma Distinct.within? {dotted : Bool} {f : Head → Entries → Option Entries}
    (hf : ∀ head inner inner', Distinct inner → f head inner = some inner' → Distinct inner')
    {path : List Key} {head : Head} (h : Distinct entries)
    (hwithin : Entries.within? dotted path f head entries = some entries') :
    Distinct entries' := by
  induction path generalizing head entries entries' with
  | nil => exact hf head entries entries' h hwithin
  | cons key path ih =>
    refine h.alter? (fun item hitem => ?_) (fun old item hold hitem => ?_) hwithin
    · obtain ⟨inner, hinner, hitem⟩ := Option.bind_eq_some_iff.mp hitem
      cases hitem
      obtain ⟨hkeys, hentries⟩ := ih distinct_nil hinner
      exact .table hkeys hentries
    · cases hold with
      | value => cases hitem
      | @table head inner hkeys hentries =>
        dsimp only at hitem
        split_ifs at hitem
        obtain ⟨inner', hinner, hitem⟩ := Option.bind_eq_some_iff.mp hitem
        cases hitem
        obtain ⟨hkeys, hentries⟩ := ih ⟨hkeys, hentries⟩ hinner
        exact .table hkeys hentries
      | @tables members hkeys hentries =>
        obtain ⟨⟨head, inner⟩, hlast, hitem⟩ := Option.bind_eq_some_iff.mp hitem
        obtain ⟨inner', hinner, hitem⟩ := Option.bind_eq_some_iff.mp hitem
        cases hitem
        have hmem := List.mem_of_getLast? hlast
        have hinner' := ih ⟨hkeys _ hmem, hentries _ hmem⟩ hinner
        have hmembers : ∀ m ∈ members.dropLast ++ [(head, inner')], Distinct m.2 := by
          intro m hm
          rcases List.mem_append.mp hm with hm | hm
          · have hm := (List.dropLast_sublist members).subset hm
            exact ⟨hkeys m hm, hentries m hm⟩
          · rw [List.mem_singleton.mp hm]
            exact hinner'
        exact .tables (fun m hm => (hmembers m hm).1) fun m hm => (hmembers m hm).2

/-- A value under a path of keys keeps the keys apart. -/
lemma Distinct.put? (h : Distinct entries) {path : Path} {item : Item} (hitem : item.Distinct)
    (hput : entries.put? path item = some entries') : Distinct entries' := by
  refine h.within? (fun head inner inner' hinner hadd => ?_) hput
  split_ifs at hadd
  exact hinner.add? hitem hadd

/-- Values under paths of keys keep the keys apart. -/
lemma Distinct.putAll? (h : Distinct entries) {body : List (Path × Item)}
    (hbody : ∀ e ∈ body, e.2.Distinct)
    (hput : body.foldlM (fun entries (path, item) => entries.put? path item) entries =
      some entries') : Distinct entries' := by
  induction body generalizing entries with
  | nil =>
    cases hput
    exact h
  | cons e body ih =>
    obtain ⟨next, hnext, hput⟩ := Option.bind_eq_some_iff.mp hput
    exact ih (h.put? (hbody e List.mem_cons_self) hnext)
      (fun e he => hbody e (List.mem_cons_of_mem _ he)) hput

/-- An entry less keeps the keys apart. -/
lemma Distinct.erase (h : Distinct entries) (name : String) : Distinct (entries.erase name) := by
  have hsub : List.Sublist (Entries.erase name entries) entries := by
    clear h
    induction entries with
    | nil => exact .slnil
    | cons e entries ih =>
      obtain ⟨key, item⟩ := e
      rw [Entries.erase]
      split_ifs
      · exact .cons _ (List.Sublist.refl _)
      · exact ih.cons_cons _
  exact ⟨h.1.sublist (hsub.map _), fun e he => h.2 e (hsub.subset he)⟩

/-- What is found in entries that repeat no keys repeats none. -/
lemma Distinct.get? (h : Distinct entries) {name : String} {item : Item}
    (hget : entries.get? name = some item) : item.Distinct := by
  obtain ⟨hkeys, hentries⟩ := h
  clear hkeys
  induction entries with
  | nil => cases hget
  | cons e entries ih =>
    obtain ⟨key, found⟩ := e
    rw [Entries.get?] at hget
    split_ifs at hget
    · cases hget
      exact hentries _ List.mem_cons_self
    · exact ih hget fun e he => hentries e (List.mem_cons_of_mem _ he)

/-- A section beside other entries keeps the keys apart. -/
lemma Distinct.addBeside? (h : Distinct entries) {s : Section} (hs : ∀ e ∈ s.body, e.2.Distinct)
    (hadd : entries.addBeside? s = some entries') : Distinct entries' := by
  unfold Entries.addBeside? at hadd
  split_ifs at hadd
  · obtain ⟨body, hbody, halter⟩ := Option.bind_eq_some_iff.mp hadd
    have hbody : Distinct body := distinct_nil.putAll? hs hbody
    refine h.alter? (fun item hitem => ?_) (fun old item hold hitem => ?_) halter
    · cases hitem
      exact .tables (by simpa using hbody.1) (by simpa using hbody.2)
    · cases hold with
      | value => cases hitem
      | table => cases hitem
      | @tables members hkeys hentries =>
        cases hitem
        refine .tables (fun m hm => ?_) fun m hm => ?_
        · rcases List.mem_append.mp hm with hm | hm
          · exact hkeys m hm
          · rw [List.mem_singleton.mp hm]
            exact hbody.1
        · rcases List.mem_append.mp hm with hm | hm
          · exact hentries m hm
          · rw [List.mem_singleton.mp hm]
            exact hbody.2
  · split at hadd
    · obtain ⟨body, hbody, hadd⟩ := Option.bind_eq_some_iff.mp hadd
      obtain ⟨hkeys, hentries⟩ := distinct_nil.putAll? hs hbody
      exact h.add? (.table hkeys hentries) hadd
    · rename_i head known hget
      split_ifs at hadd
      obtain ⟨body, hbody, hadd⟩ := Option.bind_eq_some_iff.mp hadd
      cases h.get? hget with
      | table hkeys hentries =>
        obtain ⟨hkeys, hentries⟩ := Distinct.putAll? ⟨hkeys, hentries⟩ hs hbody
        exact (h.erase _).add? (.table hkeys hentries) hadd
    · cases hadd

/-- A section where its header says keeps the keys apart. -/
lemma Distinct.addSection? (h : Distinct entries) {s : Section} (hs : ∀ e ∈ s.body, e.2.Distinct)
    (hadd : entries.addSection? s = some entries') : Distinct entries' :=
  h.within? (fun _ _ _ hinner hadd => hinner.addBeside? hs hadd) hadd

/-- Sections where their headers say keep the keys apart. -/
lemma Distinct.addSections? (h : Distinct entries) {more : List Section}
    (hmore : ∀ s ∈ more, ∀ e ∈ s.body, e.2.Distinct)
    (hadd : more.foldlM Entries.addSection? entries = some entries') : Distinct entries' := by
  induction more generalizing entries with
  | nil =>
    cases hadd
    exact h
  | cons s more ih =>
    obtain ⟨hs, hmore⟩ := List.forall_mem_cons.mp hmore
    obtain ⟨next, hnext, hadd⟩ := Option.bind_eq_some_iff.mp hadd
    exact ih (h.addSection? hs hnext) hmore hadd

end Entries

/-! ### Values -/

/-- A word is a number. -/
lemma distinct_word? {n : Int} {v : Value} (h : word? n = some v) : v.Distinct := by
  unfold word? at h
  split_ifs at h
  cases h
  exact .integer n

/-- Whole numbers have no keys. -/
lemma distinct_integer? {cs rest : List Char} {v : Value} (h : integer? cs = some (v, rest)) :
    v.Distinct := by
  unfold integer? at h
  split at h
  all_goals
    obtain ⟨_, -, h⟩ := Option.bind_eq_some_iff.mp h
    obtain ⟨_, hword, h⟩ := Option.bind_eq_some_iff.mp h
    cases h
    exact distinct_word? hword

/-- Numbers that are not whole have no keys. -/
lemma distinct_float? {cs rest : List Char} {v : Value} (h : float? cs = some (v, rest)) :
    v.Distinct := by
  unfold float? at h
  rcases (Option.orElse_eq_some _ _ _).mp h with h | ⟨-, h⟩
  · obtain ⟨⟨whole, rest'⟩, -, h⟩ := Option.bind_eq_some_iff.mp h
    dsimp only at h
    split at h
    · split at h
      all_goals
        obtain ⟨_, -, h⟩ := Option.bind_eq_some_iff.mp h
        split_ifs at h
        cases h
        exact .float _
    · obtain ⟨_, -, h⟩ := Option.bind_eq_some_iff.mp h
      split_ifs at h
      cases h
      exact .float _
  · unfold specialFloat? at h
    split at h
    · cases h
      exact .float _
    · cases h
      exact .float _
    · cases h

/-- Plain values have no keys. -/
lemma distinct_plain? {cs rest : List Char} {v : Value} (h : plain? cs = some (v, rest)) :
    v.Distinct := by
  unfold plain? at h
  split at h
  · obtain ⟨_, -, h⟩ := Option.map_eq_some_iff.mp h
    cases h
    exact .text _
  · obtain ⟨_, -, h⟩ := Option.map_eq_some_iff.mp h
    cases h
    exact .text _
  · cases h
    exact .boolean true
  · cases h
    exact .boolean false
  · rcases (Option.orElse_eq_some _ _ _).mp h with h | ⟨-, h⟩
    · obtain ⟨_, -, h⟩ := Option.bind_eq_some_iff.mp h
      cases h
      exact .moment _
    · rcases (Option.orElse_eq_some _ _ _).mp h with h | ⟨-, h⟩
      · exact distinct_float? h
      · exact distinct_integer? h

/-- A parser all of whose values repeat no keys. -/
def DistinctParser (element? : Parser Literal) : Prop :=
  ∀ {cs literal rest}, element? cs = some (literal, rest) → literal.value.Distinct

/-- Plain values are such. -/
lemma distinct_plainLiteral? : DistinctParser plainLiteral? := by
  intro cs literal rest h
  obtain ⟨_, hvalue, h⟩ := Option.bind_eq_some_iff.mp h
  cases h
  exact distinct_plain? hvalue

section Brackets

variable {element? : Parser Literal} (h : DistinctParser element?)
include h

/-- The items of a list repeat no keys. -/
lemma distinct_listRest? {fuel : Nat} {cs rest : List Char} {values : List Value} {text : String}
    (hlist : listRest? element? fuel cs = some ((values, text), rest)) :
    ∀ v ∈ values, v.Distinct := by
  induction fuel generalizing cs values text rest with
  | zero => cases hlist
  | succ fuel ih =>
    unfold listRest? at hlist
    dsimp only at hlist
    split at hlist
    · cases hlist
      exact nofun
    · obtain ⟨⟨literal, more⟩, hliteral, hlist⟩ := Option.bind_eq_some_iff.mp hlist
      dsimp only at hlist
      split at hlist
      · cases hlist
        exact List.forall_mem_singleton.mpr (h hliteral)
      · obtain ⟨⟨⟨values', text'⟩, rest'⟩, hmore, hlist⟩ := Option.bind_eq_some_iff.mp hlist
        cases hlist
        exact List.forall_mem_cons.mpr ⟨h hliteral, ih hmore⟩
      · cases hlist

/-- The entries between braces repeat no keys. -/
lemma distinct_membersRest? {fuel : Nat} {cs rest : List Char} {members : List (Path × Item)}
    (hmembers : membersRest? element? fuel cs = some (members, rest)) :
    ∀ m ∈ members, m.2.Distinct := by
  have hmember : ∀ {cs rest : List Char} {m : Path × Item},
      member? element? cs = some (m, rest) → m.2.Distinct := by
    intro cs rest m hm
    obtain ⟨⟨path, more⟩, -, hm⟩ := Option.bind_eq_some_iff.mp hm
    dsimp only at hm
    split at hm
    · obtain ⟨⟨literal, stop⟩, hliteral, hm⟩ := Option.bind_eq_some_iff.mp hm
      cases hm
      exact .value (h hliteral)
    · cases hm
  induction fuel generalizing cs members rest with
  | zero => cases hmembers
  | succ fuel ih =>
    obtain ⟨⟨entry, more⟩, hentry, hmembers⟩ := Option.bind_eq_some_iff.mp hmembers
    dsimp only at hmembers
    split at hmembers
    · cases hmembers
      exact List.forall_mem_singleton.mpr (hmember hentry)
    · obtain ⟨⟨entries, rest'⟩, hentries, hmembers⟩ := Option.bind_eq_some_iff.mp hmembers
      cases hmembers
      exact List.forall_mem_cons.mpr ⟨hmember hentry, ih hentries⟩
    · cases hmembers

/-- A table between braces repeats no keys. -/
lemma distinct_tableRest? : DistinctParser (tableRest? element?) := by
  intro cs literal rest htable
  unfold tableRest? at htable
  split at htable
  · cases htable
    exact .table List.nodup_nil nofun
  · obtain ⟨⟨members, more⟩, hmembers, htable⟩ := Option.bind_eq_some_iff.mp htable
    obtain ⟨entries, hentries, htable⟩ := Option.bind_eq_some_iff.mp htable
    cases htable
    have hdistinct : Entries.Distinct entries :=
      Entries.distinct_nil.putAll? (distinct_membersRest? h hmembers) hentries
    exact hdistinct.toValues

end Brackets

/-- No value repeats keys, however deep its brackets and braces are. -/
lemma distinct_literalWithin? (depth : Nat) : DistinctParser (literalWithin? depth) := by
  induction depth with
  | zero => exact distinct_plainLiteral?
  | succ depth ih =>
    intro cs literal rest h
    unfold literalWithin? at h
    dsimp only at h
    split at h
    · obtain ⟨⟨⟨values, text⟩, rest'⟩, hlist, h⟩ := Option.bind_eq_some_iff.mp h
      cases h
      exact .list (distinct_listRest? ih hlist)
    · exact distinct_tableRest? ih h
    · exact distinct_plainLiteral? h

/-! ### Documents -/

/-- The literal of a statement, if it is an entry, repeats no keys. -/
def Statement.Distinct : Statement → Prop
  | .entry _ _ literal _ => literal.value.Distinct
  | .header .. => True

/-- What is read as a header or an entry repeats no keys. -/
lemma distinct_statements? {fuel : Nat} {cs : List Char} {statements : List Statement}
    {after : String} (h : statements? fuel cs = some (statements, after)) :
    ∀ s ∈ statements, s.Distinct := by
  have hheader : ∀ {before : String} {cs rest : List Char} {s : Statement},
      header? before cs = some (s, rest) → s.Distinct := by
    intro before cs rest s hs
    unfold header? at hs
    split at hs
    all_goals
      obtain ⟨_, -, hs⟩ := Option.bind_eq_some_iff.mp hs
      dsimp only at hs
      split at hs
      · obtain ⟨_, -, hs⟩ := Option.bind_eq_some_iff.mp hs
        cases hs
        exact trivial
      · cases hs
  have hentry : ∀ {before : String} {cs rest : List Char} {s : Statement},
      assignment? before cs = some (s, rest) → s.Distinct := by
    intro before cs rest s hs
    obtain ⟨_, -, hs⟩ := Option.bind_eq_some_iff.mp hs
    dsimp only at hs
    split at hs
    · obtain ⟨⟨literal, stop⟩, hliteral, hs⟩ := Option.bind_eq_some_iff.mp hs
      obtain ⟨_, -, hs⟩ := Option.bind_eq_some_iff.mp hs
      cases hs
      exact distinct_literalWithin? deepest hliteral
    · cases hs
  induction fuel generalizing cs statements after with
  | zero => cases h
  | succ fuel ih =>
    unfold statements? at h
    split at h
    · cases h
      exact nofun
    · obtain ⟨⟨statement, rest⟩, hs, h⟩ := Option.bind_eq_some_iff.mp h
      obtain ⟨⟨more, after'⟩, hmore, h⟩ := Option.bind_eq_some_iff.mp h
      cases h
      exact List.forall_mem_cons.mpr ⟨hheader hs, ih hmore⟩
    · obtain ⟨⟨statement, rest⟩, hs, h⟩ := Option.bind_eq_some_iff.mp h
      obtain ⟨⟨more, after'⟩, hmore, h⟩ := Option.bind_eq_some_iff.mp h
      cases h
      exact List.forall_mem_cons.mpr ⟨hentry hs, ih hmore⟩

/-- The entries of a document and of its sections repeat no keys. -/
lemma distinct_sections {statements : List (Statement × Nat)}
    (h : ∀ s ∈ statements, s.1.Distinct) :
    (∀ e ∈ (sections statements).1, e.2.Distinct) ∧
      ∀ s ∈ (sections statements).2, ∀ e ∈ s.body, e.2.Distinct := by
  induction statements with
  | nil => exact ⟨nofun, nofun⟩
  | cons s statements ih =>
    obtain ⟨hs, hrest⟩ := List.forall_mem_cons.mp h
    obtain ⟨hbody, hmore⟩ := ih hrest
    obtain ⟨statement, place⟩ := s
    cases statement with
    | entry before path literal around =>
      exact ⟨List.forall_mem_cons.mpr ⟨.value hs, hbody⟩, hmore⟩
    | header before repeated path after =>
      exact ⟨nofun, List.forall_mem_cons.mpr ⟨hbody, hmore⟩⟩

/-- A document that has been read gives no key twice, in whatever table. -/
lemma Document.distinct_of_parse? {s : String} {d : Document} (h : parse? s = some d) :
    Entries.Distinct d.entries := by
  obtain ⟨⟨statements, after⟩, hstatements, h⟩ := Option.bind_eq_some_iff.mp h
  obtain ⟨entries, hentries, h⟩ := Option.bind_eq_some_iff.mp h
  obtain ⟨all, hall, h⟩ := Option.bind_eq_some_iff.mp h
  cases h
  have hplaced : ∀ s ∈ statements.zipIdx 1, s.1.Distinct := fun s hs =>
    distinct_statements? hstatements s.1 (List.fst_mem_of_mem_zipIdx hs)
  obtain ⟨hbody, hmore⟩ := distinct_sections hplaced
  have hfront : Entries.Distinct entries := Entries.distinct_nil.putAll? hbody hentries
  exact hfront.addSections? hmore hall

/-- The values of a document that has been read give no key twice, in whatever table. -/
lemma Document.distinct_values {s : String} {d : Document} (h : parse? s = some d) :
    (Value.table d.values).Distinct :=
  (distinct_of_parse? h).toValues

end CrudScaffold.Toml
