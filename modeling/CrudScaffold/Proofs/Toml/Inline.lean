import CrudScaffold.Proofs.Toml.Insertion
import CrudScaffold.Proofs.Toml.Literal

/-!
# Tables between braces are read again

The entries between braces are put into a table one after the other, and the table is printed from
its lines, where entries with a common path stand together. The lines of such a table, put one after
the other into an empty one, give the same table (`Toml.Entries.IsInline.putAll?_lines`), so
reading what is printed gives the same value with the same text.
-/

namespace CrudScaffold.Toml

/-! ### Lines under keys -/

/-- A line under more keys. -/
def Line.under (parents : List Key) (l : Line) : Line :=
  { l with path := ⟨parents ++ l.path.parents, l.path.key⟩ }

mutual

lemma Item.lines_append (parents more : List Key) (key : Key) (item : Item) :
    item.lines (parents ++ more) key = (item.lines more key).map (Line.under parents) := by
  match item with
  | .value literal around => rfl
  | .table head entries =>
    rw [Item.lines, Item.lines]
    split
    · rw [List.append_assoc]
      exact linesOf_append parents (more ++ [key]) entries
    · rfl
  | .tables members => rfl

lemma linesOf_append (parents more : List Key) (entries : List (Key × Item)) :
    linesOf (parents ++ more) entries = (linesOf more entries).map (Line.under parents) := by
  match entries with
  | [] => rfl
  | (key, item) :: rest =>
    rw [linesOf, linesOf, List.map_append, Item.lines_append parents more key item,
      linesOf_append parents more rest]

end

lemma linesOf_eq_map (parents : List Key) (entries : Entries) :
    linesOf parents entries = (linesOf [] entries).map (Line.under parents) := by
  have h := linesOf_append parents [] entries
  rw [List.append_nil] at h
  exact h

lemma linesOf_eq_flatMap (parents : List Key) (entries : Entries) :
    linesOf parents entries = entries.flatMap fun e => e.2.lines parents e.1 := by
  induction entries with
  | nil => rfl
  | cons e entries ih =>
    obtain ⟨key, item⟩ := e
    rw [linesOf, ih, List.flatMap_cons]

/-- A line as an entry of a table between braces. -/
def Line.member (l : Line) : Path × Item := (l.path, .value l.literal l.around)

/-- An entry under one more key. -/
def underKey (first : Key) (m : Path × Item) : Path × Item := (⟨first :: m.1.parents, m.1.key⟩, m.2)

lemma map_member_under (first : Key) (lines : List Line) :
    (lines.map (Line.under [first])).map Line.member =
      (lines.map Line.member).map (underKey first) := by
  rw [List.map_map, List.map_map]
  rfl

namespace Entries

variable {entries left : Entries} {members : List (Path × Item)} {first : Key}

/-- Entries under a key are put into the table of that key. -/
lemma putAll?_under {known : Key} {head : Head} {inner : Entries} (hleft : first.name ∉ names left)
    (hknown : known.name = first.name) (hdotted : head.dotted) (himplicit : head.implicit) :
    putAll? (members.map (underKey first)) (left ++ [(known, .table head inner)]) =
      (putAll? members inner).map fun inner' => left ++ [(known, .table head inner')] := by
  induction members generalizing inner with
  | nil => rfl
  | cons m members ih =>
    obtain ⟨⟨parents, key⟩, item⟩ := m
    have hput : put? ⟨first :: parents, key⟩ item (left ++ [(known, .table head inner)]) =
        (inner.put? ⟨parents, key⟩ item).map fun inner' => left ++ [(known, .table head inner')] :=
      put?_cons_of_split hleft hknown hdotted himplicit
    simp only [putAll?, List.map_cons, List.foldlM_cons, underKey] at ih ⊢
    rw [hput]
    cases hinner : inner.put? ⟨parents, key⟩ item with
    | none => rfl
    | some inner' => exact ih

/-- The first entry under a new key makes its table. -/
lemma putAll?_under_of_notMem (hne : members ≠ []) (hleft : first.name ∉ names left) :
    putAll? (members.map (underKey first)) left =
      (putAll? members []).map fun inner => left ++ [(first, .table dottedHead inner)] := by
  obtain ⟨⟨⟨parents, key⟩, item⟩, members, rfl⟩ := List.exists_cons_of_ne_nil hne
  have hput : left.put? ⟨first :: parents, key⟩ item = (put? ⟨parents, key⟩ item []).map
      fun inner => left ++ [(first, .table dottedHead inner)] := put?_cons_of_notMem hleft
  have hall : ∀ inner, putAll? (members.map (underKey first))
      (left ++ [(first, .table dottedHead inner)]) =
        (putAll? members inner).map fun inner' => left ++ [(first, .table dottedHead inner')] :=
    fun inner => putAll?_under hleft rfl rfl rfl
  simp only [putAll?, List.map_cons, List.foldlM_cons, underKey] at hall ⊢
  rw [hput]
  cases put? ⟨parents, key⟩ item [] with
  | none => rfl
  | some inner => exact hall inner

end Entries

/-! ### Tables between braces -/

variable {good : Literal → Prop}

/-- An item of a table between braces: a value with its text, or a table that keys in front of
values have made. The number bounds how many keys may be needed. -/
inductive Item.IsInline (good : Literal → Prop) : Nat → Key → Item → Prop
  | value {n : Nat} {key : Key} {l : Literal} {a b : String} (hkey : key.IsLast) (hl : good l)
      (ha : IsBlank a) (hb : IsBlank b) : IsInline good n key (.value l (some ⟨a, b⟩))
  | table {n : Nat} {key : Key} {entries : Entries} (hkey : key.IsInner) (hne : entries ≠ [])
      (hnames : entries.names.Nodup) (hentries : ∀ e ∈ entries, IsInline good n e.1 e.2) :
      IsInline good (n + 1) key (.table Entries.dottedHead entries)

namespace Entries

variable {entries entries' : Entries} {n : Nat}

/-- The entries of a table between braces. -/
structure IsInline (good : Literal → Prop) (n : Nat) (entries : Entries) : Prop where
  names : entries.names.Nodup
  items : ∀ e ∈ entries, e.2.IsInline good n e.1

lemma isInline_nil : IsInline good n [] := ⟨List.nodup_nil, nofun⟩

lemma IsInline.put? (h : IsInline good n entries) {parents : List Key} {key : Key} {item : Item}
    (hparents : ∀ k ∈ parents, k.IsInner) (hlength : parents.length ≤ n)
    (hitem : ∀ n, item.IsInline good n key)
    (hput : entries.put? ⟨parents, key⟩ item = some entries') :
    IsInline good n entries' ∧ entries' ≠ [] := by
  induction parents generalizing entries entries' n with
  | nil =>
    rw [put?_single, add?_eq_some_iff] at hput
    obtain ⟨hnew, rfl⟩ := hput
    refine ⟨⟨?_, fun e he => ?_⟩, by simp⟩
    · rw [names_append, List.nodup_append_comm]
      exact List.nodup_cons.mpr ⟨hnew, h.names⟩
    · rcases List.mem_append.mp he with he | he
      · exact h.items e he
      · rw [List.mem_singleton.mp he]
        exact hitem n
  | cons first parents ih =>
    obtain ⟨hfirst, hparents⟩ := List.forall_mem_cons.mp hparents
    obtain ⟨n, rfl⟩ : ∃ m, n = m + 1 :=
      Nat.exists_eq_succ_of_ne_zero (Nat.ne_of_gt (Nat.lt_of_lt_of_le (Nat.succ_pos _) hlength))
    have hlength := Nat.le_of_succ_le_succ hlength
    by_cases hmem : first.name ∈ entries.names
    · obtain ⟨left, known, old, right, rfl, hknown, hleft⟩ := exists_split hmem
      have hold := h.items (known, old) (by simp)
      cases hold with
      | value =>
        rw [put?_cons_of_value hleft hknown] at hput
        cases hput
      | table hkey hne hnames hentries =>
        rw [put?_cons_of_split hleft hknown rfl rfl] at hput
        obtain ⟨inner', hinner, rfl⟩ := Option.map_eq_some_iff.mp hput
        obtain ⟨hinner', hne'⟩ := ih ⟨hnames, hentries⟩ hparents hlength hinner
        refine ⟨⟨by simpa using h.names, fun e he => ?_⟩, by simp⟩
        rcases List.mem_append.mp he with he | he
        · exact h.items e (List.mem_append_left _ he)
        · rcases List.mem_cons.mp he with rfl | he
          · exact .table hkey hne' hinner'.names hinner'.items
          · exact h.items e (List.mem_append_right _ (List.mem_cons_of_mem _ he))
    · rw [put?_cons_of_notMem hmem] at hput
      obtain ⟨inner', hinner, rfl⟩ := Option.map_eq_some_iff.mp hput
      obtain ⟨hinner', hne'⟩ := ih isInline_nil hparents hlength hinner
      refine ⟨⟨?_, fun e he => ?_⟩, by simp⟩
      · rw [names_append, List.nodup_append_comm]
        exact List.nodup_cons.mpr ⟨hmem, h.names⟩
      · rcases List.mem_append.mp he with he | he
        · exact h.items e he
        · rw [List.mem_singleton.mp he]
          exact .table hfirst hne' hinner'.names hinner'.items

end Entries

lemma Item.IsInline.lines_ne_nil {n : Nat} {key : Key} {item : Item} (h : item.IsInline good n key)
    (parents : List Key) : item.lines parents key ≠ [] := by
  induction h generalizing parents with
  | value => nofun
  | @table n key entries hkey hne hnames hentries ih =>
    obtain ⟨e, entries, rfl⟩ := List.exists_cons_of_ne_nil hne
    change linesOf (parents ++ [key]) (e :: entries) ≠ []
    rw [linesOf_eq_flatMap, List.flatMap_cons]
    exact List.append_ne_nil_of_left_ne_nil (ih e List.mem_cons_self _) _

lemma Entries.putAll?_append (members more : List (Path × Item)) (entries : Entries) :
    putAll? (members ++ more) entries = (putAll? members entries).bind (putAll? more) := by
  rw [putAll?, List.foldlM_append]
  rfl

/-- If the lines of every item make that item, then the lines of all make all, each beside the ones
in front of it. -/
lemma Entries.putAll?_lines_of_items {entries : Entries} (hnames : entries.names.Nodup)
    (hitems : ∀ e ∈ entries, ∀ front : Entries, e.1.name ∉ front.names →
      putAll? ((e.2.lines [] e.1).map Line.member) front = some (front ++ [e]))
    {left right : Entries} (hsplit : entries = left ++ right) :
    putAll? ((linesOf [] right).map Line.member) left = some entries := by
  induction right generalizing left with
  | nil =>
    rw [hsplit, List.append_nil]
    rfl
  | cons e right ih =>
    obtain ⟨k, i⟩ := e
    have hmem : (k, i) ∈ entries := by simp [hsplit]
    have hk : k.name ∉ left.names := by
      rw [hsplit, names_append, names_cons] at hnames
      exact fun hk => (List.nodup_append.mp hnames).2.2 _ hk _ List.mem_cons_self rfl
    rw [linesOf, List.map_append, putAll?_append, hitems (k, i) hmem left hk, Option.bind_some]
    exact ih (by simp [hsplit])

/-- The lines of an item of a table between braces make the item again. -/
lemma Item.IsInline.putAll?_lines {n : Nat} {key : Key} {item : Item} (h : item.IsInline good n key)
    {front : Entries} (hfront : key.name ∉ front.names) :
    Entries.putAll? ((item.lines [] key).map Line.member) front =
      some (front ++ [(key, item)]) := by
  induction h generalizing front with
  | value =>
    change (front.add? _ _ >>= some) = _
    rw [Entries.add?_of_notMem hfront]
    rfl
  | @table n key entries hkey hne hnames hentries ih =>
    have hall := Entries.putAll?_lines_of_items hnames (fun e he _ => ih e he)
      (List.nil_append _).symm
    have hlines : (linesOf [] entries).map Line.member ≠ [] := by
      obtain ⟨e, more, rfl⟩ := List.exists_cons_of_ne_nil hne
      have he := (hentries e List.mem_cons_self).lines_ne_nil []
      rw [linesOf_eq_flatMap, List.flatMap_cons]
      simp [he]
    change Entries.putAll? ((linesOf [key] entries).map Line.member) front = _
    rw [linesOf_eq_map, map_member_under, Entries.putAll?_under_of_notMem hlines hfront, hall]
    rfl

/-- The lines of a table between braces make the table again. -/
lemma Entries.IsInline.putAll?_lines {n : Nat} {entries : Entries} (h : entries.IsInline good n) :
    putAll? ((linesOf [] entries).map Line.member) [] = some entries :=
  putAll?_lines_of_items h.names (fun e he _ => (h.items e he).putAll?_lines)
    (List.nil_append _).symm

/-- A line as it stands between braces. -/
structure Line.IsInline (good : Literal → Prop) (l : Line) : Prop where
  key : l.path.key.IsLast
  literal : good l.literal
  around : ∃ a b, l.around = some ⟨a, b⟩ ∧ IsBlank a ∧ IsBlank b

/-- The lines of an item of a table between braces are as they stand there. Their paths begin with
the key of the item. -/
lemma Item.IsInline.lines {n : Nat} {key : Key} {item : Item} (h : item.IsInline good n key)
    {parents : List Key} {l : Line} (hl : l ∈ item.lines parents key) :
    l.IsInline good ∧ ∃ more, l.path.parents = parents ++ more ∧ (∀ k ∈ more, k.IsInner) ∧
      more.length ≤ n ∧ (more = [] → l.path.key = key) ∧ ∀ k, more.head? = some k → k = key := by
  induction h generalizing parents with
  | @value n key literal a b hkey hgood ha hb =>
    obtain rfl := List.mem_singleton.mp hl
    exact ⟨⟨hkey, hgood, a, b, rfl, ha, hb⟩, [], (List.append_nil _).symm, nofun, Nat.zero_le _,
      fun _ => rfl, nofun⟩
  | @table n key entries hkey hne hnames hentries ih =>
    change l ∈ linesOf (parents ++ [key]) entries at hl
    rw [linesOf_eq_flatMap] at hl
    obtain ⟨e, he, hl⟩ := List.mem_flatMap.mp hl
    obtain ⟨hline, more, hpath, hmore, hlength, -⟩ := ih e he hl
    refine ⟨hline, key :: more, ?_, List.forall_mem_cons.mpr ⟨hkey, hmore⟩,
      Nat.succ_le_succ hlength, nofun, ?_⟩
    · rw [hpath, List.append_assoc]
      rfl
    · rintro k ⟨⟩
      rfl

/-! ### Entries between braces -/

section Members

variable {element? : Parser Literal} {cs rest : List Char}

/-- An entry between braces that can be printed and read again. -/
structure IsMember (element? : Parser Literal) (m : Path × Item) : Prop where
  path : m.1.IsWritten
  value : ∃ l a b, m.2 = .value l (some ⟨a, b⟩) ∧ l.IsStable element? ∧ IsBlank a ∧ IsBlank b

lemma isMember_of_member? (helement : IsStable element?) {m : Path × Item}
    (h : member? element? cs = some (m, rest)) (hrest : IsStopped rest) : IsMember element? m := by
  obtain ⟨⟨path, cs₁⟩, hpath, h⟩ := Option.bind_eq_some_iff.mp h
  dsimp only at h
  split at h
  · obtain ⟨⟨l, stop⟩, hl, h⟩ := Option.bind_eq_some_iff.mp h
    obtain ⟨rfl, rfl⟩ := Prod.mk.inj (Option.some.inj h)
    exact ⟨Path.isWritten_of_path? hpath, l, _, _, rfl,
      helement.stable hl (isEnd_of_skipSpace hrest), isBlank_written_skipSpace _,
      isBlank_written_skipSpace _⟩
  · cases h

lemma isMember_of_membersRest? (helement : IsStable element?) {fuel : Nat}
    {members : List (Path × Item)} (h : membersRest? element? fuel cs = some (members, rest)) :
    members ≠ [] ∧ ∀ m ∈ members, IsMember element? m := by
  induction fuel generalizing cs members with
  | zero => cases h
  | succ fuel ih =>
    obtain ⟨⟨m, cs₁⟩, hm, h⟩ := Option.bind_eq_some_iff.mp h
    dsimp only at h
    split at h
    · obtain ⟨rfl, -⟩ := Prod.mk.inj (Option.some.inj h)
      exact ⟨nofun, List.forall_mem_singleton.mpr
        (isMember_of_member? helement hm (.cons (by decide) _))⟩
    · obtain ⟨⟨more, cs₂⟩, hmore, h⟩ := Option.bind_eq_some_iff.mp h
      obtain ⟨rfl, rfl⟩ := Prod.mk.inj (Option.some.inj h)
      exact ⟨nofun, List.forall_mem_cons.mpr
        ⟨isMember_of_member? helement hm (.cons (by decide) _), (ih hmore).2⟩⟩
    · cases h

/-- An entry of altered entries has a key that was there, or the new one. -/
lemma Entries.mem_put?_key {entries entries' : Entries} {path : Path} {item : Item}
    (hput : entries.put? path item = some entries') {e : Key × Item} (he : e ∈ entries') :
    (∃ e₀ ∈ entries, e₀.1 = e.1) ∨ e.1 = path.parents.headD path.key := by
  obtain ⟨f, halter⟩ : ∃ f, entries.alter? (path.parents.headD path.key) f = some entries' := by
    obtain ⟨_ | ⟨first, parents⟩, key⟩ := path
    · exact ⟨_, hput⟩
    · exact ⟨_, hput⟩
  generalize path.parents.headD path.key = key at halter
  by_cases hmem : key.name ∈ entries.names
  · obtain ⟨left, known, old, right, rfl, hknown, hleft⟩ := exists_split hmem
    rw [alter?_of_split hleft hknown] at halter
    obtain ⟨new, -, rfl⟩ := Option.map_eq_some_iff.mp halter
    left
    rcases List.mem_append.mp he with he | he
    · exact ⟨e, List.mem_append_left _ he, rfl⟩
    · rcases List.mem_cons.mp he with rfl | he
      · exact ⟨(known, old), by simp, rfl⟩
      · exact ⟨e, by simp [he], rfl⟩
  · rw [alter?_of_notMem hmem] at halter
    obtain ⟨new, -, rfl⟩ := Option.map_eq_some_iff.mp halter
    rcases List.mem_append.mp he with he | he
    · exact .inl ⟨e, he, rfl⟩
    · rw [List.mem_singleton.mp he]
      exact .inr rfl

/-- Entries that have been read between braces make a table of the kind that can be printed. -/
lemma isInline_of_putAll? {members : List (Path × Item)} {entries entries' : Entries}
    (hmembers : ∀ m ∈ members, IsMember element? m)
    (h : entries.IsInline (Literal.IsStable element?) 78)
    (hkeys : ∀ e ∈ entries, e.1.inner.before = "")
    (hput : Entries.putAll? members entries = some entries') :
    entries'.IsInline (Literal.IsStable element?) 78 ∧ (∀ e ∈ entries', e.1.inner.before = "") ∧
      (members ≠ [] ∨ entries ≠ [] → entries' ≠ []) := by
  induction members generalizing entries with
  | nil =>
    cases hput
    exact ⟨h, hkeys, fun hne => hne.resolve_left (fun hnil => hnil rfl)⟩
  | cons m members ih =>
    obtain ⟨hm, hmore⟩ := List.forall_mem_cons.mp hmembers
    obtain ⟨next, hnext, hmoreput⟩ := Option.bind_eq_some_iff.mp hput
    obtain ⟨⟨parents, key⟩, item⟩ := m
    obtain ⟨l, a, b, hitem, hl, ha, hb⟩ := hm.value
    dsimp only at hitem
    subst hitem
    have hpath := hm.path
    have hlength : parents.length ≤ 78 := Nat.le_of_lt_succ hpath.length
    obtain ⟨hinline, hne⟩ := h.put? hpath.parents hlength
      (fun n => .value hpath.key hl ha hb) hnext
    have hbefore : ∀ e ∈ next, e.1.inner.before = "" := by
      intro e he
      rcases Entries.mem_put?_key hnext he with ⟨e₀, he₀, hkey⟩ | hkey
      · rw [← hkey]
        exact hkeys e₀ he₀
      · rw [hkey]
        cases parents with
        | nil => exact hpath.single rfl
        | cons first parents => exact hpath.first first rfl
    obtain ⟨hinline', hbefore', hne'⟩ := ih hmore hinline hbefore hmoreput
    exact ⟨hinline', hbefore', fun _ => hne' (.inr hne)⟩

/-- The lines of a table that has been read between braces are printed in the order of the table,
and every one of them can be read again. -/
lemma Entries.IsInline.lines_eq {entries : Entries}
    (h : entries.IsInline (Literal.IsStable element?) 78)
    (hkeys : ∀ e ∈ entries, e.1.inner.before = "") :
    entries.lines = linesOf [] entries ∧ ∀ l ∈ entries.lines, IsMember element? l.member := by
  have hlines : ∀ l ∈ linesOf [] entries, l.path.key.place = none ∧ IsMember element? l.member := by
    intro l hl
    rw [linesOf_eq_flatMap] at hl
    obtain ⟨e, he, hl⟩ := List.mem_flatMap.mp hl
    obtain ⟨⟨hkey, hliteral, a, b, haround, ha, hb⟩, more, hmore, hinner, hlength,
      hsingle, hfirst⟩ :=
      (h.items e he).lines hl
    rw [List.nil_append] at hmore
    subst hmore
    refine ⟨hkey.place, ⟨hinner, hkey, ?_, ?_, Nat.lt_succ_of_le hlength⟩, l.literal, a, b, ?_,
      hliteral, ha, hb⟩
    · intro k hk
      rw [hfirst k hk]
      exact hkeys e he
    · intro hnil
      change l.path.key.inner.before = ""
      rw [hsingle hnil]
      exact hkeys e he
    · rw [Line.member, haround]
  have hsorted : entries.lines = linesOf [] entries := by
    refine List.mergeSort_of_pairwise (List.pairwise_of_forall_mem_list fun a ha b hb => ?_)
    rw [Line.before, (hlines a ha).1, (hlines b hb).1]
  refine ⟨hsorted, fun l hl => ?_⟩
  rw [hsorted] at hl
  exact (hlines l hl).2

/-! ### Printing -/

/-- Texts with commas between them. -/
def commaText : List String → List Char
  | [] => []
  | [s] => s.toList
  | s :: more => s.toList ++ ',' :: commaText more

lemma toList_intercalate (texts : List String) :
    (",".intercalate texts).toList = commaText texts := by
  rw [String.toList_intercalate]
  induction texts with
  | nil => rfl
  | cons s texts ih =>
    cases texts with
    | nil => simp [commaText]
    | cons t texts =>
      rw [commaText, ← ih]
      · simp [List.intercalate]
      · nofun

/-- What ends an entry between braces. -/
def IsBraceMark (c : Char) : Prop := c = '\x7d' ∨ c = ','

lemma member?_eq {cs₁ : List Char} {path : Path} (hpath : path? cs = some (path, '=' :: cs₁)) :
    member? element? cs = (element? (skipSpace cs₁)).map fun x =>
      ((path, .value x.1
        (some ⟨written cs₁ (skipSpace cs₁), written x.2 (skipSpace x.2)⟩)), skipSpace x.2) := by
  rw [member?, hpath, Option.map_eq_bind]
  rfl

/-- A line between braces is read again as the same entry. -/
lemma member?_write {l : Line} (h : IsMember element? l.member) {c : Char} (hc : IsBraceMark c)
    (standardKey standardValue : Around) (rest : List Char) :
    member? element? ((l.write standardKey standardValue).toList ++ c :: rest) =
      some (l.member, c :: rest) := by
  obtain ⟨path, literal, around⟩ := l
  obtain ⟨_, a, b, hvalue, hl, ha, hb⟩ := h.value
  obtain ⟨rfl, rfl⟩ := Item.value.inj hvalue
  have hmark : IsStopped (c :: rest) ∧ IsInked (c :: rest) := by
    constructor
    all_goals
      intro d hd
      obtain rfl := Option.some.inj hd
      rcases hc with rfl | rfl <;> decide
  have hequal : IsBeyond ('=' :: (a.toList ++
    (literal.text.toList ++ (b.toList ++ c :: rest)))) := by
    constructor
    all_goals
      intro d hd
      rw [← Option.some.inj hd]
      decide
  have hinked : IsInked (literal.text.toList ++ (b.toList ++ c :: rest)) := by
    obtain ⟨d, t, htext, hd⟩ := hl.head
    intro e he
    rw [htext] at he
    obtain rfl := Option.some.inj he
    by_contra hspace
    exact hd (isSpace_mem_stops (by simpa using hspace)).1
  have htext : (Line.write ⟨path, literal, some ⟨a, b⟩⟩ standardKey standardValue).toList ++
    c :: rest =
      (path.write standardKey).toList ++
        '=' :: (a.toList ++ (literal.text.toList ++ (b.toList ++ c :: rest))) := by
    simp [Line.write]
  have hpath : path.IsWritten := h.path
  rw [htext, member?_eq (path?_write hpath standardKey hequal nofun), skipSpace_append ha hinked,
    hl.again _ (isEnd_append hb hmark.1 hmark.2), Option.map_some]
  dsimp only
  rw [skipSpace_append hb hmark.2, written_append, written_append]
  simp [Line.member]

/-- Lines between braces are read again up to the closing one. -/
lemma membersRest?_write {lines : List Line} (hne : lines ≠ [])
    (hlines : ∀ l ∈ lines, IsMember element? l.member) (standardKey standardValue : Around)
    {fuel : Nat} (rest : List Char)
    (hfuel : (commaText (lines.map fun l => l.write standardKey standardValue)).length < fuel) :
    membersRest? element? fuel
        (commaText (lines.map fun l => l.write standardKey standardValue) ++ '\x7d' :: rest) =
      some (lines.map Line.member, rest) := by
  induction lines generalizing fuel with
  | nil => exact absurd rfl hne
  | cons l lines ih =>
    obtain ⟨fuel, rfl⟩ : ∃ f, fuel = f + 1 :=
      Nat.exists_eq_succ_of_ne_zero (Nat.ne_of_gt (Nat.lt_of_le_of_lt (Nat.zero_le _) hfuel))
    obtain ⟨hl, hmore⟩ := List.forall_mem_cons.mp hlines
    cases lines with
    | nil =>
      change (member? element? ((l.write _ _).toList ++ '\x7d' :: rest) >>= _) = _
      rw [member?_write hl (.inl rfl)]
      rfl
    | cons l' lines =>
      rw [List.map_cons, commaText] at hfuel ⊢
      · have hlength : (commaText ((l' :: lines).map fun l =>
            l.write standardKey standardValue)).length < fuel := by
          simp only [List.length_append, List.length_cons] at hfuel
          omega
        rw [List.append_assoc, List.cons_append]
        change (member? element? ((l.write _ _).toList ++ ',' :: _) >>= _) = _
        rw [member?_write hl (.inr rfl)]
        change (membersRest? element? fuel _ >>= fun x => some (l.member :: x.1, x.2)) = _
        rw [ih nofun hmore hlength]
        rfl
      · nofun
      · nofun

/-- No entry begins with a closing brace. -/
lemma skipSpace_ne_brace {fuel : Nat} {x : List (Path × Item) × List Char}
    (h : membersRest? element? fuel cs = some x) (cs' : List Char) :
    skipSpace cs ≠ '\x7d' :: cs' := by
  intro hskip
  cases fuel with
  | zero => cases h
  | succ fuel =>
    obtain ⟨⟨m, cs₀⟩, hm, -⟩ := Option.bind_eq_some_iff.mp h
    obtain ⟨⟨path, cs₁⟩, hpath, -⟩ := Option.bind_eq_some_iff.mp hm
    obtain ⟨⟨ks, cs₂⟩, hkeys, -⟩ := Option.bind_eq_some_iff.mp hpath
    obtain ⟨⟨k, cs₃⟩, hkey, -⟩ := Option.bind_eq_some_iff.mp hkeys
    obtain ⟨⟨name, cs₄⟩, hname, -⟩ := Option.bind_eq_some_iff.mp hkey
    rw [hskip] at hname
    cases hname

lemma tableRest?_empty (h : skipSpace cs = '\x7d' :: rest) :
    tableRest? element? cs = some (⟨.table [], "\x7b" ++ written cs rest⟩, rest) := by
  rw [tableRest?, h]
  rfl

/-- A table that has been read between braces is read again from what it is printed as. -/
lemma tableRest?_toLiteral {entries : Entries} (hne : entries ≠ [])
    (h : entries.IsInline (Literal.IsStable element?) 78)
    (hkeys : ∀ e ∈ entries, e.1.inner.before = "") (rest : List Char) :
    ∃ t, entries.toLiteral.text.toList = '\x7b' :: t ∧
      tableRest? element? (t ++ rest) = some (entries.toLiteral, rest) := by
  obtain ⟨hlines, hread⟩ := h.lines_eq hkeys
  have hagain := h.putAll?_lines
  rw [← hlines] at hagain
  have hlinesne : entries.lines ≠ [] := by
    obtain ⟨e, more, rfl⟩ := List.exists_cons_of_ne_nil hne
    have he := (h.items e List.mem_cons_self).lines_ne_nil []
    rw [hlines, linesOf_eq_flatMap, List.flatMap_cons]
    exact List.append_ne_nil_of_left_ne_nil he _
  let text := commaText (entries.lines.map fun l => l.write ⟨" ", " "⟩ ⟨" ", ""⟩)
  refine ⟨text ++ ['\x7d'], ?_, ?_⟩
  · simp only [Entries.toLiteral, String.toList_append, toList_intercalate]
    rfl
  · have hmembers : membersRest? element? (text ++ '\x7d' :: rest).length (text ++ '\x7d' :: rest) =
        some (entries.lines.map Line.member, rest) :=
      membersRest?_write hlinesne hread ⟨" ", " "⟩ ⟨" ", ""⟩ rest (by simp [text])
    rw [List.append_assoc, List.singleton_append, tableRest?]
    split
    · exact absurd ‹_› (skipSpace_ne_brace hmembers _)
    · rw [hmembers, Option.bind_eq_bind, Option.bind_some]
      change (Entries.ofMembers? _ >>= fun x : Entries => some (x.toLiteral, rest)) = _
      rw [show Entries.ofMembers? (entries.lines.map Line.member) = some entries from hagain]
      rfl

/-- **Tables between braces.** What follows the opening brace of a table is read again. -/
lemma tableRest?_again (helement : IsStable element?) {l : Literal}
    (h : tableRest? element? cs = some (l, rest)) (rest' : List Char) :
    ∃ t, l.text.toList = '\x7b' :: t ∧ tableRest? element? (t ++ rest') = some (l, rest') := by
  unfold tableRest? at h
  split at h
  · rename_i hskip
    obtain ⟨rfl, rfl⟩ := Prod.mk.inj (Option.some.inj h)
    obtain ⟨w, hcs, hw, -⟩ := exists_skipSpace cs
    rw [hskip] at hcs
    have hinked : IsInked ('\x7d' :: rest') := by
      intro c hc
      rw [← Option.some.inj hc]
      rfl
    have hwritten : ∀ r, written (w ++ '\x7d' :: r) r = String.ofList (w ++ ['\x7d']) := by
      intro r
      rw [← List.singleton_append, ← List.append_assoc, written_append]
    rw [hcs, hwritten]
    refine ⟨w ++ ['\x7d'], by simp, ?_⟩
    rw [List.append_assoc, List.singleton_append,
      tableRest?_empty (skipSpace_append hw hinked), hwritten]
  · obtain ⟨⟨members, cs₁⟩, hmembers, h⟩ := Option.bind_eq_some_iff.mp h
    obtain ⟨entries, hentries, h⟩ := Option.bind_eq_some_iff.mp h
    obtain ⟨rfl, rfl⟩ := Prod.mk.inj (Option.some.inj h)
    obtain ⟨hne, hall⟩ := isMember_of_membersRest? helement hmembers
    obtain ⟨hinline, hkeys, hnonempty⟩ :=
      isInline_of_putAll? hall Entries.isInline_nil nofun hentries
    exact tableRest?_toLiteral (hnonempty (.inl hne)) hinline hkeys rest'

end Members

/-! ### Values -/

/-- What is read as a value of some depth can be read again. -/
lemma isStable_literalWithin? (depth : Nat) : IsStable (literalWithin? depth) := by
  induction depth with
  | zero => exact isStable_plainLiteral?
  | succ depth ih =>
    constructor
    · intro cs l rest h
      unfold literalWithin? at h
      split at h
      · exact ⟨_, _, rfl, by decide⟩
      · exact ⟨_, _, rfl, by decide⟩
      · exact isStable_plainLiteral?.plain h
    · intro cs l rest h hrest
      unfold literalWithin? at h
      split at h
      · obtain ⟨⟨⟨values, text⟩, rest'⟩, hlist, h⟩ := Option.bind_eq_some_iff.mp h
        obtain ⟨rfl, rfl⟩ := Prod.mk.inj (Option.some.inj h)
        have htext : ("[" ++ text).toList = '[' :: text.toList := by simp
        refine ⟨⟨_, _, htext, by decide⟩, fun rest _ => ?_⟩
        have hagain : listRest? (literalWithin? depth) (text.toList ++ rest).length
            (text.toList ++ rest) = some ((values, text), rest) :=
          listRest?_again ih hlist (by simp) rest
        rw [htext, List.cons_append]
        change (listRest? (literalWithin? depth) (text.toList ++ rest).length
          (text.toList ++ rest) >>=
          fun x => some ((⟨.list x.1.1, "[" ++ x.1.2⟩ : Literal), x.2)) = _
        rw [hagain]
        rfl
      · obtain ⟨t, htext, hagain⟩ := tableRest?_again ih h []
        refine ⟨⟨_, _, htext, by decide⟩, fun rest _ => ?_⟩
        obtain ⟨t', htext', hagain'⟩ := tableRest?_again ih h rest
        rw [htext', List.cons_append]
        exact hagain'
      · obtain ⟨hstable, hhead⟩ := plainLiteral?_stable h hrest
        refine ⟨hstable.head, fun rest hrest => ?_⟩
        obtain ⟨c, t, htext, -⟩ := hstable.head
        obtain ⟨hbracket, hbrace⟩ := hhead c t htext
        rw [← hstable.again rest hrest, htext, List.cons_append]
        unfold literalWithin?
        split
        · exact absurd (List.cons.inj ‹_›).1 hbracket
        · exact absurd (List.cons.inj ‹_›).1 hbrace
        · rfl

/-- **Values.** What is read as a value can be read again from the text that it is printed as. -/
lemma isStable_literal? : IsStable literal? := isStable_literalWithin? deepest

end CrudScaffold.Toml
