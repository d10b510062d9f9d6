import CrudScaffold.Toml.Key
import CrudScaffold.Proofs.Toml.Quoted
import CrudScaffold.Proofs.Toml.Trivia

/-!
# Keys are read again

A key remembers how it is written, and a path the space around it. A path is printed from the
spellings of its keys, and reading what is printed gives the same path
(`Toml.path?_write`). What a reader has given is always written in this sense
(`Toml.Path.isWritten_of_path?`).
-/

namespace CrudScaffold.Toml

variable {cs rest : List Char}

/-! ### Names -/

/-- What is left can neither be space nor belong to a word. -/
structure IsBeyond (rest : List Char) : Prop where
  inked : IsInked rest
  word : ∀ c, rest.head? = some c → isWordChar c = false

/-- Characters spell a name in front of whatever does not go on with a word. -/
def Spells (raw name : String) : Prop :=
  ∀ rest : List Char, (∀ c, rest.head? = some c → isWordChar c = false) →
    name? (raw.toList ++ rest) = some (name, rest)

lemma name?_quoted {c : Char} (hc : c = '"' ∨ c = '\'') (cs : List Char) :
    name? (c :: cs) = (quotedLine? (c :: cs)).map fun (s, rest) => (String.ofList s, rest) := by
  rcases hc with rfl | rfl <;> rfl

lemma name?_word {c : Char} (hc : isWordChar c) (cs : List Char) :
    name? (c :: cs) = some (String.ofList (c :: cs.takeWhile isWordChar),
      cs.dropWhile isWordChar) := by
  rw [name?]
  · rw [List.takeWhile_cons_of_pos hc, List.dropWhile_cons_of_pos hc]
  all_goals
    rintro _ ⟨⟩
    cases hc

/-- A word spells itself. -/
lemma spells_word {c : Char} {w : List Char} (hc : isWordChar c) (hw : ∀ d ∈ w, isWordChar d) :
    Spells (String.ofList (c :: w)) (String.ofList (c :: w)) := by
  intro rest hrest
  have hstop : rest.takeWhile isWordChar = [] ∧ rest.dropWhile isWordChar = rest := by
    cases rest with
    | nil => exact ⟨rfl, rfl⟩
    | cons d rest =>
      have hd : ¬ isWordChar d := by simp [hrest d rfl]
      exact ⟨List.takeWhile_cons_of_neg hd, List.dropWhile_cons_of_neg hd⟩
  rw [String.toList_ofList, List.cons_append, name?_word hc, List.takeWhile_append_of_pos hw,
    List.dropWhile_append_of_pos hw, hstop.1, hstop.2, List.append_nil]

/-- A name is read wherever it stands in front of what does not go on with a word. -/
lemma name?_eq_some {name : String} (h : name? cs = some (name, rest)) :
    ∃ w, cs = w ++ rest ∧ Spells (String.ofList w) name := by
  obtain _ | ⟨c, cs⟩ := cs
  · cases h
  by_cases hquote : c = '"' ∨ c = '\''
  · rw [name?_quoted hquote] at h
    obtain ⟨⟨s, rest'⟩, hline, hpair⟩ := Option.map_eq_some_iff.mp h
    obtain ⟨rfl, rfl⟩ : String.ofList s = name ∧ rest' = rest := Prod.mk.inj hpair
    obtain ⟨w, hw, hagain⟩ := quotedLine?_eq_some hline
    cases w with
    | nil =>
      have hnone : quotedLine? [] = some (s, []) := hagain []
      cases hnone
    | cons d w =>
      obtain ⟨rfl, rfl⟩ := List.cons.inj hw
      refine ⟨c :: w, rfl, fun rest hrest => ?_⟩
      rw [String.toList_ofList, List.cons_append, name?_quoted hquote, ← List.cons_append, hagain]
      rfl
  · by_cases hword : isWordChar c
    · rw [name?_word hword] at h
      obtain ⟨rfl, rfl⟩ := Prod.mk.inj (Option.some.inj h)
      exact ⟨c :: cs.takeWhile isWordChar, congrArg _ List.takeWhile_append_dropWhile.symm,
        spells_word hword fun d hd => List.mem_takeWhile_imp hd⟩
    · have hnone : name? (c :: cs) = none := by
        rw [name?]
        · rw [List.takeWhile_cons_of_neg hword]
        · rintro _ ⟨⟩
          exact hquote (.inl rfl)
        · rintro _ ⟨⟩
          exact hquote (.inr rfl)
      rw [hnone] at h
      cases h

/-- What spells a name does not begin with space. -/
lemma Spells.isInked {raw name : String} (h : Spells raw name) (rest : List Char) :
    IsInked (raw.toList ++ rest) := by
  have hname := h [] nofun
  rw [List.append_nil] at hname
  intro c hc
  cases hraw : raw.toList with
  | nil =>
    rw [hraw] at hname
    cases hname
  | cons d w =>
    rw [hraw] at hname hc
    obtain rfl : d = c := Option.some.inj hc
    by_contra hspace
    have hd : d = ' ' ∨ d = '\t' := by simpa [isSpace, or_iff_not_imp_left] using hspace
    rcases hd with rfl | rfl <;> cases hname

/-! ### Keys -/

/-- A key that is spelled as its name, with nothing but space between it and its neighbours. -/
structure Key.IsSpelled (k : Key) : Prop where
  raw : Spells k.raw k.name
  before : IsBlank k.inner.before
  after : IsBlank k.inner.after

/-- A key with the space around it, as it stands in a path. -/
def Key.text (k : Key) : String := k.inner.before ++ k.raw ++ k.inner.after

/-- A key that is written only within its path, as a parent of others. -/
structure Key.IsInner (k : Key) : Prop extends k.IsSpelled where
  outer : k.outer = none
  place : k.place = none

lemma key?_eq_some {k : Key} (h : key? cs = some (k, rest)) : k.IsInner ∧ IsInked rest := by
  unfold key? at h
  obtain ⟨⟨name, stop⟩, hname, hpair⟩ := Option.bind_eq_some_iff.mp h
  obtain ⟨rfl, rfl⟩ := Prod.mk.inj (Option.some.inj hpair)
  obtain ⟨w, hw, hspells⟩ := name?_eq_some hname
  refine ⟨{ raw := ?_, before := ?_, after := ?_, outer := rfl, place := rfl }, isInked_skipSpace _⟩
  · dsimp only
    rw [hw, written_append]
    exact hspells
  · exact isBlank_written_skipSpace cs
  · exact isBlank_written_skipSpace stop

lemma key?_text {k : Key} (hk : k.IsInner) (hrest : IsBeyond rest) :
    key? (k.text.toList ++ rest) = some (k, rest) := by
  obtain ⟨name, raw, ⟨before, after⟩, outer, place⟩ := k
  obtain ⟨⟨hraw, hbefore, hafter⟩, rfl, rfl⟩ := hk
  dsimp only at hraw hbefore hafter
  have hword : ∀ c, (after.toList ++ rest).head? = some c → isWordChar c = false := by
    intro c hc
    cases hcs : after.toList with
    | nil =>
      rw [hcs] at hc
      exact hrest.word c hc
    | cons d w =>
      rw [hcs] at hc
      obtain rfl : d = c := Option.some.inj hc
      have hd : d = ' ' ∨ d = '\t' := by
        simpa [isSpace] using hafter d (by rw [hcs]; exact List.mem_cons_self)
      rcases hd with rfl | rfl <;> rfl
  have htext : (Key.text ⟨name, raw, ⟨before, after⟩, none, none⟩).toList ++ rest =
      before.toList ++ (raw.toList ++ (after.toList ++ rest)) := by
    simp [Key.text]
  rw [htext, key?, skipSpace_append hbefore (hraw.isInked _), hraw _ hword]
  dsimp only [Option.bind_eq_bind, Option.bind_some]
  rw [skipSpace_append hafter hrest.inked, written_append, written_append, written_append]
  simp

/-! ### Paths -/

/-- Keys with dots between them. -/
def keysText : List Key → List Char
  | [] => []
  | [k] => k.text.toList
  | k :: ks => k.text.toList ++ '.' :: keysText ks

lemma keys?_eq_some {bound : Nat} {ks : List Key} (h : keys? bound cs = some (ks, rest)) :
    ks ≠ [] ∧ ks.length ≤ bound ∧ ∀ k ∈ ks, k.IsInner := by
  induction bound generalizing cs ks with
  | zero => cases h
  | succ bound ih =>
    unfold keys? at h
    obtain ⟨⟨k, stop⟩, hk, hmore⟩ := Option.bind_eq_some_iff.mp h
    have hinner := (key?_eq_some hk).1
    dsimp only at hmore
    split at hmore
    · obtain ⟨⟨ks', rest'⟩, hks, hpair⟩ := Option.bind_eq_some_iff.mp hmore
      obtain ⟨rfl, rfl⟩ := Prod.mk.inj (Option.some.inj hpair)
      obtain ⟨-, hlength, hall⟩ := ih hks
      exact ⟨nofun, Nat.succ_le_succ hlength, List.forall_mem_cons.mpr ⟨hinner, hall⟩⟩
    · obtain ⟨rfl, rfl⟩ := Prod.mk.inj (Option.some.inj hmore)
      exact ⟨nofun, Nat.succ_le_succ (Nat.zero_le _), List.forall_mem_singleton.mpr hinner⟩

lemma isBeyond_dot (rest : List Char) : IsBeyond ('.' :: rest) := by
  constructor
  all_goals
    intro c hc
    rw [← Option.some.inj hc]
    decide

/-- Keys are read again in front of what is neither space nor part of a word nor a dot. -/
lemma keys?_text {bound : Nat} {ks : List Key} (hne : ks ≠ []) (hlength : ks.length ≤ bound)
    (hall : ∀ k ∈ ks, k.IsInner) (hrest : IsBeyond rest) (hdot : rest.head? ≠ some '.') :
    keys? bound (keysText ks ++ rest) = some (ks, rest) := by
  induction ks generalizing bound with
  | nil => exact absurd rfl hne
  | cons k ks ih =>
    obtain ⟨bound, rfl⟩ : ∃ b, bound = b + 1 :=
      Nat.exists_eq_succ_of_ne_zero (Nat.ne_of_gt (Nat.lt_of_lt_of_le (Nat.succ_pos _) hlength))
    obtain ⟨hk, hks⟩ := List.forall_mem_cons.mp hall
    cases ks with
    | nil =>
      rw [keysText, keys?]
      dsimp only
      rw [key?_text hk hrest, Option.bind_eq_bind, Option.bind_some]
      dsimp only
      split
      · exact absurd rfl hdot
      · rfl
    | cons k' ks =>
      have ih : keys? bound (keysText (k' :: ks) ++ rest) = some (k' :: ks, rest) :=
        ih nofun (Nat.le_of_succ_le_succ hlength) hks
      rw [keysText, List.append_assoc, List.cons_append, keys?]
      · dsimp only
        rw [key?_text hk (isBeyond_dot _), Option.bind_eq_bind, Option.bind_some]
        change (keys? bound (keysText (k' :: ks) ++ rest) >>= fun x => some (k :: x.1, x.2)) = _
        rw [ih]
        rfl
      · nofun

/-- A key at the end of a path, which keeps the space around the whole path. -/
structure Key.IsLast (k : Key) : Prop extends k.IsSpelled where
  trimmed : k.inner.after = ""
  outer : ∃ o, k.outer = some o ∧ IsBlank o.before ∧ IsBlank o.after
  place : k.place = none

/-- A path whose keys are spelled. The space in front of the first one belongs to the whole path. -/
structure Path.IsWritten (p : Path) : Prop where
  parents : ∀ k ∈ p.parents, k.IsInner
  key : p.key.IsLast
  first : ∀ k, p.parents.head? = some k → k.inner.before = ""
  single : p.parents = [] → p.key.inner.before = ""
  length : p.parents.length < longestPath

/-- The keys of a path with the space as it is read. -/
def Path.keys (p : Path) : List Key :=
  let outer := p.key.outer.getD ⟨"", ""⟩
  match p.parents with
  | [] => [{ p.key with inner := outer, outer := none, place := none }]
  | first :: more =>
    { first with inner := ⟨outer.before, first.inner.after⟩ } ::
      (more ++ [{ p.key with
        inner := ⟨p.key.inner.before, outer.after⟩, outer := none, place := none }])

lemma Path.ofKeys?_keys {p : Path} (h : p.IsWritten) : Path.ofKeys? p.keys = some p := by
  obtain ⟨parents, name, raw, ⟨before, after⟩, outer, place⟩ := p
  obtain ⟨o, ho, -⟩ := h.key.outer
  have hafter := h.key.trimmed
  have hplace := h.key.place
  dsimp only at ho hafter hplace
  subst ho hafter hplace
  cases parents with
  | nil =>
    have hbefore := h.single rfl
    dsimp only at hbefore
    subst hbefore
    rfl
  | cons first more =>
    obtain ⟨fname, fraw, ⟨fbefore, fafter⟩, fouter, fplace⟩ := first
    have hfirst := h.first _ rfl
    dsimp only at hfirst
    subst hfirst
    unfold Path.keys Path.ofKeys?
    simp

lemma Path.IsWritten.keys {p : Path} (h : p.IsWritten) :
    p.keys ≠ [] ∧ p.keys.length ≤ longestPath ∧ ∀ k ∈ p.keys, k.IsInner := by
  obtain ⟨parents, name, raw, ⟨before, after⟩, outer, place⟩ := p
  obtain ⟨o, ho, hobefore, hoafter⟩ := h.key.outer
  have hkey := h.key
  have hlength := h.length
  dsimp only at ho hlength
  subst ho
  cases parents with
  | nil =>
    refine ⟨nofun, Nat.succ_le_of_lt hlength, List.forall_mem_singleton.mpr ?_⟩
    exact { raw := hkey.raw, before := hobefore, after := hoafter, outer := rfl, place := rfl }
  | cons first more =>
    obtain ⟨hfirst, hmore⟩ := List.forall_mem_cons.mp h.parents
    refine ⟨nofun, ?_, List.forall_mem_cons.mpr ⟨?_, List.forall_mem_append.mpr
      ⟨hmore, List.forall_mem_singleton.mpr ?_⟩⟩⟩
    · simpa [Path.keys, Nat.succ_le_iff] using hlength
    · exact { raw := hfirst.raw, before := hobefore, after := hfirst.after, outer := hfirst.outer,
              place := hfirst.place }
    · exact { raw := hkey.raw, before := hkey.before, after := hoafter, outer := rfl, place := rfl }

/-- What a reader of paths gives is written. -/
lemma Path.isWritten_of_ofKeys? {p : Path} {ks : List Key} (h : Path.ofKeys? ks = some p)
    (hlength : ks.length ≤ longestPath) (hall : ∀ k ∈ ks, k.IsInner) : p.IsWritten := by
  match ks with
  | [] => cases h
  | [k] =>
    obtain rfl := Option.some.inj h
    have hk := hall k List.mem_cons_self
    exact { parents := nofun, first := nofun, single := fun _ => rfl
            key := { raw := hk.raw, before := isBlank_empty, after := isBlank_empty, trimmed := rfl
                     outer := ⟨_, rfl, hk.before, hk.after⟩, place := hk.place }
            length := Nat.lt_of_lt_of_le Nat.zero_lt_one hlength }
  | first :: k :: more =>
    unfold Path.ofKeys? at h
    obtain ⟨last, hlast, hp⟩ := Option.bind_eq_some_iff.mp h
    obtain rfl := Option.some.inj hp
    obtain ⟨hfirst, hmore⟩ := List.forall_mem_cons.mp hall
    have hlastmem := List.mem_of_getLast? hlast
    have hkey := hmore last hlastmem
    refine { parents := List.forall_mem_cons.mpr
               ⟨?_, fun k hk => hmore k (List.dropLast_subset _ hk)⟩
             first := ?_, single := nofun
             key := { raw := hkey.raw, before := hkey.before, after := isBlank_empty, trimmed := rfl
                      outer := ⟨_, rfl, hfirst.before, hkey.after⟩, place := hkey.place }
             length := ?_ }
    · exact { raw := hfirst.raw, before := isBlank_empty, after := hfirst.after
              outer := hfirst.outer, place := hfirst.place }
    · rintro _ ⟨⟩
      rfl
    · change (k :: more).dropLast.length + 1 < longestPath
      rw [List.length_cons, List.length_cons] at hlength
      rw [List.length_dropLast, List.length_cons]
      exact Nat.lt_of_succ_le hlength

lemma Path.isWritten_of_path? {p : Path} (h : path? cs = some (p, rest)) : p.IsWritten := by
  obtain ⟨⟨ks, rest'⟩, hks, hp⟩ := Option.bind_eq_some_iff.mp h
  obtain ⟨p', hp', hpair⟩ := Option.bind_eq_some_iff.mp hp
  obtain ⟨rfl, -⟩ := Prod.mk.inj (Option.some.inj hpair)
  obtain ⟨-, hlength, hall⟩ := keys?_eq_some hks
  exact Path.isWritten_of_ofKeys? hp' hlength hall

/-- Keys behind the first one are written with the space in front of them. -/
lemma map_zipIdx_parents (ks : List Key) (i : Nat) :
    ((ks.zipIdx (i + 1)).map fun (k, i) =>
      (if i = 0 then "" else k.inner.before) ++ k.raw ++ k.inner.after ++ ".") =
    ks.map fun k => k.text ++ "." := by
  induction ks generalizing i with
  | nil => rfl
  | cons k ks ih =>
    rw [List.zipIdx_cons, List.map_cons, List.map_cons, ih]
    rfl

lemma keysText_append (ks : List Key) (k : Key) :
    keysText (ks ++ [k]) = (ks.flatMap fun k => (k.text ++ ".").toList) ++ k.text.toList := by
  induction ks with
  | nil => rfl
  | cons first ks ih =>
    obtain ⟨k', more, hmore⟩ : ∃ k' more, ks ++ [k] = k' :: more := by
      cases ks with
      | nil => exact ⟨_, _, rfl⟩
      | cons k' more => exact ⟨_, _, rfl⟩
    rw [hmore] at ih
    rw [List.cons_append, hmore, keysText, ih]
    · simp
    · nofun

lemma Path.toList_write {p : Path} (h : p.IsWritten) (standard : Around) :
    (p.write standard).toList = keysText p.keys := by
  obtain ⟨parents, name, raw, ⟨before, after⟩, outer, place⟩ := p
  obtain ⟨o, ho, -⟩ := h.key.outer
  dsimp only at ho
  subst ho
  cases parents with
  | nil => simp [Path.write, Path.keys, keysText, Key.text]
  | cons first more =>
    have hfirst := h.first first rfl
    unfold Path.write Path.keys
    dsimp only
    rw [List.zipIdx_cons, List.map_cons, map_zipIdx_parents, ← List.cons_append, keysText_append]
    simp [Key.text, String.toList_join, List.flatMap_map]

/-- **Paths are read again.** What a written path is printed as gives the same path in front of what
may follow it. -/
lemma path?_write {p : Path} (h : p.IsWritten) (standard : Around) (hrest : IsBeyond rest)
    (hdot : rest.head? ≠ some '.') :
    path? ((p.write standard).toList ++ rest) = some (p, rest) := by
  obtain ⟨hne, hlength, hall⟩ := h.keys
  rw [Path.toList_write h, path?, keys?_text hne hlength hall hrest hdot, Option.bind_eq_bind,
    Option.bind_some]
  dsimp only
  rw [Path.ofKeys?_keys h]
  rfl

end CrudScaffold.Toml
