import Mathlib.Data.List.Induction
import Mathlib.Data.List.Nodup
import Mathlib.Tactic.SplitIfs

/-!
# Lists

Facts about lists that several parts of the theory share: first occurrences, tables that are
searched from the front, parts between separators, and two lists that are picked from the same one.
-/

namespace CrudScaffold

/-! ### First occurrences -/

section FirstOccurrences

variable {α : Type*} [DecidableEq α]

/-- A list without repetition is the list of its first occurrences. -/
lemma eraseDups_eq_self {l : List α} (h : l.Nodup) : l.eraseDups = l := by
  induction l with
  | nil => rfl
  | cons a l ih =>
    obtain ⟨ha, hl⟩ := List.nodup_cons.mp h
    have hf : l.filter (fun b => !b == a) = l := by
      refine List.filter_eq_self.mpr fun b hb => ?_
      have hba : b ≠ a := fun e => ha (e ▸ hb)
      simpa using hba
    rw [List.eraseDups_cons, hf, ih hl]

/-- One element more is a first occurrence if it is not there yet. -/
lemma eraseDups_append_singleton (l : List α) (a : α) :
    (l ++ [a]).eraseDups = if a ∈ l then l.eraseDups else l.eraseDups ++ [a] := by
  rw [List.eraseDups_append]
  by_cases h : a ∈ l
  · have hr : [a].removeAll l = [] := by rw [List.cons_removeAll]; simp [h]
    simp [hr, h]
  · have hr : [a].removeAll l = [a] := by rw [List.cons_removeAll]; simp [h]
    simp [hr, h, List.eraseDups_cons]

/-- There are at most as many first occurrences as there are elements. -/
lemma length_eraseDups_le (l : List α) : l.eraseDups.length ≤ l.length := by
  induction l using List.reverseRecOn with
  | nil => exact Nat.le_refl 0
  | append_singleton l a ih =>
    rw [eraseDups_append_singleton, List.length_append, List.length_singleton]
    split_ifs
    · omega
    · rw [List.length_append, List.length_singleton]
      omega

/-- Every element is a first occurrence exactly if there is no repetition. -/
lemma length_eraseDups_eq_iff {l : List α} : l.eraseDups.length = l.length ↔ l.Nodup := by
  induction l using List.reverseRecOn with
  | nil => exact ⟨fun _ => List.nodup_nil, fun _ => rfl⟩
  | append_singleton l a ih =>
    rw [eraseDups_append_singleton, List.length_append, List.length_singleton,
      List.nodup_append_comm, List.singleton_append, List.nodup_cons]
    split_ifs with ha
    · have hle := length_eraseDups_le l
      exact ⟨fun h => by omega, fun h => absurd ha h.1⟩
    · rw [List.length_append, List.length_singleton, Nat.add_right_cancel_iff, ih]
      exact ⟨fun h => ⟨ha, h⟩, fun h => h.2⟩

/-- First occurrences can be taken block by block if different blocks have nothing in common. -/
lemma eraseDups_flatMap {β : Type*} [DecidableEq β] {f : α → List β} (hf : ∀ a, (f a).Nodup)
    (hd : ∀ a a', a ≠ a' → List.Disjoint (f a) (f a')) (l : List α) :
    (l.flatMap f).eraseDups = l.eraseDups.flatMap f := by
  induction l using List.reverseRecOn with
  | nil => rfl
  | append_singleton l a ih =>
    rw [List.flatMap_append, List.flatMap_singleton, List.eraseDups_append, ih,
      eraseDups_append_singleton]
    by_cases h : a ∈ l
    · have hr : (f a).removeAll (l.flatMap f) = [] := by
        rw [List.removeAll, List.filter_eq_nil_iff]
        intro b hb
        simpa using ⟨a, h, hb⟩
      rw [hr, if_pos h]
      simp
    · have hr : (f a).removeAll (l.flatMap f) = f a := by
        rw [List.removeAll, List.filter_eq_self]
        intro b hb
        have hn : b ∉ l.flatMap f := by
          rintro hm
          obtain ⟨a', ha', hb'⟩ := List.mem_flatMap.mp hm
          exact hd a a' (fun e => h (e ▸ ha')) hb hb'
        simpa using hn
      rw [hr, if_neg h, eraseDups_eq_self (hf a), List.flatMap_append, List.flatMap_singleton]

/-- Elements are new and different if the first one is new and the others are new behind it. -/
lemma nodup_cons_and_notMem_iff {β : Type*} {a : β} {l seen : List β} :
    ((a :: l).Nodup ∧ ∀ b ∈ a :: l, b ∉ seen) ↔
      a ∉ seen ∧ l.Nodup ∧ ∀ b ∈ l, b ∉ a :: seen := by
  rw [List.nodup_cons, List.forall_mem_cons]
  constructor
  · rintro ⟨⟨ha, hl⟩, hseen, hrest⟩
    refine ⟨hseen, hl, fun b hb hmem => ?_⟩
    rcases List.mem_cons.mp hmem with rfl | hmem
    · exact ha hb
    · exact hrest b hb hmem
  · rintro ⟨hseen, hl, hrest⟩
    refine ⟨⟨fun ha => hrest a ha List.mem_cons_self, hl⟩, hseen, fun b hb hmem => ?_⟩
    exact hrest b hb (List.mem_cons_of_mem a hmem)

end FirstOccurrences

/-! ### Tables -/

/-- A table is searched from the front. -/
lemma lookup_cons_ite {α β : Type*} [BEq α] [LawfulBEq α] [DecidableEq α] (k q : α) (v : β)
    (l : List (α × β)) :
    ((k, v) :: l).lookup q = if q = k then some v else l.lookup q := by
  by_cases hq : q = k
  · subst hq
    simp
  · have hb : (q == k) = false := beq_false_of_ne hq
    simp [List.lookup_cons, hb, hq]

/-- No value is found for a key that no entry has. -/
lemma lookup_eq_none_of_notMem {α β : Type*} [BEq α] [LawfulBEq α] {l : List (α × β)} {k : α}
    (h : k ∉ l.map Prod.fst) : l.lookup k = none := by
  refine List.lookup_eq_none_iff.mpr fun e he => bne_iff_ne.mpr fun hk => h ?_
  exact hk ▸ List.mem_map_of_mem he

/-- Among entries with different keys each one is found. -/
lemma lookup_eq_some_of_mem {α β : Type*} [BEq α] [LawfulBEq α] {l : List (α × β)}
    (h : (l.map Prod.fst).Nodup) {e : α × β} (he : e ∈ l) : l.lookup e.1 = some e.2 := by
  induction l with
  | nil => cases he
  | cons a l ih =>
    obtain ⟨ha, hl⟩ := List.nodup_cons.mp h
    rcases List.mem_cons.mp he with rfl | he
    · rw [List.lookup_cons, beq_self_eq_true]
    · have hne : e.1 ≠ a.1 := fun hk => ha (hk ▸ List.mem_map_of_mem he)
      rw [List.lookup_cons, beq_false_of_ne hne, ih hl he]

/-- The order of entries with different keys does not matter. -/
lemma lookup_perm {α β : Type*} [BEq α] [LawfulBEq α] {l l' : List (α × β)} (hperm : l.Perm l')
    (h : (l.map Prod.fst).Nodup) (k : α) : l.lookup k = l'.lookup k := by
  have hkeys : (l.map Prod.fst).Perm (l'.map Prod.fst) := hperm.map Prod.fst
  by_cases hk : k ∈ l.map Prod.fst
  · obtain ⟨e, he, rfl⟩ := List.mem_map.mp hk
    rw [lookup_eq_some_of_mem h he,
      lookup_eq_some_of_mem (hkeys.nodup_iff.mp h) (hperm.mem_iff.mp he)]
  · rw [lookup_eq_none_of_notMem hk, lookup_eq_none_of_notMem (hkeys.mem_iff.not.mp hk)]

/-- Of elements with different keys one is picked by its key. -/
lemma flatMap_ite_key {α β γ : Type*} [DecidableEq β] {key : α → β} {l : List α}
    (h : (l.map key).Nodup) {a : α} (ha : a ∈ l) (f : α → List γ) :
    (l.flatMap fun b => if key b = key a then f b else []) = f a := by
  obtain ⟨before, after, rfl⟩ := List.append_of_mem ha
  rw [List.map_append, List.map_cons, List.nodup_append', List.nodup_cons] at h
  obtain ⟨-, ⟨hafter, -⟩, hbefore⟩ := h
  have hnone : ∀ part : List α, key a ∉ part.map key →
      (part.flatMap fun b => if key b = key a then f b else []) = [] := by
    intro part hpart
    refine List.flatMap_eq_nil_iff.mpr fun b hb => if_neg fun hkey => ?_
    exact hpart (hkey ▸ List.mem_map_of_mem hb)
  rw [List.flatMap_append, List.flatMap_cons, if_pos rfl, hnone after hafter,
    hnone before fun hmem => hbefore hmem List.mem_cons_self, List.nil_append, List.append_nil]
/-- In a list without repetition the last place of an element is its first one. -/
lemma lookup_reverse_zipIdx {l : List String} (h : l.Nodup) (p : String) :
    l.zipIdx.reverse.lookup p = l.idxOf? p := by
  induction l using List.reverseRecOn with
  | nil => rfl
  | append_singleton l a ih =>
    obtain ⟨hl, -, hd⟩ := List.nodup_append.mp h
    have ha : a ∉ l := fun hm => hd a hm a (by simp) rfl
    have hidx : (l ++ [a]).idxOf? p = (l.idxOf? p).or (if a = p then some l.length else none) := by
      by_cases hap : a = p <;> simp [List.idxOf?, List.findIdx?_append, hap]
    rw [List.zipIdx_append, List.reverse_append, hidx]
    by_cases hap : a = p
    · subst hap
      simp [List.idxOf?_eq_none_iff.mpr ha]
    · have hb : (p == a) = false := by simpa using Ne.symm hap
      simp [hap, hb, List.lookup_cons, ih hl]

/-! ### One element -/

/-- To change one element is to put the changed one in its place. -/
lemma modify_eq_set {α : Type*} {l : List α} {i : Nat} {a : α} (h : l[i]? = some a) (f : α → α) :
    l.modify i f = l.set i (f a) := by
  rw [List.modify_eq_set_getElem?, h]
  rfl

/-! ### Separators -/

/-- A row of elements with a property is taken up to the first element without it. -/
lemma takeWhile_append_of_head {α : Type*} {p : α → Bool} {l rest : List α} (h : ∀ a ∈ l, p a)
    (hrest : ∀ a, rest.head? = some a → p a = false) :
    (l ++ rest).takeWhile p = l ∧ (l ++ rest).dropWhile p = rest := by
  rw [List.takeWhile_append_of_pos h, List.dropWhile_append_of_pos h]
  cases rest with
  | nil => simp
  | cons a rest => simp [hrest a rfl]

/-- A list is cut at the first separator in one way only. -/
lemma append_cons_inj_of_notMem_left {α : Type*} {a : α} {x y r t : List α} (hx : a ∉ x)
    (hy : a ∉ y) (h : x ++ a :: r = y ++ a :: t) : x = y ∧ r = t := by
  rcases List.append_eq_append_iff.mp h with ⟨c, rfl, hc⟩ | ⟨c, rfl, hc⟩
  · cases c with
    | nil => exact ⟨by simp, by simpa using hc⟩
    | cons b c =>
      have hb : a = b := (List.cons.inj hc).1
      exact absurd (by simp [hb]) hy
  · cases c with
    | nil => exact ⟨by simp, by simpa using hc.symm⟩
    | cons b c =>
      have hb : a = b := (List.cons.inj hc).1
      exact absurd (by simp [hb]) hx

/-- A list is cut at the last separator in one way only. -/
lemma append_cons_inj_of_notMem_right {α : Type*} {a : α} {x y r t : List α} (hr : a ∉ r)
    (ht : a ∉ t) (h : x ++ a :: r = y ++ a :: t) : x = y ∧ r = t := by
  have hreverse : r.reverse ++ a :: x.reverse = t.reverse ++ a :: y.reverse := by
    simpa using congrArg List.reverse h
  obtain ⟨hrt, hxy⟩ := append_cons_inj_of_notMem_left (List.mem_reverse.not.mpr hr)
    (List.mem_reverse.not.mpr ht) hreverse
  exact ⟨List.reverse_injective hxy, List.reverse_injective hrt⟩

/-- A separator that is not in the front of a list is behind it. -/
lemma cons_suffix_of_suffix_append {α : Type*} {a : α} {x y r : List α} (hx : a ∉ x)
    (h : a :: r <:+ x ++ y) : a :: r <:+ y := by
  induction x with
  | nil => exact h
  | cons b x ih =>
    obtain ⟨hb, hx⟩ := not_or.mp (List.mem_cons.not.mp hx)
    rcases List.suffix_cons_iff.mp h with heq | h
    · exact absurd (List.cons.inj heq).1 hb
    · exact ih hx h

/-- What stands before the first separator belongs to the first part. -/
lemma splitOn_append_of_notMem {α : Type*} [BEq α] [LawfulBEq α] {a : α} {x : List α} (hx : a ∉ x)
    (y : List α) : (x ++ y).splitOn a = (y.splitOn a).modifyHead (x ++ ·) := by
  obtain ⟨c, cs, hc⟩ := List.exists_cons_of_ne_nil (List.splitOn_ne_nil a y)
  induction x with
  | nil => simp [hc]
  | cons b x ih =>
    have hb : (b == a) = false := beq_false_of_ne fun hb => hx (hb ▸ List.mem_cons_self)
    have hrest := ih fun ha => hx (List.mem_cons_of_mem b ha)
    rw [List.cons_append, List.splitOn_cons_eq_if_modifyHead, hb, hrest, hc]
    rfl

/-- The parts of a list hold nothing but elements of it other than the separator. -/
lemma of_mem_splitOn {α : Type*} [BEq α] [LawfulBEq α] {a c : α} {l part : List α}
    (h : part ∈ l.splitOn a) (hc : c ∈ part) : c ∈ l ∧ c ≠ a := by
  induction l generalizing part with
  | nil =>
    rw [List.splitOn_nil, List.mem_singleton] at h
    exact absurd (h ▸ hc) List.not_mem_nil
  | cons b l ih =>
    have htail : ∀ {part}, part ∈ l.splitOn a → c ∈ part → c ∈ b :: l ∧ c ≠ a :=
      fun h hc => (ih h hc).imp_left (List.mem_cons_of_mem b)
    obtain ⟨d, ds, hd⟩ := List.exists_cons_of_ne_nil (List.splitOn_ne_nil a l)
    rw [List.splitOn_cons_eq_if_modifyHead, hd] at h
    split_ifs at h with hb
    · rcases List.mem_cons.mp h with rfl | h
      · exact absurd hc List.not_mem_nil
      · exact htail (hd ▸ h) hc
    · rcases List.mem_cons.mp h with rfl | h
      · rcases List.mem_cons.mp hc with rfl | hc
        · exact ⟨List.mem_cons_self, fun he => hb (beq_iff_eq.mpr he)⟩
        · exact htail (hd ▸ List.mem_cons_self) hc
      · exact htail (hd ▸ List.mem_cons_of_mem d h) hc

/-- What is put together with a separator, with another separator in its place. -/
lemma map_intercalate {α : Type*} [BEq α] [LawfulBEq α] {ws : List (List α)} {sep : α}
    (h : ∀ w ∈ ws, sep ∉ w) (sep' : α) :
    (List.intercalate [sep] ws).map (fun c => if c == sep then sep' else c) =
      List.intercalate [sep'] ws := by
  have hword : ∀ w ∈ ws, w.map (fun c => if c == sep then sep' else c) = w := by
    intro w hw
    refine (List.map_congr_left fun c hc => ?_).trans (List.map_id w)
    have hsep : (c == sep) = false := beq_false_of_ne fun he => h w hw (he ▸ hc)
    simp [hsep]
  induction ws with
  | nil => rfl
  | cons w ws ih =>
    have hrest := ih (fun v hv => h v (List.mem_cons_of_mem w hv))
      fun v hv => hword v (List.mem_cons_of_mem w hv)
    cases ws with
    | nil => simpa using hword w List.mem_cons_self
    | cons v ws =>
      rw [List.intercalate_cons_cons, List.intercalate_cons_cons, List.map_append, List.map_append,
        hrest, hword w List.mem_cons_self]
      simp

/-- What is put together consists of what it is put together from, and separators. -/
lemma mem_intercalate {α : Type*} {ws : List (List α)} {sep c : α}
    (hc : c ∈ List.intercalate [sep] ws) : c = sep ∨ ∃ w ∈ ws, c ∈ w := by
  induction ws with
  | nil => exact absurd hc List.not_mem_nil
  | cons w ws ih =>
    cases ws with
    | nil => exact .inr ⟨w, List.mem_cons_self, by simpa using hc⟩
    | cons v ws =>
      rw [List.intercalate_cons_cons, List.append_assoc] at hc
      rcases List.mem_append.mp hc with hc | hc
      · exact .inr ⟨w, List.mem_cons_self, hc⟩
      · rcases List.mem_cons.mp hc with hc | hc
        · exact .inl hc
        · exact (ih hc).imp_right fun ⟨u, hu, hcu⟩ => ⟨u, List.mem_cons_of_mem w hu, hcu⟩

/-- What is put together with separators is what it is put together from, apart from them. -/
lemma filter_intercalate {α : Type*} [DecidableEq α] {ws : List (List α)} {sep : α}
    (h : ∀ w ∈ ws, sep ∉ w) : (List.intercalate [sep] ws).filter (· ≠ sep) = ws.flatten := by
  have hword : ∀ w ∈ ws, w.filter (· ≠ sep) = w := by
    intro w hw
    rw [List.filter_eq_self]
    intro c hc
    simpa using fun hsep : c = sep => h w hw (hsep ▸ hc)
  induction ws with
  | nil => rfl
  | cons w ws ih =>
    have hrest := ih (fun v hv => h v (List.mem_cons_of_mem w hv))
      fun v hv => hword v (List.mem_cons_of_mem w hv)
    cases ws with
    | nil => simpa using hword w List.mem_cons_self
    | cons v ws =>
      rw [List.intercalate_cons_cons, List.filter_append, List.filter_append, hrest,
        hword w List.mem_cons_self, List.filter_cons_of_neg (by simp), List.filter_nil,
        List.append_nil]
      rfl

/-! ### Picking twice -/

/-- Two lists that are picked from the same one stand side by side if both picks always succeed
together. -/
lemma forall₂_filterMap {α β γ : Type*} {R : β → γ → Prop} {f : α → Option β} {g : α → Option γ}
    {l : List α} (h : ∀ a ∈ l, ∃ b c, f a = some b ∧ g a = some c ∧ R b c) :
    List.Forall₂ R (l.filterMap f) (l.filterMap g) := by
  induction l with
  | nil => exact .nil
  | cons a l ih =>
    obtain ⟨b, c, hf, hg, hR⟩ := h a (by simp)
    rw [List.filterMap_cons_some hf, List.filterMap_cons_some hg]
    exact .cons hR (ih fun a' ha' => h a' (List.mem_cons_of_mem a ha'))

end CrudScaffold
