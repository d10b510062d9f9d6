import CrudScaffold.Toml.Document
import CrudScaffold.Proofs.Toml.Inline

/-!
# Statements are read again

A statement is printed on a line of its own, behind what stood in front of it. What a reader of
documents gives is written in this sense (`Toml.isWritten_of_statements?`), and the lines of written
statements are read as those statements again, with the same rest at the end of the document
(`Toml.statements?_text`).
-/

namespace CrudScaffold.Toml

variable {cs rest : List Char} {before after : String}

/-! ### Where statements begin -/

/-- Characters of words are letters, digits, a dash or an underscore. -/
lemma bounds_of_isWordChar {c : Char} (h : isWordChar c) : 45 ≤ c.toNat ∧ c.toNat ≤ 122 := by
  have hnat : ∀ a b : UInt32, a ≤ b ↔ a.toNat ≤ b.toNat := fun _ _ => Iff.rfl
  unfold isWordChar Char.isAlphanum Char.isAlpha Char.isUpper Char.isLower Char.isDigit at h
  simp only [Bool.or_eq_true, Bool.and_eq_true, decide_eq_true_eq, beq_iff_eq, ge_iff_le, hnat] at h
  rcases h with ((⟨⟨h₁, h₂⟩ | ⟨h₁, h₂⟩⟩ | ⟨h₁, h₂⟩) | rfl) | rfl
  all_goals first
    | decide
    | exact ⟨Nat.le_trans (by decide) h₁, Nat.le_trans h₂ (by decide)⟩

lemma isPlain_of_isWordChar {c : Char} (h : isWordChar c) : isPlain c ∧ c ∉ stops ∧ c ≠ '[' := by
  refine ⟨?_, fun hstop => ?_, ?_⟩
  · obtain ⟨hlow, hhigh⟩ := bounds_of_isWordChar h
    have hspace : ' ' ≤ c := by
      change ' '.toNat ≤ c.toNat
      exact Nat.le_trans (by decide) hlow
    have hdelete : c ≠ '\x7F' := by
      rintro rfl
      cases h
    simp [isPlain, hspace, hdelete]
  · have hno : ∀ d ∈ stops, isWordChar d = false := List.all_iff_forall_prop.mp (by decide)
    rw [hno c hstop] at h
    cases h
  · rintro rfl
    cases h

lemma head_of_name? {c : Char} {x : String × List Char} (h : name? (c :: cs) = some x) :
    isPlain c ∧ c ∉ stops ∧ c ≠ '[' := by
  by_cases hquote : c = '"' ∨ c = '\''
  · rcases hquote with rfl | rfl <;> decide
  · by_cases hword : isWordChar c
    · exact isPlain_of_isWordChar hword
    · have hnone : name? (c :: cs) = none := by
        rw [name?]
        · rw [List.takeWhile_cons_of_neg hword]
        · rintro _ ⟨⟩
          exact hquote (.inl rfl)
        · rintro _ ⟨⟩
          exact hquote (.inr rfl)
      rw [hnone] at h
      cases h

/-- What spells a name begins with a quote or a character of a word. -/
lemma Spells.head {raw name : String} (h : Spells raw name) :
    ∃ c t, raw.toList = c :: t ∧ isPlain c ∧ c ∉ stops ∧ c ≠ '[' := by
  have hname := h [] nofun
  rw [List.append_nil] at hname
  cases hraw : raw.toList with
  | nil =>
    rw [hraw] at hname
    cases hname
  | cons c t =>
    rw [hraw] at hname
    refine ⟨c, t, rfl, ?_⟩
    exact head_of_name? hname

/-- A path that is written begins with the space in front of it and the spelling of a key. -/
lemma Path.IsWritten.exists_head {p : Path} (h : p.IsWritten) (standard : Around) :
    ∃ o c t, p.key.outer = some o ∧
      (p.write standard).toList = o.before.toList ++ c :: t ∧ isPlain c ∧ c ∉ stops ∧ c ≠ '[' := by
  obtain ⟨o, ho, -⟩ := h.key.outer
  obtain ⟨k, more, hkeys, hbefore⟩ : ∃ k more, p.keys = k :: more ∧ k.inner.before = o.before := by
    obtain ⟨_ | ⟨first, parents⟩, key⟩ := p
    · refine ⟨_, _, rfl, ?_⟩
      simp only at ho ⊢
      rw [ho]
      rfl
    · refine ⟨_, _, rfl, ?_⟩
      simp only at ho ⊢
      rw [ho]
      rfl
  obtain ⟨c, t, hraw, hc⟩ := (h.keys.2.2 k (by rw [hkeys]; exact List.mem_cons_self)).raw.head
  refine ⟨o, c, ?_⟩
  rw [Path.toList_write h, hkeys, ← hbefore]
  cases more with
  | nil =>
    refine ⟨t ++ k.inner.after.toList, ho, ?_, hc⟩
    simp [keysText, Key.text, hraw]
  | cons k' more =>
    refine ⟨t ++ k.inner.after.toList ++ '.' :: keysText (k' :: more), ho, ?_, hc⟩
    rw [keysText]
    · simp [Key.text, hraw]
    · exact List.cons_ne_nil _ _

/-! ### Statements -/

/-- What may stand in front of a statement. -/
def IsFront (s : String) : Prop :=
  ∀ rest : List Char, IsStart rest → gap (s.toList ++ rest) = (s, rest)

/-- What may stand behind a statement on its line. -/
def IsRear (s : String) : Prop :=
  ∀ rest : List Char, IsEnd (s.toList ++ '\n' :: rest) ∧
    lineRest? (s.toList ++ '\n' :: rest) = some (s, rest)

/-- A statement that can be printed and read again. -/
inductive Statement.IsWritten : Statement → Prop
  | entry {before : String} {path : Path} {l : Literal} {around : Around} (hbefore : IsFront before)
      (hpath : path.IsWritten) (houter : ∀ o, path.key.outer = some o → o.before = "")
      (hl : l.IsStable literal?) (haround : IsBlank around.before) (hafter : IsRear around.after) :
      IsWritten (.entry before path l around)
  | header {before after : String} {repeated : Bool} {path : Path} (hbefore : IsFront before)
      (hpath : path.IsWritten) (hafter : IsRear after) :
      IsWritten (.header before repeated path after)

/-- A statement as it is written, with its end of the line. -/
def Statement.text : Statement → String
  | .entry before path l around =>
    before ++ path.write ⟨"", ""⟩ ++ "=" ++ around.before ++ l.text ++ around.after ++ "\n"
  | .header before repeated path after =>
    before ++ (if repeated then "[[" ++ path.write ⟨"", ""⟩ ++ "]]"
      else "[" ++ path.write ⟨"", ""⟩ ++ "]") ++ after ++ "\n"

/-- What may stand at the end of a document. -/
def IsTail (s : String) : Prop := gap s.toList = (s, [])

lemma isFront_of_gap {c : Char} (h : gap cs = (before, c :: rest)) (hc : isPlain c) :
    IsFront before :=
  fun _ hrest => gap_again h hc hrest

lemma isRear_of_lineRest? (h : lineRest? cs = some (after, rest)) : IsRear after :=
  (lineRest?_eq_some h).2

/-- Space over several lines has been passed over to its end. -/
lemma isInked_skipGap (inComment : Bool) (cs : List Char) : IsInked (skipGap inComment cs) := by
  fun_induction skipGap inComment cs with
  | case1 =>
    intro d hd
    cases hd
  | case7 inComment c cs _ _ _ hspace =>
    intro d hd
    obtain rfl := Option.some.inj hd
    simpa using hspace
  | _ => assumption

/-- The space in front of the first key belongs to the whole path. -/
lemma Path.outer_of_ofKeys? {p : Path} {k : Key} {more : List Key}
    (h : Path.ofKeys? (k :: more) = some p) {o : Around} (ho : p.key.outer = some o) :
    o.before = k.inner.before := by
  cases more with
  | nil =>
    obtain rfl := Option.some.inj h
    obtain rfl := Option.some.inj ho
    rfl
  | cons k' more =>
    unfold Path.ofKeys? at h
    obtain ⟨last, -, hp⟩ := Option.bind_eq_some_iff.mp h
    obtain rfl := Option.some.inj hp
    obtain rfl := Option.some.inj ho
    rfl

/-- A path in front of which all space has been passed over has none at its beginning. -/
lemma outer_of_path? {p : Path} (h : path? cs = some (p, rest)) (hinked : IsInked cs) :
    (∀ o, p.key.outer = some o → o.before = "") ∧ ∃ c t, cs = c :: t ∧ isPlain c := by
  obtain ⟨⟨ks, cs₁⟩, hkeys, h⟩ := Option.bind_eq_some_iff.mp h
  obtain ⟨p', hp, h⟩ := Option.bind_eq_some_iff.mp h
  obtain ⟨rfl, -⟩ := Prod.mk.inj (Option.some.inj h)
  obtain ⟨⟨k, cs₂⟩, hkey, hmore⟩ := Option.bind_eq_some_iff.mp hkeys
  obtain ⟨more, rfl⟩ : ∃ more, ks = k :: more := by
    dsimp only at hmore
    split at hmore
    · obtain ⟨⟨more, cs₃⟩, -, hmore⟩ := Option.bind_eq_some_iff.mp hmore
      obtain ⟨rfl, -⟩ := Prod.mk.inj (Option.some.inj hmore)
      exact ⟨more, rfl⟩
    · obtain ⟨rfl, -⟩ := Prod.mk.inj (Option.some.inj hmore)
      exact ⟨[], rfl⟩
  obtain ⟨⟨name, stop⟩, hname, hkey⟩ := Option.bind_eq_some_iff.mp hkey
  obtain ⟨rfl, -⟩ := Prod.mk.inj (Option.some.inj hkey)
  rw [skipSpace_eq_self hinked] at hname hp
  refine ⟨fun o ho => ?_, ?_⟩
  · rw [Path.outer_of_ofKeys? hp ho]
    exact written_append [] cs
  · cases cs with
    | nil => cases hname
    | cons c cs => exact ⟨c, cs, rfl, (head_of_name? hname).1⟩

/-- What is read as an entry is written. -/
lemma isWritten_of_assignment? {st : Statement} (hbefore : gap rest = (before, cs))
    {rest' : List Char} (h : assignment? before cs = some (st, rest')) : st.IsWritten := by
  obtain ⟨-, hskip⟩ := Prod.mk.inj hbefore
  have hinked : IsInked cs := hskip ▸ isInked_skipGap false rest
  obtain ⟨⟨path, cs₁⟩, hpath, h⟩ := Option.bind_eq_some_iff.mp h
  dsimp only at h
  split at h
  · obtain ⟨⟨l, stop⟩, hl, h⟩ := Option.bind_eq_some_iff.mp h
    obtain ⟨⟨after, cs₂⟩, hafter, h⟩ := Option.bind_eq_some_iff.mp h
    obtain ⟨rfl, -⟩ := Prod.mk.inj (Option.some.inj h)
    obtain ⟨houter, c, t, rfl, hc⟩ := outer_of_path? hpath hinked
    exact .entry (isFront_of_gap hbefore hc) (Path.isWritten_of_path? hpath) houter
      (isStable_literal?.stable hl (lineRest?_eq_some hafter).1) (isBlank_written_skipSpace _)
      (isRear_of_lineRest? hafter)
  · cases h

lemma isWritten_of_header? {st : Statement} (hbefore : IsFront before) {rest' : List Char}
    (h : header? before cs = some (st, rest')) : st.IsWritten := by
  rw [header?.eq_def] at h
  split at h
  all_goals
    obtain ⟨⟨path, cs₁⟩, hpath, h⟩ := Option.bind_eq_some_iff.mp h
    dsimp only at h
    split at h
    · obtain ⟨⟨after, cs₂⟩, hafter, h⟩ := Option.bind_eq_some_iff.mp h
      obtain ⟨rfl, -⟩ := Prod.mk.inj (Option.some.inj h)
      exact .header hbefore (Path.isWritten_of_path? hpath) (isRear_of_lineRest? hafter)
    · cases h

/-- **What is read is written.** The statements of a document, and what stands at its end, can be
printed and read again. -/
lemma isWritten_of_statements? {fuel : Nat} {statements : List Statement}
    (h : statements? fuel cs = some (statements, after)) :
    (∀ st ∈ statements, st.IsWritten) ∧ IsTail after := by
  induction fuel generalizing cs statements with
  | zero => cases h
  | succ fuel ih =>
    unfold statements? at h
    split at h
    · rename_i before hgap
      obtain ⟨rfl, rfl⟩ := Prod.mk.inj (Option.some.inj h)
      exact ⟨nofun, gap_end hgap⟩
    · rename_i before cs₁ hgap
      obtain ⟨⟨st, cs₂⟩, hst, h⟩ := Option.bind_eq_some_iff.mp h
      obtain ⟨⟨more, after'⟩, hmore, h⟩ := Option.bind_eq_some_iff.mp h
      obtain ⟨rfl, rfl⟩ := Prod.mk.inj (Option.some.inj h)
      obtain ⟨hall, htail⟩ := ih hmore
      have hfront := isFront_of_gap hgap (by decide)
      exact ⟨List.forall_mem_cons.mpr ⟨isWritten_of_header? hfront hst, hall⟩, htail⟩
    · rename_i before cs₁ _ _ hgap
      obtain ⟨⟨st, cs₂⟩, hst, h⟩ := Option.bind_eq_some_iff.mp h
      obtain ⟨⟨more, after'⟩, hmore, h⟩ := Option.bind_eq_some_iff.mp h
      obtain ⟨rfl, rfl⟩ := Prod.mk.inj (Option.some.inj h)
      obtain ⟨hall, htail⟩ := ih hmore
      exact ⟨List.forall_mem_cons.mpr ⟨isWritten_of_assignment? hgap hst, hall⟩, htail⟩

/-! ### Reading what is printed -/

lemma isBeyond_cons {c : Char} (hc : c = '=' ∨ c = ']') (cs : List Char) :
    IsBeyond (c :: cs) ∧ (c :: cs).head? ≠ some '.' := by
  refine ⟨⟨fun d hd => ?_, fun d hd => ?_⟩, ?_⟩
  · obtain rfl := Option.some.inj hd
    rcases hc with rfl | rfl <;> rfl
  · obtain rfl := Option.some.inj hd
    rcases hc with rfl | rfl <;> rfl
  · rcases hc with rfl | rfl <;> nofun

lemma assignment?_eq {cs₁ : List Char} {path : Path} (hpath : path? cs = some (path, '=' :: cs₁)) :
    assignment? before cs = literal? (skipSpace cs₁) >>= fun x => lineRest? x.2 >>= fun y =>
      some (.entry before path x.1 ⟨written cs₁ (skipSpace cs₁), y.1⟩, y.2) := by
  rw [assignment?, hpath]
  rfl

/-- An entry is read again in front of anything. -/
lemma assignment?_text {path : Path} {l : Literal} {around : Around}
    (h : (Statement.entry before path l around).IsWritten) (rest : List Char) :
    ∃ c cs, gap ((Statement.entry before path l around).text.toList ++ rest) = (before, c :: cs) ∧
      c ≠ '[' ∧ assignment? before (c :: cs) = some (.entry before path l around, rest) := by
  obtain ⟨hbefore, hpath, houter, hl, haround, hafter⟩ := h
  obtain ⟨o, c, t, ho, hwrite, -, hstop, hbracket⟩ := hpath.exists_head ⟨"", ""⟩
  rw [houter o ho, String.toList_empty, List.nil_append] at hwrite
  obtain ⟨hend, hrear⟩ := hafter rest
  have hinked : IsInked (l.text.toList ++ (around.after.toList ++ '\n' :: rest)) := by
    obtain ⟨d, u, htext, hd⟩ := hl.head
    intro e he
    rw [htext] at he
    obtain rfl := Option.some.inj he
    by_contra hspace
    exact hd (isSpace_mem_stops (by simpa using hspace)).1
  let line := around.before.toList ++ (l.text.toList ++ (around.after.toList ++ '\n' :: rest))
  have htext : (Statement.entry before path l around).text.toList ++ rest =
      before.toList ++ (c :: (t ++ '=' :: line)) := by
    simp [Statement.text, hwrite, line]
  obtain ⟨hbeyond, hdot⟩ := isBeyond_cons (.inl rfl) line
  have hread := path?_write hpath ⟨"", ""⟩ hbeyond hdot
  rw [hwrite, List.cons_append] at hread
  refine ⟨c, t ++ '=' :: line, ?_, hbracket, ?_⟩
  · rw [htext]
    exact hbefore _ (isStart_of_notMem_stops hstop _)
  · rw [assignment?_eq hread, skipSpace_append haround hinked, hl.again _ hend, written_append]
    change (lineRest? (around.after.toList ++ '\n' :: rest) >>= _) = _
    rw [hrear]
    simp

lemma header?_single {cs₁ : List Char} {path : Path} (hbracket : cs.head? ≠ some '[')
    (hpath : path? cs = some (path, ']' :: cs₁)) :
    header? before cs = lineRest? cs₁ >>= fun x =>
      some (.header before false path x.1, x.2) := by
  rw [header?.eq_def]
  split
  · exact absurd rfl hbracket
  · rw [hpath]
    rfl

lemma header?_double {cs₁ : List Char} {path : Path}
    (hpath : path? cs = some (path, ']' :: ']' :: cs₁)) :
    header? before ('[' :: cs) = lineRest? cs₁ >>= fun x =>
      some (.header before true path x.1, x.2) := by
  rw [header?, hpath]
  rfl

/-- A header is read again in front of anything. -/
lemma header?_text {path : Path} {repeated : Bool}
    (h : (Statement.header before repeated path after).IsWritten) (rest : List Char) :
    ∃ cs, gap ((Statement.header before repeated path after).text.toList ++ rest) =
        (before, '[' :: cs) ∧
      header? before cs = some (.header before repeated path after, rest) := by
  obtain ⟨hbefore, hpath, hafter⟩ : IsFront before ∧ path.IsWritten ∧ IsRear after := by
    cases h with
    | header hbefore hpath hafter => exact ⟨hbefore, hpath, hafter⟩
  obtain ⟨-, hrear⟩ := hafter rest
  let line := after.toList ++ '\n' :: rest
  cases repeated with
  | false =>
    have htext : (Statement.header before false path after).text.toList ++ rest =
        before.toList ++ '[' :: ((path.write ⟨"", ""⟩).toList ++ ']' :: line) := by
      simp [Statement.text, line]
    obtain ⟨hbeyond, hdot⟩ := isBeyond_cons (.inr rfl) line
    have hbracket : ((path.write ⟨"", ""⟩).toList ++ ']' :: line).head? ≠ some '[' := by
      obtain ⟨o, c, t, ho, hwrite, -, -, hbracket⟩ := hpath.exists_head ⟨"", ""⟩
      obtain ⟨o', ho', hblank, -⟩ := hpath.key.outer
      obtain rfl := Option.some.inj (ho.symm.trans ho')
      rw [hwrite]
      cases hspace : o.before.toList with
      | nil =>
        rintro ⟨⟩
        exact hbracket rfl
      | cons d u =>
        rintro ⟨⟩
        exact absurd (hblank '[' (by rw [hspace]; exact List.mem_cons_self)) (by decide)
    refine ⟨(path.write ⟨"", ""⟩).toList ++ ']' :: line, ?_, ?_⟩
    · rw [htext]
      exact hbefore _ (isStart_of_notMem_stops (by decide) _)
    · rw [header?_single hbracket (path?_write hpath ⟨"", ""⟩ hbeyond hdot), hrear]
      rfl
  | true =>
    have htext : (Statement.header before true path after).text.toList ++ rest =
        before.toList ++ '[' :: '[' :: ((path.write ⟨"", ""⟩).toList ++ ']' :: ']' :: line) := by
      simp [Statement.text, line]
    obtain ⟨hbeyond, hdot⟩ := isBeyond_cons (.inr rfl) (']' :: line)
    refine ⟨'[' :: ((path.write ⟨"", ""⟩).toList ++ ']' :: ']' :: line), ?_, ?_⟩
    · rw [htext]
      exact hbefore _ (isStart_of_notMem_stops (by decide) _)
    · rw [header?_double (path?_write hpath ⟨"", ""⟩ hbeyond hdot), hrear]
      rfl

/-- **Statements are read again.** The lines of written statements are read as those statements,
with what stands at the end of the document. -/
lemma statements?_text {fuel : Nat} {statements : List Statement}
    (hall : ∀ st ∈ statements, st.IsWritten) (hafter : IsTail after)
    (hfuel : statements.length < fuel) :
    statements? fuel ((statements.flatMap fun st => st.text.toList) ++ after.toList) =
      some (statements, after) := by
  induction statements generalizing fuel with
  | nil =>
    obtain ⟨fuel, rfl⟩ : ∃ f, fuel = f + 1 := Nat.exists_eq_succ_of_ne_zero (Nat.ne_of_gt hfuel)
    rw [List.flatMap_nil, List.nil_append, statements?, hafter]
  | cons st statements ih =>
    obtain ⟨fuel, rfl⟩ : ∃ f, fuel = f + 1 :=
      Nat.exists_eq_succ_of_ne_zero (Nat.ne_of_gt (Nat.lt_of_le_of_lt (Nat.zero_le _) hfuel))
    obtain ⟨hst, hmore⟩ := List.forall_mem_cons.mp hall
    have ih := ih hmore (Nat.lt_of_succ_lt_succ hfuel)
    rw [List.flatMap_cons, List.append_assoc, statements?]
    cases st with
    | entry before path l around =>
      obtain ⟨c, cs, hgap, hbracket, hread⟩ := assignment?_text hst
        ((statements.flatMap fun st => st.text.toList) ++ after.toList)
      rw [hgap]
      split
      · rename_i he
        cases (Prod.mk.inj he).2
      · rename_i he
        exact absurd (List.cons.inj (Prod.mk.inj he).2).1 hbracket
      · rename_i before' cs' _ _ he
        obtain ⟨rfl, rfl⟩ := Prod.mk.inj he
        rw [hread, Option.bind_eq_bind, Option.bind_some]
        dsimp only
        rw [ih]
        rfl
    | header before repeated path after =>
      obtain ⟨cs, hgap, hread⟩ := header?_text hst
        ((statements.flatMap fun st => st.text.toList) ++ _)
      rw [hgap]
      change (header? before cs >>= _) = _
      rw [hread, Option.bind_eq_bind, Option.bind_some]
      dsimp only
      rw [ih]
      rfl

end CrudScaffold.Toml
