import CrudScaffold.Toml.Literal
import CrudScaffold.Proofs.Toml.Key

/-!
# Values are read again

A plain value is printed as it was written. A list is printed from the texts of its elements and
from what stood between them, and a table between braces from its lines. Either way reading what is
printed gives the same value with the same text (`Toml.isStable_literal?`).
-/

namespace CrudScaffold.Toml

variable {cs rest : List Char}

/-! ### Plain values -/

/-- The text of a value is read as that value wherever a value may stand. -/
structure Literal.IsStable (element? : Parser Literal) (l : Literal) : Prop where
  head : ∃ c t, l.text.toList = c :: t ∧ c ∉ stops
  again : ∀ rest, IsEnd rest → element? (l.text.toList ++ rest) = some (l, rest)

/-- What a reader of values gives in front of what ends a value can be read again. It begins with a
character that may stand in a comment. -/
structure IsStable (element? : Parser Literal) : Prop where
  plain : ∀ {cs l rest}, element? cs = some (l, rest) → ∃ c cs', cs = c :: cs' ∧ isPlain c
  stable : ∀ {cs l rest}, element? cs = some (l, rest) → IsEnd rest → l.IsStable element?

/-- The characters that plain values begin with. -/
def firsts : List Char := ['"', '\'', 't', 'f', '+', '-', 'i', 'n']

lemma isPlain_of_isDigit {c : Char} (h : c.isDigit) : isPlain c := by
  have hlow : '0' ≤ c := by
    unfold Char.isDigit at h
    exact of_decide_eq_true (Bool.and_eq_true_iff.mp h).1
  have hspace : ' ' ≤ c := Char.le_trans (show ' ' ≤ '0' by decide) hlow
  have hdelete : c ≠ '\x7F' := by
    rintro rfl
    cases h
  simp [isPlain, hspace, hdelete]

lemma of_firsts {c : Char} (h : c.isDigit ∨ c ∈ firsts) :
    isPlain c ∧ c ∉ stops ∧ c ≠ '[' ∧ c ≠ '\x7b' := by
  rcases h with h | h
  · refine ⟨isPlain_of_isDigit h, fun hstop => ?_, ?_, ?_⟩
    · rw [not_isDigit_of_mem_stops hstop] at h
      cases h
    all_goals
      rintro rfl
      cases h
  · have hall : ∀ d ∈ firsts, isPlain d ∧ d ∉ stops ∧ d ≠ '[' ∧ d ≠ '\x7b' :=
      List.all_iff_forall_prop.mp (by decide)
    exact hall c h

lemma plain?_quote {c : Char} (hc : c = '"' ∨ c = '\'') (cs : List Char) :
    plain? (c :: cs) = (quoted? (c :: cs)).map fun (s, rest) =>
      (.text (String.ofList s), rest) := by
  rcases hc with rfl | rfl <;> rfl

lemma plain?_number {c : Char} (hc : c.isDigit ∨ c ∈ ['+', '-', 'i', 'n']) (cs : List Char) :
    plain? (c :: cs) = number? (c :: cs) := by
  have hne : c ≠ '"' ∧ c ≠ '\'' ∧ c ≠ 't' ∧ c ≠ 'f' := by
    refine ⟨?_, ?_, ?_, ?_⟩
    all_goals
      rintro rfl
      revert hc
      decide
  unfold plain?
  split
  · exact absurd (List.cons.inj ‹_›).1 hne.1
  · exact absurd (List.cons.inj ‹_›).1 hne.2.1
  · exact absurd (List.cons.inj ‹_›).1 hne.2.2.1
  · exact absurd (List.cons.inj ‹_›).1 hne.2.2.2
  · rfl

/-- A text in quotes, a word or a number is read wherever a value may stand. -/
lemma plain?_eq_some {v : Value} (h : plain? cs = some (v, rest)) :
    (∃ c cs', cs = c :: cs' ∧ (c.isDigit ∨ c ∈ firsts)) ∧
      (IsEnd rest → ∃ w, cs = w ++ rest ∧ w ≠ [] ∧
        ∀ rest', IsEnd rest' → plain? (w ++ rest') = some (v, rest')) := by
  have hquote : ∀ c cs, (c = '"' ∨ c = '\'') → plain? (c :: cs) = some (v, rest) →
      ∃ w, c :: cs = w ++ rest ∧ w ≠ [] ∧
        ∀ rest', IsEnd rest' → plain? (w ++ rest') = some (v, rest') := by
    intro c cs hc h
    rw [plain?_quote hc] at h
    obtain ⟨⟨s, r⟩, hquoted, hpair⟩ := Option.map_eq_some_iff.mp h
    obtain ⟨rfl, rfl⟩ : Value.text (String.ofList s) = v ∧ r = rest := Prod.mk.inj hpair
    obtain ⟨w, hw, hagain⟩ := quoted?_eq_some hquoted
    cases w with
    | nil =>
      have hnone : quoted? [] = some (s, []) := hagain [] nofun
      cases hnone
    | cons d w =>
      obtain ⟨rfl, -⟩ := List.cons.inj hw
      refine ⟨c :: w, hw, nofun, fun rest' hrest' => ?_⟩
      rw [List.cons_append, plain?_quote hc, ← List.cons_append, hagain rest' hrest'.stopped]
      rfl
  have hall := h
  rw [plain?.eq_def] at h
  dsimp only at h
  split at h
  · exact ⟨⟨_, _, rfl, .inr (by decide)⟩, fun _ => hquote _ _ (.inl rfl) hall⟩
  · exact ⟨⟨_, _, rfl, .inr (by decide)⟩, fun _ => hquote _ _ (.inr rfl) hall⟩
  · obtain ⟨rfl, rfl⟩ := Prod.mk.inj (Option.some.inj h)
    exact ⟨⟨_, _, rfl, .inr (by decide)⟩, fun _ =>
      ⟨['t', 'r', 'u', 'e'], rfl, nofun, fun _ _ => rfl⟩⟩
  · obtain ⟨rfl, rfl⟩ := Prod.mk.inj (Option.some.inj h)
    exact ⟨⟨_, _, rfl, .inr (by decide)⟩,
      fun _ => ⟨['f', 'a', 'l', 's', 'e'], rfl, nofun, fun _ _ => rfl⟩⟩
  · change number? cs = _ at h
    obtain _ | ⟨c, cs⟩ := cs
    · cases h
    have hc := number?_head h
    have hsub : ∀ c ∈ ['+', '-', 'i', 'n'], c ∈ firsts := List.all_iff_forall_prop.mp (by decide)
    refine ⟨⟨c, cs, rfl, hc.imp_right (hsub c)⟩, fun hrest => ?_⟩
    · obtain ⟨w, hw, hagain⟩ := number?_eq_some h hrest
      cases w with
      | nil =>
        have hnone : number? [] = some (v, []) := hagain [] ⟨nofun, nofun⟩
        cases hnone
      | cons d w =>
        obtain ⟨rfl, -⟩ := List.cons.inj hw
        refine ⟨c :: w, hw, nofun, fun rest' hrest' => ?_⟩
        rw [List.cons_append, plain?_number hc, ← List.cons_append, hagain rest' hrest']

lemma plainLiteral?_eq_some {l : Literal} (h : plainLiteral? cs = some (l, rest)) :
    ∃ v, plain? cs = some (v, rest) ∧ l = ⟨v, written cs rest⟩ := by
  obtain ⟨⟨v, r⟩, hv, hpair⟩ := Option.bind_eq_some_iff.mp h
  obtain ⟨rfl, rfl⟩ := Prod.mk.inj (Option.some.inj hpair)
  exact ⟨v, hv, rfl⟩

/-- Plain values are read again, and begin with neither a bracket nor a brace. -/
lemma plainLiteral?_stable {l : Literal} (h : plainLiteral? cs = some (l, rest))
    (hrest : IsEnd rest) :
    l.IsStable plainLiteral? ∧
      ∀ c t, l.text.toList = c :: t → c ≠ '[' ∧ c ≠ '\x7b' := by
  obtain ⟨v, hv, rfl⟩ := plainLiteral?_eq_some h
  obtain ⟨⟨c, cs', hcs, hc⟩, hagain⟩ := plain?_eq_some hv
  obtain ⟨w, rfl, hne, hagain⟩ := hagain hrest
  obtain ⟨d, w, rfl⟩ := List.exists_cons_of_ne_nil hne
  obtain ⟨rfl, -⟩ := List.cons.inj hcs
  obtain ⟨-, hstop, hbracket, hbrace⟩ := of_firsts hc
  have htext : (written (d :: w ++ rest) rest).toList = d :: w := by
    rw [written_append, String.toList_ofList]
  refine ⟨⟨⟨d, w, htext, hstop⟩, fun rest' hrest' => ?_⟩, fun c t hct => ?_⟩
  · dsimp only
    rw [htext, plainLiteral?, hagain rest' hrest', Option.bind_eq_bind, Option.bind_some]
    dsimp only
    rw [written_append, written_append]
    rfl
  · obtain ⟨rfl, -⟩ := List.cons.inj (htext.symm.trans hct)
    exact ⟨hbracket, hbrace⟩

lemma isStable_plainLiteral? : IsStable plainLiteral? where
  plain h := by
    obtain ⟨v, hv, -⟩ := plainLiteral?_eq_some h
    obtain ⟨⟨c, cs', rfl, hc⟩, -⟩ := plain?_eq_some hv
    exact ⟨c, cs', rfl, (of_firsts hc).1⟩
  stable h hrest := (plainLiteral?_stable h hrest).1

/-! ### Lists -/

section Lists

variable {element? : Parser Literal}

lemma isPlain_closing : isPlain ']' ∧ isPlain ',' ∧ ']' ∈ stops ∧ ',' ∈ stops := by decide

lemma isStart_closing (cs : List Char) : IsStart (']' :: cs) ∧ IsStart (',' :: cs) :=
  ⟨isStart_cons (by decide) (by decide) (by decide) (by decide) cs,
    isStart_cons (by decide) (by decide) (by decide) (by decide) cs⟩

lemma IsStopped.cons {c : Char} (hc : c ∈ stops) (cs : List Char) : IsStopped (c :: cs) := by
  intro d hd
  rw [← Option.some.inj hd]
  exact hc

/-- What closes a list or sets its elements apart. -/
def IsMark (c : Char) : Prop := c = ']' ∨ c = ','

lemma IsMark.spec {c : Char} (h : IsMark c) (cs : List Char) :
    isPlain c ∧ IsStart (c :: cs) ∧ IsStopped (c :: cs) := by
  rcases h with rfl | rfl
  · exact ⟨by decide, (isStart_closing cs).1, .cons (by decide) cs⟩
  · exact ⟨by decide, (isStart_closing cs).2, .cons (by decide) cs⟩

/-- An element of a list is read again between what stood around it. -/
lemma element_again (helement : IsStable element?) {cs₁ cs₂ cs₃ : List Char}
    {before after : String} {l : Literal} {c : Char} (hc : IsMark c)
    (hbefore : gap cs = (before, cs₁)) (hl : element? cs₁ = some (l, cs₂))
    (hafter : gap cs₂ = (after, c :: cs₃)) (rest : List Char) :
    gap (before.toList ++ (l.text.toList ++ (after.toList ++ c :: rest))) =
        (before, l.text.toList ++ (after.toList ++ c :: rest)) ∧
      (l.text.toList ++ (after.toList ++ c :: rest)).head? ≠ some ']' ∧
      element? (l.text.toList ++ (after.toList ++ c :: rest)) =
        some (l, after.toList ++ c :: rest) ∧
      gap (after.toList ++ c :: rest) = (after, c :: rest) := by
  obtain ⟨hplain, -, hstop⟩ := hc.spec cs₃
  obtain ⟨-, hstart', hstop'⟩ := hc.spec rest
  obtain ⟨d, cs', rfl, hd⟩ := helement.plain hl
  have hstable := helement.stable hl (isEnd_of_gap hafter hstop)
  have hagain := gap_again hafter hplain hstart'
  obtain ⟨e, t, htext, he⟩ := hstable.head
  have hstart : IsStart (l.text.toList ++ (after.toList ++ c :: rest)) := by
    rw [htext]
    exact isStart_of_notMem_stops he _
  refine ⟨gap_again hbefore hd hstart, ?_, hstable.again _ (isEnd_of_gap hagain hstop'), hagain⟩
  rw [htext]
  rintro ⟨⟩
  exact he (by decide)

section Reading

variable {fuel : Nat} {cs₁ cs₂ : List Char} {before after : String} {l : Literal}

/-- The list ends. -/
lemma listRest?_end (h : gap cs = (before, ']' :: rest)) :
    listRest? element? (fuel + 1) cs = some (([], before ++ "]"), rest) := by
  unfold listRest?
  dsimp only
  rw [h]
  rfl

variable (hbefore : gap cs = (before, cs₁)) (hne : cs₁.head? ≠ some ']')
  (hl : element? cs₁ = some (l, cs₂))

include hbefore hne hl

/-- The last element comes. -/
lemma listRest?_last (hafter : gap cs₂ = (after, ']' :: rest)) :
    listRest? element? (fuel + 1) cs =
      some (([l.value], before ++ l.text ++ after ++ "]"), rest) := by
  unfold listRest?
  dsimp only
  rw [hbefore]
  dsimp only
  split
  · exact absurd rfl hne
  · rw [hl, Option.bind_eq_bind, Option.bind_some]
    dsimp only
    rw [hafter]
    rfl

/-- An element comes with others behind it. -/
lemma listRest?_comma (hafter : gap cs₂ = (after, ',' :: rest)) :
    listRest? element? (fuel + 1) cs = (listRest? element? fuel rest).map fun x =>
      ((l.value :: x.1.1, before ++ l.text ++ after ++ "," ++ x.1.2), x.2) := by
  conv_lhs => unfold listRest?
  dsimp only
  rw [hbefore]
  dsimp only
  split
  · exact absurd rfl hne
  · rw [hl, Option.bind_eq_bind, Option.bind_some]
    dsimp only
    rw [hafter, Option.map_eq_bind]
    rfl

end Reading

/-- What follows the opening bracket of a list is nothing but space, or an element with the closing
bracket or a comma behind it. -/
lemma listRest?_cases {fuel : Nat} {values : List Value} {text : String}
    (h : listRest? element? (fuel + 1) cs = some ((values, text), rest)) :
    (∃ before, gap cs = (before, ']' :: rest) ∧ values = [] ∧ text = before ++ "]") ∨
    ∃ before cs₁ l cs₂ after, gap cs = (before, cs₁) ∧ element? cs₁ = some (l, cs₂) ∧
      ((gap cs₂ = (after, ']' :: rest) ∧ values = [l.value] ∧
          text = before ++ l.text ++ after ++ "]") ∨
        ∃ cs₃ values' more, gap cs₂ = (after, ',' :: cs₃) ∧
          listRest? element? fuel cs₃ = some ((values', more), rest) ∧
          values = l.value :: values' ∧ text = before ++ l.text ++ after ++ "," ++ more) := by
  unfold listRest? at h
  dsimp only at h
  split at h
  · rename_i cs₁ hclose
    obtain ⟨hpair, rfl⟩ := Prod.mk.inj (Option.some.inj h)
    obtain ⟨rfl, rfl⟩ := Prod.mk.inj hpair
    exact .inl ⟨_, Prod.ext rfl hclose, rfl, rfl⟩
  · obtain ⟨⟨l, cs₂⟩, hl, h⟩ := Option.bind_eq_some_iff.mp h
    right
    refine ⟨_, _, l, cs₂, (gap cs₂).1, rfl, hl, ?_⟩
    dsimp only at h
    split at h
    · rename_i hclose
      obtain ⟨hpair, rfl⟩ := Prod.mk.inj (Option.some.inj h)
      obtain ⟨rfl, rfl⟩ := Prod.mk.inj hpair
      exact .inl ⟨Prod.ext rfl hclose, rfl, rfl⟩
    · rename_i cs₃ hcomma
      obtain ⟨⟨⟨values', more⟩, rest'⟩, hmore, h⟩ := Option.bind_eq_some_iff.mp h
      obtain ⟨hpair, rfl⟩ := Prod.mk.inj (Option.some.inj h)
      obtain ⟨rfl, rfl⟩ := Prod.mk.inj hpair
      exact .inr ⟨cs₃, values', more, Prod.ext rfl hcomma, hmore, rfl, rfl⟩
    · cases h

/-- What follows the opening bracket of a list is read again, with any fuel that is as long as
it. -/
lemma listRest?_again (helement : IsStable element?) {fuel fuel' : Nat} {values : List Value}
    {text : String} (h : listRest? element? fuel cs = some ((values, text), rest))
    (hfuel : text.toList.length ≤ fuel') (rest' : List Char) :
    listRest? element? fuel' (text.toList ++ rest') = some ((values, text), rest') := by
  induction fuel generalizing cs values text fuel' with
  | zero => cases h
  | succ fuel ih =>
    have hpos : text ≠ "" := by
      rcases listRest?_cases h with ⟨before, -, -, rfl⟩ |
        ⟨before, cs₁, l, cs₂, after, -, -, ⟨-, -, rfl⟩ | ⟨cs₃, values', more, -, -, -, rfl⟩⟩
      all_goals simp
    obtain ⟨fuel', rfl⟩ : ∃ f, fuel' = f + 1 := by
      refine Nat.exists_eq_succ_of_ne_zero ?_
      rintro rfl
      exact hpos (by simpa using hfuel)
    rcases listRest?_cases h with ⟨before, hbefore, rfl, rfl⟩ |
      ⟨before, cs₁, l, cs₂, after, hbefore, hl, ⟨hafter, rfl, rfl⟩ |
        ⟨cs₃, values', more, hafter, hmore, rfl, rfl⟩⟩
    · have hagain := gap_again hbefore isPlain_closing.1 (isStart_closing rest').1
      rw [String.toList_append, List.append_assoc]
      exact listRest?_end hagain
    · obtain ⟨hgap, hne, hagain, hclose⟩ :=
        element_again helement (.inl rfl) hbefore hl hafter rest'
      have htext : (before ++ l.text ++ after ++ "]").toList ++ rest' =
          before.toList ++ (l.text.toList ++ (after.toList ++ ']' :: rest')) := by simp
      rw [htext, listRest?_last hgap hne hagain hclose]
    · obtain ⟨hgap, hne, hagain, hcomma⟩ :=
        element_again helement (.inr rfl) hbefore hl hafter (more.toList ++ rest')
      have htext : (before ++ l.text ++ after ++ "," ++ more).toList ++ rest' =
          before.toList ++ (l.text.toList ++ (after.toList ++ ',' :: (more.toList ++ rest'))) := by
        simp
      have hlength : more.toList.length ≤ fuel' := by
        simp only [String.toList_append, List.length_append] at hfuel
        have hmark : ",".toList.length = 1 := rfl
        omega
      rw [htext, listRest?_comma hgap hne hagain hcomma, ih hmore hlength]
      rfl

end Lists

end CrudScaffold.Toml
