import CrudScaffold.Proofs.Toml.Lexeme

/-!
# Where a quoted text ends

A text in quotes ends with its closing quotes, so what stands behind it makes no difference. Only
behind three quotes a fourth one would belong to the text. Each reader is described by the
characters that it takes: in front of any other rest it reads the same text from them.
-/

namespace CrudScaffold.Toml

variable {rest : List Char} {s : List Char}

lemma cons_eq_some {c : Char} {x : Option (List Char × List Char)} :
    cons c x = some (s, rest) ↔ ∃ s', x = some (s', rest) ∧ s = c :: s' := by
  unfold cons
  constructor
  · intro h
    obtain ⟨⟨s', rest'⟩, rfl, hpair⟩ := Option.map_eq_some_iff.mp h
    obtain ⟨rfl, rfl⟩ : c :: s' = s ∧ rest' = rest := Prod.mk.inj hpair
    exact ⟨s', rfl, rfl⟩
  · rintro ⟨s', rfl, rfl⟩
    rfl

lemma escaped?_ne {c d : Char} (h : escaped? c = some d) : c ≠ 'u' ∧ c ≠ 'U' := by
  constructor <;> (rintro rfl; cases h)

lemma basicRest_eq_some {cs : List Char} (h : basicRest cs = some (s, rest)) :
    ∃ w, cs = w ++ rest ∧ ∀ rest', basicRest (w ++ rest') = some (s, rest') := by
  fun_induction basicRest cs generalizing s with
  | case1 => cases h
  | case2 cs => 
    cases h
    exact ⟨['"'], rfl, fun _ => rfl⟩
  | case3 a b c d cs ih =>
    obtain ⟨e, he, hcons⟩ := Option.bind_eq_some_iff.mp h
    obtain ⟨s', hs', rfl⟩ := cons_eq_some.mp hcons
    obtain ⟨w, rfl, hagain⟩ := ih hs'
    refine ⟨'\\' :: 'u' :: a :: b :: c :: d :: w, rfl, fun rest' => ?_⟩
    simp only [List.cons_append, basicRest, he, hagain]
    rfl
  | case4 a b c d e f g k cs ih =>
    obtain ⟨x, hx, hcons⟩ := Option.bind_eq_some_iff.mp h
    obtain ⟨s', hs', rfl⟩ := cons_eq_some.mp hcons
    obtain ⟨w, rfl, hagain⟩ := ih hs'
    refine ⟨'\\' :: 'U' :: a :: b :: c :: d :: e :: f :: g :: k :: w, rfl, fun rest' => ?_⟩
    simp only [List.cons_append, basicRest, hx, hagain]
    rfl
  | case5 c cs _ _ ih =>
    obtain ⟨d, hd, hcons⟩ := Option.bind_eq_some_iff.mp h
    obtain ⟨s', hs', rfl⟩ := cons_eq_some.mp hcons
    obtain ⟨w, rfl, hagain⟩ := ih hs'
    obtain ⟨hu, hU⟩ := escaped?_ne hd
    refine ⟨'\\' :: c :: w, rfl, fun rest' => ?_⟩
    rw [List.cons_append, List.cons_append, basicRest]
    · rw [hd, hagain]
      rfl
    · rintro _ _ _ _ _ rfl
      exact absurd rfl hu
    · rintro _ _ _ _ _ _ _ _ _ rfl
      exact absurd rfl hU
  | case6 c cs hquote _ _ _ hplain ih =>
    obtain ⟨s', hs', rfl⟩ := cons_eq_some.mp h
    obtain ⟨w, rfl, hagain⟩ := ih hs'
    have hescape : c ≠ '\\' := by
      rintro rfl
      exact absurd hplain (by decide)
    refine ⟨c :: w, rfl, fun rest' => ?_⟩
    rw [List.cons_append, basicRest, if_pos hplain, hagain]
    · rfl
    · exact hquote
    all_goals
      intros
      contradiction
  | case7 => cases h

lemma literalRest_eq_some {cs : List Char} (h : literalRest cs = some (s, rest)) :
    ∃ w, cs = w ++ rest ∧ ∀ rest', literalRest (w ++ rest') = some (s, rest') := by
  fun_induction literalRest cs generalizing s with
  | case1 => cases h
  | case2 cs =>
    cases h
    exact ⟨['\''], rfl, fun _ => rfl⟩
  | case3 c cs hquote hplain ih =>
    obtain ⟨s', hs', rfl⟩ := cons_eq_some.mp h
    obtain ⟨w, rfl, hagain⟩ := ih hs'
    refine ⟨c :: w, rfl, fun rest' => ?_⟩
    rw [List.cons_append, literalRest, if_pos hplain, hagain]
    · rfl
    · rintro rfl
      exact hquote rfl
  | case4 => cases h

/-- Characters are read to the end of a text over several lines, whatever but a quote stands behind
them. -/
structure ReadsLines (fold : Fold) (w s : List Char) : Prop where
  length : 3 ≤ w.length
  reads : ∀ rest, rest.head? ≠ some '"' → basicLines fold (w ++ rest) = some (s, rest)

variable {fold fold' : Fold} {w : List Char}

/-- Characters that are passed over in front of others. -/
lemma ReadsLines.skip (h : ReadsLines fold' w s) (passed : List Char)
    (hskip : ∀ cs, basicLines fold (passed ++ cs) = basicLines fold' cs) :
    ReadsLines fold (passed ++ w) s where
  length := by
    rw [List.length_append]
    exact Nat.le_trans h.length (Nat.le_add_left _ _)
  reads rest hrest := by
    rw [List.append_assoc, hskip, h.reads rest hrest]

/-- Characters that stand for another one in front of others. -/
lemma ReadsLines.take (h : ReadsLines fold' w s) (taken : List Char) (c : Char)
    (htake : ∀ cs, basicLines fold (taken ++ cs) = cons c (basicLines fold' cs)) :
    ReadsLines fold (taken ++ w) (c :: s) where
  length := by
    rw [List.length_append]
    exact Nat.le_trans h.length (Nat.le_add_left _ _)
  reads rest hrest := by
    rw [List.append_assoc, htake, h.reads rest hrest]
    rfl

/-- The quotes that end a text, with up to two more in front of them. -/
lemma readsLines_quotes (hfold : fold ≠ .ending) :
    ReadsLines fold ['"', '"', '"'] [] ∧ ReadsLines fold ['"', '"', '"', '"'] ['"'] ∧
      ReadsLines fold ['"', '"', '"', '"', '"'] ['"', '"'] := by
  refine ⟨⟨Nat.le_refl 3, fun rest hrest => ?_⟩, ⟨Nat.le_succ 3, fun rest hrest => ?_⟩,
    ⟨Nat.le_add_right 3 2, fun rest _ => ?_⟩⟩
  · have hne : ∀ cs, rest ≠ '"' :: cs := by
      rintro cs rfl
      exact hrest rfl
    change basicLines fold ('"' :: '"' :: '"' :: rest) = _
    rw [basicLines, if_neg hfold]
    · exact fun cs => hne _
    · exact hne
  · have hne : ∀ cs, rest ≠ '"' :: cs := by
      rintro cs rfl
      exact hrest rfl
    change basicLines fold ('"' :: '"' :: '"' :: '"' :: rest) = _
    rw [basicLines, if_neg hfold]
    exact hne
  · change basicLines fold ('"' :: '"' :: '"' :: '"' :: '"' :: rest) = _
    rw [basicLines, if_neg hfold]

/-- A backslash in front of space ends its line. -/
lemma basicLines_escape_space (hfold : fold ≠ .ending) {c : Char} (hc : isSpace c)
    (cs : List Char) :
    basicLines fold ('\\' :: c :: cs) = basicLines .ending cs := by
  have hletter : c ≠ 'u' ∧ c ≠ 'U' := by
    constructor <;> (rintro rfl; cases hc)
  rw [basicLines.eq_def]
  simp [hfold, hc, hletter]

/-- A backslash in front of the letter of an escape. -/
lemma basicLines_escape_letter (hfold : fold ≠ .ending) {c d : Char} (hc : escaped? c = some d)
    (cs : List Char) : basicLines fold ('\\' :: c :: cs) = cons d (basicLines .none cs) := by
  have hspace : isSpace c = false ∧ c ≠ '\n' ∧ c ≠ '\r' := by
    refine ⟨Bool.eq_false_iff.mpr fun h => ?_, ?_, ?_⟩
    · simp only [isSpace, Bool.or_eq_true, beq_iff_eq] at h
      rcases h with rfl | rfl <;> cases hc
    all_goals
      rintro rfl
      cases hc
  rw [basicLines.eq_def]
  simp [hfold, hspace, escaped?_ne hc, hc]

/-- A backslash at the end of a line. -/
lemma basicLines_escape_line (hfold : fold ≠ .ending) (cs : List Char) :
    basicLines fold ('\\' :: '\n' :: cs) = basicLines .skipping cs ∧
      basicLines fold ('\\' :: '\r' :: '\n' :: cs) = basicLines .skipping cs := by
  constructor
  all_goals
    rw [basicLines.eq_def]
    simp [hfold, isSpace]

lemma isPlain_ne {c : Char} (h : isPlain c) : c ≠ '\n' ∧ c ≠ '\r' := by
  constructor <;> (rintro rfl; cases h)

/-- A character that stands for itself. -/
lemma ReadsLines.plain (h : ReadsLines .none w s) (hfold : fold ≠ .ending) {c : Char}
    (hplain : isPlain c) (hescape : c ≠ '\\') (hspace : c ≠ ' ' ∧ c ≠ '\t')
    (hquotes : ∀ cs, c = '"' → w ++ rest ≠ '"' :: '"' :: cs) :
    ReadsLines fold (c :: w) (c :: s) where
  length := Nat.le_succ_of_le h.length
  reads behind hbehind := by
    -- the two characters behind this one are in the same text, so they are not both quotes
    obtain ⟨a, b, w', rfl⟩ : ∃ a b w', w = a :: b :: w' := by
      rcases w with _ | ⟨a, _ | ⟨b, w'⟩⟩
      · cases h.length
      · cases Nat.le_of_succ_le_succ h.length
      · exact ⟨a, b, w', rfl⟩
    have hno : ∀ cs, c = '"' → a :: b :: w' ++ behind ≠ '"' :: '"' :: cs := by
      intro cs hc hcs
      simp only [List.cons_append, List.cons.injEq] at hcs
      exact hquotes (w' ++ rest) hc (by simp [hcs.1, hcs.2.1])
    have hgood : (decide (fold ≠ .ending) && isPlain c && decide (c ≠ '\\')) = true := by
      simp [hfold, hplain, hescape]
    rw [List.cons_append, basicLines, if_pos hgood, h.reads behind hbehind]
    · rfl
    · exact (isPlain_ne hplain).1
    · exact fun _ hc _ => (isPlain_ne hplain).2 hc
    · exact hspace.1
    · exact hspace.2
    · exact fun cs hc => hno _ hc
    · exact fun cs hc => hno _ hc
    · exact fun cs hc => hno _ hc
    all_goals
      intros
      contradiction

/-- A text over several lines ends with three quotes, and what stands behind them makes no
difference if it is no quote. -/
lemma basicLines_eq_some {cs : List Char} (h : basicLines fold cs = some (s, rest)) :
    ∃ w, cs = w ++ rest ∧ ReadsLines fold w s := by
  fun_induction basicLines fold cs generalizing s with
  | case1 => cases h
  | case2 cs ih =>
    obtain ⟨s', hs', rfl⟩ := cons_eq_some.mp h
    obtain ⟨w, rfl, hw⟩ := ih hs'
    exact ⟨_, rfl, hw.take ['\n'] '\n' fun _ => rfl⟩
  | case3 fold cs hfold ih =>
    obtain ⟨w, rfl, hw⟩ := ih h
    exact ⟨_, rfl, hw.skip ['\n'] fun _ => by simp [basicLines, hfold]⟩
  | case4 cs ih =>
    obtain ⟨s', hs', rfl⟩ := cons_eq_some.mp h
    obtain ⟨w, rfl, hw⟩ := ih hs'
    exact ⟨_, rfl, hw.take ['\r', '\n'] '\n' fun _ => rfl⟩
  | case5 fold cs hfold ih =>
    obtain ⟨w, rfl, hw⟩ := ih h
    exact ⟨_, rfl, hw.skip ['\r', '\n'] fun _ => by simp [basicLines, hfold]⟩
  | case6 cs ih =>
    obtain ⟨s', hs', rfl⟩ := cons_eq_some.mp h
    obtain ⟨w, rfl, hw⟩ := ih hs'
    exact ⟨_, rfl, hw.take [' '] ' ' fun _ => rfl⟩
  | case7 fold cs hfold ih =>
    obtain ⟨w, rfl, hw⟩ := ih h
    exact ⟨_, rfl, hw.skip [' '] fun _ => by simp [basicLines, hfold]⟩
  | case8 cs ih =>
    obtain ⟨s', hs', rfl⟩ := cons_eq_some.mp h
    obtain ⟨w, rfl, hw⟩ := ih hs'
    exact ⟨_, rfl, hw.take ['\t'] '\t' fun _ => rfl⟩
  | case9 fold cs hfold ih =>
    obtain ⟨w, rfl, hw⟩ := ih h
    exact ⟨_, rfl, hw.skip ['\t'] fun _ => by simp [basicLines, hfold]⟩
  | case11 fold cs hfold =>
    cases h
    exact ⟨_, rfl, (readsLines_quotes hfold).2.2⟩
  | case13 fold cs _ hfold =>
    cases h
    exact ⟨_, rfl, (readsLines_quotes hfold).2.1⟩
  | case15 fold cs _ _ hfold =>
    cases h
    exact ⟨_, rfl, (readsLines_quotes hfold).1⟩
  | case17 fold a b c d cs hfold ih =>
    obtain ⟨e, he, hcons⟩ := Option.bind_eq_some_iff.mp h
    obtain ⟨s', hs', rfl⟩ := cons_eq_some.mp hcons
    obtain ⟨w, rfl, hw⟩ := ih hs'
    exact ⟨_, rfl, hw.take ['\\', 'u', a, b, c, d] e fun _ => by simp [basicLines, hfold, he]⟩
  | case19 fold a b c d e f g k cs hfold ih =>
    obtain ⟨x, hx, hcons⟩ := Option.bind_eq_some_iff.mp h
    obtain ⟨s', hs', rfl⟩ := cons_eq_some.mp hcons
    obtain ⟨w, rfl, hw⟩ := ih hs'
    exact ⟨_, rfl, hw.take ['\\', 'U', a, b, c, d, e, f, g, k] x fun _ => by
      simp [basicLines, hfold, hx]⟩
  | case21 fold c cs _ _ hfold hspace ih =>
    obtain ⟨w, rfl, hw⟩ := ih h
    exact ⟨_, rfl, hw.skip ['\\', c] fun cs => basicLines_escape_space hfold hspace cs⟩
  | case22 fold cs hfold _ _ _ ih =>
    obtain ⟨w, rfl, hw⟩ := ih h
    exact ⟨_, rfl, hw.skip ['\\', '\n'] fun cs => (basicLines_escape_line hfold cs).1⟩
  | case23 fold hfold cs _ _ _ _ ih =>
    obtain ⟨w, rfl, hw⟩ := ih h
    exact ⟨_, rfl, hw.skip ['\\', '\r', '\n'] fun cs => (basicLines_escape_line hfold cs).2⟩
  | case25 fold c cs _ _ hfold hspace hline hreturn ih =>
    obtain ⟨d, hd, hcons⟩ := Option.bind_eq_some_iff.mp h
    obtain ⟨s', hs', rfl⟩ := cons_eq_some.mp hcons
    obtain ⟨w, rfl, hw⟩ := ih hs'
    exact ⟨_, rfl, hw.take ['\\', c] d fun cs => basicLines_escape_letter hfold hd cs⟩
  | case26 fold c cs _ _ hblank htab _ _ hquotes _ _ _ hplain ih =>
    obtain ⟨s', hs', rfl⟩ := cons_eq_some.mp h
    obtain ⟨w, rfl, hw⟩ := ih hs'
    simp only [Bool.and_eq_true, decide_eq_true_eq] at hplain
    exact ⟨_, rfl, hw.plain hplain.1.1 hplain.1.2 hplain.2 ⟨hblank, htab⟩ hquotes⟩
  | _ => cases h

/-- Characters are read to the end of a text over several lines in single quotes. -/
structure ReadsLiteral (w s : List Char) : Prop where
  length : 3 ≤ w.length
  reads : ∀ rest, rest.head? ≠ some '\'' → literalLines (w ++ rest) = some (s, rest)

/-- Characters that stand for another one in front of others. -/
lemma ReadsLiteral.take (h : ReadsLiteral w s) (taken : List Char) (c : Char)
    (htake : ∀ cs, literalLines (taken ++ cs) = cons c (literalLines cs)) :
    ReadsLiteral (taken ++ w) (c :: s) where
  length := by
    rw [List.length_append]
    exact Nat.le_trans h.length (Nat.le_add_left _ _)
  reads rest hrest := by
    rw [List.append_assoc, htake, h.reads rest hrest]
    rfl

/-- The quotes that end a text, with up to two more in front of them. -/
lemma readsLiteral_quotes :
    ReadsLiteral ['\'', '\'', '\''] [] ∧ ReadsLiteral ['\'', '\'', '\'', '\''] ['\''] ∧
      ReadsLiteral ['\'', '\'', '\'', '\'', '\''] ['\'', '\''] := by
  refine ⟨⟨Nat.le_refl 3, fun rest hrest => ?_⟩, ⟨Nat.le_succ 3, fun rest hrest => ?_⟩,
    ⟨Nat.le_add_right 3 2, fun rest _ => rfl⟩⟩
  all_goals
    have hne : ∀ cs, rest ≠ '\'' :: cs := by
      rintro cs rfl
      exact hrest rfl
    simp only [List.cons_append, List.nil_append]
    rw [literalLines.eq_def]
    simp [hne]

/-- A character that stands for itself. -/
lemma ReadsLiteral.plain (h : ReadsLiteral w s) {c : Char} (hplain : isPlain c)
    (hquotes : ∀ cs, c = '\'' → w ++ rest ≠ '\'' :: '\'' :: cs) :
    ReadsLiteral (c :: w) (c :: s) where
  length := Nat.le_succ_of_le h.length
  reads behind hbehind := by
    obtain ⟨a, b, w', rfl⟩ : ∃ a b w', w = a :: b :: w' := by
      rcases w with _ | ⟨a, _ | ⟨b, w'⟩⟩
      · cases h.length
      · cases Nat.le_of_succ_le_succ h.length
      · exact ⟨a, b, w', rfl⟩
    have hno : ∀ cs, c = '\'' → a :: b :: w' ++ behind ≠ '\'' :: '\'' :: cs := by
      intro cs hc hcs
      simp only [List.cons_append, List.cons.injEq] at hcs
      exact hquotes (w' ++ rest) hc (by simp [hcs.1, hcs.2.1])
    rw [List.cons_append, literalLines, if_pos hplain, h.reads behind hbehind]
    · rfl
    · exact (isPlain_ne hplain).1
    · exact fun _ hc _ => (isPlain_ne hplain).2 hc
    · exact fun cs hc => hno _ hc
    · exact fun cs hc => hno _ hc
    · exact fun cs hc => hno _ hc

/-- A text over several lines in single quotes ends with three of them. -/
lemma literalLines_eq_some {cs : List Char} (h : literalLines cs = some (s, rest)) :
    ∃ w, cs = w ++ rest ∧ ReadsLiteral w s := by
  fun_induction literalLines cs generalizing s with
  | case1 => cases h
  | case2 cs ih =>
    obtain ⟨s', hs', rfl⟩ := cons_eq_some.mp h
    obtain ⟨w, rfl, hw⟩ := ih hs'
    exact ⟨_, rfl, hw.take ['\n'] '\n' fun _ => rfl⟩
  | case3 cs ih =>
    obtain ⟨s', hs', rfl⟩ := cons_eq_some.mp h
    obtain ⟨w, rfl, hw⟩ := ih hs'
    exact ⟨_, rfl, hw.take ['\r', '\n'] '\n' fun _ => rfl⟩
  | case4 cs =>
    cases h
    exact ⟨_, rfl, readsLiteral_quotes.2.2⟩
  | case5 cs =>
    cases h
    exact ⟨_, rfl, readsLiteral_quotes.2.1⟩
  | case6 cs =>
    cases h
    exact ⟨_, rfl, readsLiteral_quotes.1⟩
  | case7 c cs _ _ _ _ hquotes hplain ih =>
    obtain ⟨s', hs', rfl⟩ := cons_eq_some.mp h
    obtain ⟨w, rfl, hw⟩ := ih hs'
    exact ⟨_, rfl, hw.plain hplain hquotes⟩
  | case8 => cases h

/-! ### Texts of any kind -/

/-- A text on one line is read wherever it stands. -/
lemma quotedLine?_eq_some {cs : List Char} (h : quotedLine? cs = some (s, rest)) :
    ∃ w, cs = w ++ rest ∧ ∀ rest', quotedLine? (w ++ rest') = some (s, rest') := by
  rw [quotedLine?.eq_def] at h
  split at h
  · obtain ⟨w, rfl, hagain⟩ := basicRest_eq_some h
    exact ⟨'"' :: w, rfl, hagain⟩
  · obtain ⟨w, rfl, hagain⟩ := literalRest_eq_some h
    exact ⟨'\'' :: w, rfl, hagain⟩
  · cases h

/-- The end of a line is dropped from the start of a text that goes on in any way. -/
lemma exists_dropLineEnd (cs : List Char) (hlength : 3 ≤ w.length)
    (h : dropLineEnd cs = w ++ rest) :
    ∃ v, cs = v ++ rest ∧ 3 ≤ v.length ∧ ∀ rest', dropLineEnd (v ++ rest') = w ++ rest' := by
  rw [dropLineEnd.eq_def] at h
  split at h
  · subst h
    exact ⟨'\n' :: w, rfl, Nat.le_succ_of_le hlength, fun _ => rfl⟩
  · subst h
    exact ⟨'\r' :: '\n' :: w, rfl, Nat.le_succ_of_le (Nat.le_succ_of_le hlength), fun _ => rfl⟩
  · rename_i hline hreturn
    subst h
    refine ⟨w, rfl, hlength, fun rest' => ?_⟩
    obtain ⟨a, b, w, rfl⟩ : ∃ a b w', w = a :: b :: w' := by
      rcases w with _ | ⟨a, _ | ⟨b, w'⟩⟩
      · cases hlength
      · cases Nat.le_of_succ_le_succ hlength
      · exact ⟨a, b, w', rfl⟩
    rw [dropLineEnd.eq_def]
    split
    · rename_i he
      obtain ⟨rfl, -⟩ := List.cons.inj he
      exact absurd rfl (hline _)
    · rename_i he
      simp only [List.cons_append, List.cons.injEq] at he
      obtain ⟨rfl, rfl, -⟩ := he
      exact absurd rfl (hreturn _)
    · rfl

/-- No quote ends a number. -/
lemma IsStopped.ne_quote (h : IsStopped rest) : rest.head? ≠ some '"' ∧ rest.head? ≠ some '\'' :=
  ⟨fun he => absurd (h _ he) (by decide), fun he => absurd (h _ he) (by decide)⟩

/-- **Quoted texts.** A text in quotes is read wherever it may stand. -/
lemma quoted?_eq_some {cs : List Char} (h : quoted? cs = some (s, rest)) :
    ∃ w, cs = w ++ rest ∧ ∀ rest', IsStopped rest' → quoted? (w ++ rest') = some (s, rest') := by
  rw [quoted?.eq_def] at h
  split at h
  · rename_i cs
    obtain ⟨w, hw, hreads⟩ := basicLines_eq_some h
    obtain ⟨v, rfl, -, hv⟩ := exists_dropLineEnd cs hreads.length hw
    refine ⟨'"' :: '"' :: '"' :: v, rfl, fun rest' hrest' => ?_⟩
    change basicLines .none (dropLineEnd (v ++ rest')) = _
    rw [hv, hreads.reads rest' hrest'.ne_quote.1]
  · rename_i cs
    obtain ⟨w, hw, hreads⟩ := literalLines_eq_some h
    obtain ⟨v, rfl, -, hv⟩ := exists_dropLineEnd cs hreads.length hw
    refine ⟨'\'' :: '\'' :: '\'' :: v, rfl, fun rest' hrest' => ?_⟩
    change literalLines (dropLineEnd (v ++ rest')) = _
    rw [hv, hreads.reads rest' hrest'.ne_quote.2]
  · rename_i hbasic hliteral
    obtain ⟨w, rfl, hagain⟩ := quotedLine?_eq_some h
    refine ⟨w, rfl, fun rest' hrest' => ?_⟩
    -- three quotes would be an empty text with a quote behind it
    rw [quoted?.eq_def]
    split
    · rename_i r he
      have hempty : some (s, rest') = some ([], '"' :: r) := by
        rw [← hagain rest', he]
        rfl
      obtain ⟨-, rfl⟩ := Prod.mk.inj (Option.some.inj hempty)
      exact absurd rfl hrest'.ne_quote.1
    · rename_i r he
      have hempty : some (s, rest') = some ([], '\'' :: r) := by
        rw [← hagain rest', he]
        rfl
      obtain ⟨-, rfl⟩ := Prod.mk.inj (Option.some.inj hempty)
      exact absurd rfl hrest'.ne_quote.2
    · exact hagain rest'

end CrudScaffold.Toml
