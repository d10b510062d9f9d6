import CrudScaffold.Proofs.Toml.Lexeme

/-!
# Space and comments are read again

What stands between the parts of a document is kept as text, without carriage returns. If that text
is printed in front of something else, it is passed over again and nothing more: a comment in it has
ended with its line, or the document has.
-/

namespace CrudScaffold.Toml

variable {cs w rest : List Char} {s : String}

/-! ### Space within a line -/

/-- A text that is nothing but space within a line. -/
def IsBlank (s : String) : Prop := ∀ c ∈ s.toList, isSpace c

instance (s : String) : Decidable (IsBlank s) :=
  List.decidableBAll (fun c => isSpace c = true) s.toList

@[simp] lemma isBlank_empty : IsBlank "" := nofun

/-- What is left does not begin with space. -/
def IsInked (rest : List Char) : Prop := ∀ c, rest.head? = some c → isSpace c = false

lemma skipSpace_append (hw : ∀ c ∈ w, isSpace c) (hrest : IsInked rest) :
    skipSpace (w ++ rest) = rest := by
  unfold skipSpace
  rw [List.dropWhile_append_of_pos hw]
  cases rest with
  | nil => rfl
  | cons c rest => exact List.dropWhile_cons_of_neg (by simp [hrest c rfl])

lemma skipSpace_eq_self (hrest : IsInked rest) : skipSpace rest = rest :=
  skipSpace_append (w := []) nofun hrest

lemma isInked_skipSpace (cs : List Char) : IsInked (skipSpace cs) := by
  intro c hc
  have hne := List.head?_dropWhile_not isSpace cs
  change (cs.dropWhile isSpace).head? = some c at hc
  rw [hc] at hne
  simpa using hne

/-- Space that has been skipped is a blank text. -/
lemma exists_skipSpace (cs : List Char) :
    ∃ w, cs = w ++ skipSpace cs ∧ (∀ c ∈ w, isSpace c) ∧ written cs (skipSpace cs) =
      String.ofList w := by
  refine ⟨cs.takeWhile isSpace, List.takeWhile_append_dropWhile.symm,
    fun c hc => List.mem_takeWhile_imp hc, ?_⟩
  have h : cs = cs.takeWhile isSpace ++ skipSpace cs := List.takeWhile_append_dropWhile.symm
  conv_lhs => rw [h]
  rw [skipSpace_append (fun c hc => List.mem_takeWhile_imp hc) (isInked_skipSpace cs),
    written_append]

lemma isBlank_written_skipSpace (cs : List Char) : IsBlank (written cs (skipSpace cs)) := by
  obtain ⟨w, -, hw, hwritten⟩ := exists_skipSpace cs
  rw [hwritten]
  intro c hc
  rw [String.toList_ofList] at hc
  exact hw c hc

/-! ### Ends of values -/

lemma isSpace_mem_stops {c : Char} (h : isSpace c) : c ∈ stops ∧ c.isDigit = false := by
  simp only [isSpace, Bool.or_eq_true, beq_iff_eq] at h
  rcases h with rfl | rfl <;> decide

lemma not_isDigit_of_mem_stops {c : Char} (h : c ∈ stops) : c.isDigit = false := by
  have hall : ∀ d ∈ stops, d.isDigit = false := List.all_iff_forall_prop.mp (by decide)
  exact hall c h

/-- Space in front of what ends a value ends it as well. -/
lemma isEnd_append (hw : ∀ c ∈ w, isSpace c) (hstop : IsStopped rest) (hrest : IsInked rest) :
    IsEnd (w ++ rest) where
  stopped := by
    intro c hc
    cases w with
    | nil => exact hstop c hc
    | cons d w =>
      rw [← Option.some.inj hc]
      exact (isSpace_mem_stops (hw d List.mem_cons_self)).1
  noTime := by
    intro c cs h
    rcases w with _ | ⟨d, _ | ⟨e, w⟩⟩
    · rw [List.nil_append] at h
      subst h
      exact absurd (hrest ' ' rfl) (by decide)
    · obtain ⟨-, rfl⟩ := List.cons.inj h
      exact not_isDigit_of_mem_stops (hstop c rfl)
    · obtain ⟨-, h⟩ := List.cons.inj h
      obtain ⟨rfl, -⟩ := List.cons.inj h
      exact (isSpace_mem_stops (hw e (by simp))).2

lemma isEnd_of_skipSpace (h : IsStopped (skipSpace cs)) : IsEnd cs := by
  obtain ⟨w, hcs, hw, -⟩ := exists_skipSpace cs
  rw [hcs]
  exact isEnd_append hw h (isInked_skipSpace cs)

/-! ### Space over several lines -/

/-- What is left is no space, no comment and no end of a line. -/
def IsStart (rest : List Char) : Prop := skipGap false rest = rest

lemma isStart_cons {c : Char} (hspace : isSpace c = false) (hline : c ≠ '\n') (hreturn : c ≠ '\r')
    (hcomment : c ≠ '#') (cs : List Char) : IsStart (c :: cs) := by
  unfold IsStart
  rw [skipGap]
  · simp [hspace, hcomment]
  · exact hline
  · exact fun _ h _ => hreturn h

/-- What is skipped is skipped again in front of anything else, also without its carriage returns.
Behind an unfinished comment only characters are left that cannot stand in one. -/
lemma skipGap_spec (inComment : Bool) (cs : List Char) :
    ∃ w m, cs = w ++ skipGap inComment cs ∧
      (∀ rest, skipGap inComment (w.filter (· ≠ '\r') ++ rest) = skipGap m rest) ∧
      (m = true → ∀ c, (skipGap inComment cs).head? = some c → isPlain c = false) := by
  fun_induction skipGap inComment cs with
  | case1 inComment => exact ⟨[], inComment, rfl, fun _ => rfl, nofun⟩
  | case2 inComment cs ih =>
    obtain ⟨w, m, hw, hagain, hplain⟩ := ih
    exact ⟨'\n' :: w, m, congrArg _ hw, hagain, hplain⟩
  | case3 inComment cs ih =>
    obtain ⟨w, m, hw, hagain, hplain⟩ := ih
    exact ⟨'\r' :: '\n' :: w, m, congrArg (fun cs => '\r' :: '\n' :: cs) hw, hagain, hplain⟩
  | case4 inComment c cs hline hreturn hc ih =>
    obtain ⟨w, m, hw, hagain, hplain⟩ := ih
    have hne : c ≠ '\r' := by
      rintro rfl
      simp [isPlain] at hc
    refine ⟨c :: w, m, congrArg _ hw, fun rest => ?_, hplain⟩
    rw [List.filter_cons_of_pos (by simpa using hne), List.cons_append, skipGap, if_pos hc, hagain]
    · exact hline
    · exact fun _ h _ => hne h
  | case5 inComment c cs hline hreturn hc hspace ih =>
    obtain ⟨w, m, hw, hagain, hplain⟩ := ih
    have hne : c ≠ '\r' := by
      rintro rfl
      cases hspace
    refine ⟨c :: w, m, congrArg _ hw, fun rest => ?_, hplain⟩
    rw [List.filter_cons_of_pos (by simpa using hne), List.cons_append, skipGap, if_neg hc,
      if_pos hspace, hagain]
    · exact hline
    · exact fun _ h _ => hne h
  | case6 inComment cs hline hreturn hc hspace ih =>
    obtain ⟨w, m, hw, hagain, hplain⟩ := ih
    refine ⟨'#' :: w, m, congrArg _ hw, fun rest => ?_, hplain⟩
    rw [List.filter_cons_of_pos (by decide), List.cons_append, skipGap, if_neg hc, if_neg hspace,
      if_pos rfl, hagain]
    · exact hline
    · exact fun _ h _ => absurd h (by decide)
  | case7 inComment c cs hline hreturn hc hspace hcomment =>
    refine ⟨[], inComment, rfl, fun _ => rfl, fun hm d hd => ?_⟩
    obtain rfl : c = d := Option.some.inj hd
    simpa [hm] using hc

lemma isStart_of_notMem_stops {c : Char} (hc : c ∉ stops) (cs : List Char) : IsStart (c :: cs) := by
  simp only [stops, List.mem_cons, List.not_mem_nil, or_false, not_or] at hc
  obtain ⟨hblank, htab, hline, hreturn, hcomment, -⟩ := hc
  exact isStart_cons (by simp [isSpace, hblank, htab]) hline hreturn hcomment cs

/-- Whatever passes over space and comments to the end of a value begins with its end. -/
lemma isEnd_of_skipGap (h : IsStopped (skipGap false cs)) : IsEnd cs where
  stopped := by
    rintro c hc
    obtain ⟨cs, rfl⟩ : ∃ cs', cs = c :: cs' := by
      cases cs with
      | nil => cases hc
      | cons d cs => exact ⟨cs, by rw [Option.some.inj hc]⟩
    by_contra hno
    rw [isStart_of_notMem_stops hno cs] at h
    exact hno (h c rfl)
  noTime := by
    rintro c cs rfl
    by_contra hdigit
    have hno : c ∉ stops := fun hc => hdigit (not_isDigit_of_mem_stops hc)
    have hskip : skipGap false (' ' :: c :: cs) = skipGap false (c :: cs) := by
      rw [skipGap]
      · rfl
      · decide
      · exact fun _ h _ => absurd h (by decide)
    rw [hskip, isStart_of_notMem_stops hno cs] at h
    exact hno (h c rfl)

lemma between_append (w rest : List Char) :
    between (w ++ rest) rest = String.ofList (w.filter (· ≠ '\r')) := by
  rw [between, List.length_append, Nat.add_sub_cancel, List.take_left']
  rfl

/-- What stands between two parts is read again in front of the beginning of a part. -/
lemma gap_again {c : Char} (h : gap cs = (s, c :: rest)) (hc : isPlain c) {rest' : List Char}
    (hrest' : IsStart rest') : gap (s.toList ++ rest') = (s, rest') := by
  obtain ⟨w, m, hw, hagain, hplain⟩ := skipGap_spec false cs
  obtain ⟨hs, hskip⟩ := Prod.mk.inj h
  rw [hskip] at hw hplain hs
  have hm : m = false := by
    by_contra hm
    have hno := hplain (by simpa using hm) c rfl
    rw [hc] at hno
    cases hno
  subst hm
  subst hw
  rw [between_append] at hs
  subst hs
  rw [String.toList_ofList, gap, hagain, hrest', between_append, List.filter_filter]
  simp

/-- What stands at the end of a document is read again. -/
lemma gap_end (h : gap cs = (s, [])) : gap s.toList = (s, []) := by
  obtain ⟨w, m, hw, hagain, -⟩ := skipGap_spec false cs
  obtain ⟨hs, hskip⟩ := Prod.mk.inj h
  rw [hskip] at hw hs
  subst hw
  rw [between_append] at hs
  subst hs
  have hagain := hagain []
  have hnil : skipGap m [] = [] := rfl
  rw [List.append_nil, hnil] at hagain
  have hbetween := between_append (w.filter (· ≠ '\r')) []
  rw [List.append_nil, List.filter_filter] at hbetween
  rw [String.toList_ofList, gap, hagain, hbetween]
  simp

/-- What stands between a value and what ends it ends the value. -/
lemma isEnd_of_gap (h : gap cs = (s, rest)) (hrest : IsStopped rest) : IsEnd cs := by
  obtain ⟨-, hskip⟩ := Prod.mk.inj h
  rw [← hskip] at hrest
  exact isEnd_of_skipGap hrest

/-! ### The rest of a line -/

/-- A comment up to the end of its line, or nothing. -/
def IsComment (w : List Char) : Prop := w = [] ∨ ∃ v, w = '#' :: v ∧ ∀ c ∈ v, isPlain c

lemma exists_skipComment (cs : List Char) : ∃ w, cs = w ++ skipComment cs ∧ IsComment w := by
  rw [skipComment.eq_def]
  split
  · rename_i cs
    exact ⟨'#' :: cs.takeWhile isPlain, congrArg _ List.takeWhile_append_dropWhile.symm,
      .inr ⟨_, rfl, fun c hc => List.mem_takeWhile_imp hc⟩⟩
  · exact ⟨[], rfl, .inl rfl⟩

lemma IsComment.skipComment_append (hw : IsComment w) (rest : List Char) :
    skipComment (w ++ '\n' :: rest) = '\n' :: rest := by
  obtain rfl | ⟨v, rfl, hv⟩ := hw
  · rfl
  · change (v ++ '\n' :: rest).dropWhile isPlain = '\n' :: rest
    rw [List.dropWhile_append_of_pos hv]
    rfl

lemma IsComment.append (hw : IsComment w) (hstop : IsStopped rest) (hrest : IsInked rest) :
    IsStopped (w ++ rest) ∧ IsInked (w ++ rest) := by
  obtain rfl | ⟨v, rfl, -⟩ := hw
  · exact ⟨hstop, hrest⟩
  · constructor
    all_goals
      intro c hc
      rw [← Option.some.inj hc]
      decide

/-- Space and a comment have no carriage return. -/
lemma IsComment.filter_append {v : List Char} (hw : IsComment w) (hv : ∀ c ∈ v, isSpace c) :
    (v ++ w).filter (· ≠ '\r') = v ++ w := by
  refine List.filter_eq_self.mpr fun c hc => decide_eq_true ?_
  rintro rfl
  rcases List.mem_append.mp hc with hc | hc
  · cases hv _ hc
  · obtain rfl | ⟨v, rfl, hplain⟩ := hw
    · cases hc
    · rcases List.mem_cons.mp hc with hc | hc
      · cases hc
      · exact absurd (hplain _ hc) (by decide)

lemma isStopped_of_lineEnd? (h : lineEnd? cs = some rest) : IsStopped cs ∧ IsInked cs := by
  rw [lineEnd?.eq_def] at h
  split at h
  · exact ⟨nofun, nofun⟩
  all_goals first
    | cases h
      done
    | constructor
      all_goals
        intro c hc
        rw [← Option.some.inj hc]
        decide

/-- What stands behind a value on its line ends the value, and it is read again. -/
lemma lineRest?_eq_some (h : lineRest? cs = some (s, rest)) :
    IsEnd cs ∧ ∀ rest', IsEnd (s.toList ++ '\n' :: rest') ∧
      lineRest? (s.toList ++ '\n' :: rest') = some (s, rest') := by
  obtain ⟨left, hleft, hpair⟩ := Option.bind_eq_some_iff.mp h
  obtain ⟨hs, -⟩ := Prod.mk.inj (Option.some.inj hpair)
  obtain ⟨v, hcs, hv, -⟩ := exists_skipSpace cs
  obtain ⟨w, hcomment, hw⟩ := exists_skipComment (skipSpace cs)
  have hend := isStopped_of_lineEnd? hleft
  generalize skipComment (skipSpace cs) = after at hs hcomment hend
  have hskip := hw.append hend.1 hend.2
  rw [hcomment] at hcs
  subst hcs
  rw [← List.append_assoc, between_append, hw.filter_append hv] at hs
  subst hs
  refine ⟨isEnd_append hv hskip.1 hskip.2, fun rest' => ?_⟩
  have hline : IsStopped ('\n' :: rest') ∧ IsInked ('\n' :: rest') := by
    constructor
    all_goals
      intro c hc
      rw [← Option.some.inj hc]
      decide
  have hskip' := hw.append hline.1 hline.2
  rw [String.toList_ofList]
  refine ⟨?_, ?_⟩
  · rw [List.append_assoc]
    exact isEnd_append hv hskip'.1 hskip'.2
  · have hbetween := between_append (v ++ w) ('\n' :: rest')
    rw [hw.filter_append hv] at hbetween
    rw [lineRest?, List.append_assoc, skipSpace_append hv hskip'.2, hw.skipComment_append,
      ← List.append_assoc, hbetween]
    rfl

end CrudScaffold.Toml
