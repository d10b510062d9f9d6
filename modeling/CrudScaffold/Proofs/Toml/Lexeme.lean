import Mathlib.Data.Bool.AllAny
import Mathlib.Data.List.TakeWhile
import Mathlib.Data.Option.Basic
import Mathlib.Tactic.Lemma
import Mathlib.Tactic.SplitIfs
import CrudScaffold.Proofs.List
import CrudScaffold.Toml.Number

/-!
# Where a lexeme ends

Numbers, dates and times are read from the front of what is left of a document. Each of the readers
looks at the characters of its lexeme and at the one behind it, and if that one can stand in no
lexeme, it makes no difference which one it is or what follows (`IsLocal`). There is one exception:
behind a date a space may be followed by a time.
-/

namespace CrudScaffold.Toml

variable {α β : Type} {w u rest : List Char}

/-! ### Words -/

/-- The characters that end every number and every moment. -/
def stops : List Char := [' ', '\t', '\n', '\r', '#', ',', ']', '\x7d']

/-- Characters none of which ends a number. -/
def IsUnbroken (w : List Char) : Prop := ∀ c ∈ w, c ∉ stops

/-- What is left begins with a character that ends numbers, or is nothing. -/
def IsStopped (rest : List Char) : Prop := ∀ c, rest.head? = some c → c ∈ stops

/-- What may be left behind a value: something that stops it, but not a space and a digit, which
could be the beginning of a time. -/
structure IsEnd (rest : List Char) : Prop where
  stopped : IsStopped rest
  noTime : ∀ c cs, rest = ' ' :: c :: cs → c.isDigit = false

lemma IsUnbroken.of_suffix (h : IsUnbroken w) (hu : u <:+ w) : IsUnbroken u :=
  fun c hc => h c (hu.subset hc)

lemma IsUnbroken.tail {c : Char} (h : IsUnbroken (c :: w)) : IsUnbroken w :=
  h.of_suffix (List.suffix_cons c w)

lemma IsUnbroken.eq_nil (h : IsUnbroken u) (hstop : IsStopped (u ++ rest)) : u = [] := by
  cases u with
  | nil => rfl
  | cons c u => exact absurd (hstop c rfl) (h c List.mem_cons_self)

/-- Every text is a word with what stops it. -/
lemma exists_unbroken (cs : List Char) :
    ∃ w rest, cs = w ++ rest ∧ IsUnbroken w ∧ IsStopped rest := by
  refine ⟨cs.takeWhile (· ∉ stops), cs.dropWhile (· ∉ stops),
    List.takeWhile_append_dropWhile.symm, fun c hc => ?_, fun c hc => ?_⟩
  · simpa using List.mem_takeWhile_imp hc
  · have hstop := List.head?_dropWhile_not (· ∉ stops) cs
    rw [hc] at hstop
    simpa using hstop

/-- A condition on characters that no stop satisfies fails in front of a stopped rest. -/
lemma IsStopped.head (h : IsStopped rest) {p : Char → Bool} (hp : ∀ c ∈ stops, p c = false) :
    ∀ c, rest.head? = some c → p c = false :=
  fun c hc => hp c (h c hc)

/-! ### Local readers -/

/-- What a reader leaves of its input. -/
class Remainder (β : Type) where
  left : β → List Char
  behind : β → List Char → β

instance : Remainder (List Char) where
  left := id
  behind u rest := u ++ rest

instance : Remainder (α × List Char) where
  left := Prod.snd
  behind x rest := (x.1, x.2 ++ rest)

/-- A reader takes of a word what it takes of the word alone, whatever it is stopped by. -/
structure IsLocal [Remainder β] (p : List Char → Option β) : Prop where
  suffix : ∀ {w b}, p w = some b → Remainder.left b <:+ w
  append : ∀ {w rest}, IsUnbroken w → IsStopped rest →
    p (w ++ rest) = (p w).map (Remainder.behind · rest)

namespace IsLocal

variable [Remainder β]

lemma pure (a : α) : IsLocal fun cs => some (a, cs) where
  suffix h := by
    cases h
    exact List.suffix_rfl
  append _ _ := rfl

lemma done : IsLocal fun cs : List Char => some cs where
  suffix h := by
    cases h
    exact List.suffix_rfl
  append _ _ := rfl

lemma check (a : Option α) : IsLocal fun cs => a >>= fun a => some (a, cs) := by
  cases a with
  | some a => exact pure a
  | none => exact { suffix := nofun, append := fun _ _ => rfl }

lemma bind {p : Parser α} {q : α × List Char → Option β} (hp : IsLocal p)
    (hq : ∀ a, IsLocal fun cs => q (a, cs)) : IsLocal fun cs => p cs >>= q where
  suffix h := by
    obtain ⟨x, hx, h⟩ := Option.bind_eq_some_iff.mp h
    exact ((hq x.1).suffix h).trans (hp.suffix hx)
  append {w rest} hw hrest := by
    rw [hp.append hw hrest]
    cases hx : p w with
    | none => rfl
    | some x => exact (hq x.1).append (hw.of_suffix (hp.suffix hx)) hrest

lemma andThen {p : List Char → Option (List Char)} {q : List Char → Option β} (hp : IsLocal p)
    (hq : IsLocal q) : IsLocal fun cs => p cs >>= q where
  suffix h := by
    obtain ⟨x, hx, h⟩ := Option.bind_eq_some_iff.mp h
    exact (hq.suffix h).trans (hp.suffix hx)
  append {w rest} hw hrest := by
    rw [hp.append hw hrest]
    cases hx : p w with
    | none => rfl
    | some x => exact hq.append (hw.of_suffix (hp.suffix hx)) hrest

lemma orElse {p q : List Char → Option β} (hp : IsLocal p) (hq : IsLocal q) :
    IsLocal fun cs => p cs <|> q cs where
  suffix {w b} h := by
    cases hx : p w with
    | none =>
      rw [hx] at h
      exact hq.suffix h
    | some x =>
      rw [hx] at h
      exact hp.suffix (hx.trans h)
  append {w rest} hw hrest := by
    rw [hp.append hw hrest, hq.append hw hrest]
    cases p w <;> rfl

/-- A reader may go on with what stands behind a character of some kind. -/
lemma cons {p q : List Char → Option β} (hp : IsLocal p) (good : Char → Bool)
    (hstops : ∀ c ∈ stops, good c = false) (hq : ∀ c cs, good c → q (c :: cs) = p cs)
    (hnone : ∀ cs, (∀ c, cs.head? = some c → good c = false) → q cs = Option.none) :
    IsLocal q where
  suffix {w b} h := by
    cases w with
    | nil =>
      rw [hnone [] nofun] at h
      cases h
    | cons c w =>
      by_cases hc : good c
      · rw [hq c w hc] at h
        exact (hp.suffix h).trans (List.suffix_cons c w)
      · rw [hnone _ fun d hd => by
          rw [← Option.some.inj hd]
          exact Bool.eq_false_iff.mpr hc] at h
        cases h
  append {w rest} hw hrest := by
    cases w with
    | nil =>
      rw [List.nil_append, hnone [] nofun, hnone rest fun c hc => hstops c (hrest c hc)]
      rfl
    | cons c w =>
      by_cases hc : good c
      · rw [List.cons_append, hq c _ hc, hq c _ hc, hp.append hw.tail hrest]
      · have hbad : ∀ cs, q (c :: cs) = Option.none := by
          intro cs
          refine hnone _ fun d hd => ?_
          rw [← Option.some.inj hd]
          exact Bool.eq_false_iff.mpr hc
        rw [List.cons_append, hbad, hbad]
        rfl

end IsLocal

/-! ### Digits -/

/-- A kind of digits that has neither stops nor underscores. -/
def IsDigitKind (p : Char → Bool) : Prop := ∀ c ∈ '_' :: stops, p c = false

variable {isDigit : Char → Bool}

lemma moreDigits_eq_nil (h : IsDigitKind isDigit) (hrest : IsStopped rest) :
    moreDigits isDigit rest = ([], rest) := by
  cases rest with
  | nil => rfl
  | cons c rest =>
    have hc : c ∈ stops := hrest c rfl
    have hdigit : isDigit c = false := h c (List.mem_cons_of_mem _ hc)
    have hmark : c ≠ '_' := by
      rintro rfl
      exact absurd hc (by decide)
    rw [moreDigits]
    · simp [hdigit]
    · rintro d rest rfl
      exact absurd rfl hmark

lemma moreDigits_suffix (cs : List Char) : (moreDigits isDigit cs).2 <:+ cs := by
  fun_induction moreDigits isDigit cs with
  | case1 c rest _ digits rest' hrest ih =>
    rw [hrest] at ih
    exact ih.trans ⟨['_', c], rfl⟩
  | case2 => exact List.suffix_rfl
  | case3 c rest _ _ digits rest' hrest ih =>
    rw [hrest] at ih
    exact ih.trans (List.suffix_cons c rest)
  | case4 => exact List.suffix_rfl
  | case5 => exact List.suffix_rfl

lemma moreDigits_append (h : IsDigitKind isDigit) (hw : IsUnbroken w) (hrest : IsStopped rest) :
    moreDigits isDigit (w ++ rest) =
      ((moreDigits isDigit w).1, (moreDigits isDigit w).2 ++ rest) := by
  fun_induction moreDigits isDigit w with
  | case1 c cs hc digits cs' hcs ih =>
    have ih := ih hw.tail.tail
    rw [hcs] at ih
    simp only [List.cons_append, moreDigits, hc, if_true, ih]
  | case2 c cs hc => simp only [List.cons_append, moreDigits, hc]; rfl
  | case3 c cs hno hc digits cs' hcs ih =>
    have ih := ih hw.tail
    rw [hcs] at ih
    have hmark : c ≠ '_' := by
      rintro rfl
      rw [h '_' List.mem_cons_self] at hc
      cases hc
    rw [List.cons_append, moreDigits]
    · simp only [hc, if_true, ih]
    · rintro d rest rfl
      exact absurd rfl hmark
  | case4 c cs hno hc =>
    rw [List.cons_append]
    by_cases hmark : c = '_'
    · -- an underscore at the end of the word
      subst hmark
      cases cs with
      | cons d cs => exact absurd rfl (hno d cs rfl)
      | nil =>
        cases rest with
        | nil => simp [moreDigits, h '_' List.mem_cons_self]
        | cons d rest =>
          have hd := h d (List.mem_cons_of_mem _ (hrest d rfl))
          simp [moreDigits, hd]
    · rw [moreDigits]
      · simp [hc]
      · rintro d rest rfl
        exact absurd rfl hmark
  | case5 => exact moreDigits_eq_nil h hrest

lemma isLocal_digits? {isDigit : Char → Bool} (h : IsDigitKind isDigit) :
    IsLocal (digits? isDigit) where
  suffix {w b} hb := by
    cases w with
    | nil => cases hb
    | cons c w =>
      rw [digits?] at hb
      split_ifs at hb
      cases hb
      exact (moreDigits_suffix w).trans (List.suffix_cons c w)
  append {w rest} hw hrest := by
    cases w with
    | nil =>
      cases rest with
      | nil => rfl
      | cons c rest =>
        have hc := h c (List.mem_cons_of_mem _ (hrest c rfl))
        simp [digits?, hc]
    | cons c w =>
      rw [List.cons_append, digits?, digits?]
      split_ifs
      · rw [moreDigits_append h hw.tail hrest]
        rfl
      · rfl

lemma isDigitKind_isDigit : IsDigitKind Char.isDigit := List.all_iff_forall_prop.mp (by decide)

lemma isLocal_decimal? : IsLocal decimal? where
  suffix {w b} h := by
    rw [decimal?.eq_def] at h
    split at h
    · cases h
      exact List.suffix_cons _ _
    · exact (isLocal_digits? isDigitKind_isDigit).suffix h
  append {w rest} hw hrest := by
    cases w with
    | nil =>
      rw [List.nil_append, decimal?]
      · exact (isLocal_digits? isDigitKind_isDigit).append hw hrest
      · rintro rest rfl
        exact absurd (hrest _ rfl) (by decide)
    | cons c w =>
      by_cases hc : c = '0'
      · subst hc
        rfl
      · rw [List.cons_append, decimal?, decimal?]
        · exact (isLocal_digits? isDigitKind_isDigit).append hw hrest
        all_goals
          rintro _ ⟨⟩
          exact hc rfl

/-- A reader may begin with a sign. -/
lemma IsLocal.sign [Remainder β] {p : Bool → List Char → Option β} (hp : ∀ b, IsLocal (p b)) :
    IsLocal fun cs => p (Toml.sign cs).1 (Toml.sign cs).2 where
  suffix {w b} h := by
    refine ((hp _).suffix h).trans ?_
    rw [Toml.sign.eq_def]
    split
    · exact List.suffix_cons _ _
    · exact List.suffix_cons _ _
    · exact List.suffix_rfl
  append {w rest} hw hrest := by
    cases w with
    | nil =>
      have hsign : Toml.sign rest = (false, rest) := by
        rw [Toml.sign]
        all_goals
          rintro rest rfl
          exact absurd (hrest _ rfl) (by decide)
      rw [List.nil_append, hsign]
      exact (hp false).append hw hrest
    | cons c w =>
      by_cases hplus : c = '+'
      · subst hplus
        exact (hp false).append hw.tail hrest
      · by_cases hminus : c = '-'
        · subst hminus
          exact (hp true).append hw.tail hrest
        · have hsign : ∀ cs, Toml.sign (c :: cs) = (false, c :: cs) := by
            intro cs
            rw [Toml.sign]
            · rintro _ ⟨⟩
              exact hplus rfl
            · rintro _ ⟨⟩
              exact hminus rfl
          rw [List.cons_append, hsign, hsign]
          exact (hp false).append hw hrest

/-- What is written in front of a rest. -/
lemma written_append (w rest : List Char) : written (w ++ rest) rest = String.ofList w := by
  rw [written, List.length_append, Nat.add_sub_cancel, List.take_left']
  rfl

lemma written_append_append (hu : u <:+ w) (rest : List Char) :
    written (w ++ rest) (u ++ rest) = written w u := by
  obtain ⟨v, rfl⟩ := hu
  rw [List.append_assoc, written_append, written_append]

/-- What has been skipped may be kept as it is written. -/
lemma IsLocal.written {p : List Char → Option (List Char)} (hp : IsLocal p) (f : String → α) :
    IsLocal fun cs => (p cs).map fun left => (f (Toml.written cs left), left) where
  suffix {w b} h := by
    obtain ⟨left, hleft, rfl⟩ := Option.map_eq_some_iff.mp h
    exact hp.suffix hleft
  append {w rest} hw hrest := by
    rw [hp.append hw hrest]
    cases hleft : p w with
    | none => rfl
    | some left =>
      have hwritten : Toml.written (w ++ rest) (left ++ rest) = Toml.written w left :=
        written_append_append (hp.suffix hleft) rest
      simp only [Option.map_some, Remainder.behind, hwritten]

/-! ### Numbers -/

lemma skip?_eq_some_iff {c : Char} {cs : List Char} : skip? c cs = some rest ↔ cs = c :: rest := by
  cases cs with
  | nil => exact iff_of_false nofun nofun
  | cons d cs =>
    rw [skip?]
    split_ifs with h
    · rw [Option.some_inj, h, List.cons.injEq, eq_self_iff_true, true_and]
    · exact iff_of_false nofun fun he => h (List.cons.inj he).1

lemma isLocal_skip? {c : Char} (hc : c ∉ stops) : IsLocal (skip? c) where
  suffix {w b} h := by
    cases w with
    | nil => cases h
    | cons d w =>
      rw [skip?] at h
      split_ifs at h
      cases h
      exact List.suffix_cons _ _
  append {w rest} hw hrest := by
    cases w with
    | nil =>
      cases rest with
      | nil => rfl
      | cons d rest =>
        have hd : d ≠ c := by
          rintro rfl
          exact hc (hrest d rfl)
        rw [List.nil_append, skip?, if_neg hd]
        rfl
    | cons d w =>
      rw [List.cons_append, skip?, skip?]
      split_ifs <;> rfl

lemma isLocal_numeral {digits : Parser (List Char)} (h : IsLocal digits)
    (f : List Char → Int) : IsLocal fun cs => digits cs >>= fun x =>
      word? (f x.1) >>= fun v => some (v, x.2) :=
  h.bind fun ds => .check (word? (f ds))

lemma isLocal_integer? : IsLocal integer? := by
  have hkinds : IsDigitKind (fun c => (hexDigit? c).isSome) ∧
      IsDigitKind (fun c => '0' ≤ c && c ≤ '7') ∧ IsDigitKind (fun c => c == '0' || c == '1') := by
    refine ⟨?_, ?_, ?_⟩
    all_goals exact List.all_iff_forall_prop.mp (by decide)
  have hhex := isLocal_numeral (isLocal_digits? hkinds.1) fun ds => numberOf 16 ds
  have hoctal := isLocal_numeral (isLocal_digits? hkinds.2.1) fun ds => numberOf 8 ds
  have hbinary := isLocal_numeral (isLocal_digits? hkinds.2.2) fun ds => numberOf 2 ds
  have hsigned := IsLocal.sign fun b => isLocal_numeral isLocal_decimal? fun ds =>
    if b then -(numberOf 10 ds : Int) else numberOf 10 ds
  constructor
  · intro w b h
    rw [integer?.eq_def] at h
    split at h
    · exact (hhex.suffix h).trans ⟨['0', 'x'], rfl⟩
    · exact (hoctal.suffix h).trans ⟨['0', 'o'], rfl⟩
    · exact (hbinary.suffix h).trans ⟨['0', 'b'], rfl⟩
    · exact hsigned.suffix h
  · intro w rest hw hrest
    -- behind a zero the letter of a base has to be one of the word
    by_cases hbase : ∃ c ∈ ['x', 'o', 'b'], ∃ cs, w = '0' :: c :: cs
    · obtain ⟨c, hc, cs, rfl⟩ := hbase
      have hcs := hw.tail.tail
      simp only [List.mem_cons, List.not_mem_nil, or_false] at hc
      rcases hc with rfl | rfl | rfl
      · exact hhex.append hcs hrest
      · exact hoctal.append hcs hrest
      · exact hbinary.append hcs hrest
    · have hnone : ∀ c ∈ ['x', 'o', 'b'], ∀ cs, w ++ rest ≠ '0' :: c :: cs := by
        rintro c hc cs h
        have hletter : ∀ c ∈ ['x', 'o', 'b'], c ∉ stops :=
          List.all_iff_forall_prop.mp (by decide)
        rcases w with _ | ⟨d, _ | ⟨e, w⟩⟩
        · rw [List.nil_append] at h
          subst h
          exact absurd (hrest '0' rfl) (by decide)
        · obtain ⟨-, rfl⟩ : d = '0' ∧ rest = c :: cs := by simpa using h
          exact hletter c hc (hrest c rfl)
        · obtain ⟨rfl, rfl, -⟩ : d = '0' ∧ e = c ∧ w ++ rest = cs := by simpa using h
          exact hbase ⟨_, hc, w, rfl⟩
      rw [integer?, integer?]
      · exact hsigned.append hw hrest
      all_goals
        rintro cs h
        first
          | exact hbase ⟨_, by simp, cs, h⟩
          | exact hnone _ (by simp) cs h

lemma isLocal_exponent? : IsLocal exponent? := by
  have hdigits := IsLocal.sign fun b => (isLocal_digits? isDigitKind_isDigit).bind
    (q := fun x => some (if b then -(numberOf 10 x.1 : Int) else numberOf 10 x.1, x.2))
    fun ds => .pure (if b then -(numberOf 10 ds : Int) else numberOf 10 ds)
  refine hdigits.cons (fun c => c == 'e' || c == 'E') (List.all_iff_forall_prop.mp (by decide))
    (fun c cs hc => ?_) fun cs h => ?_
  · have hc : ¬ (c ≠ 'e' ∧ c ≠ 'E') := by simpa [or_iff_not_imp_left] using hc
    rw [exponent?, if_neg hc]
    rfl
  · cases cs with
    | nil => rfl
    | cons c cs =>
      have hc : c ≠ 'e' ∧ c ≠ 'E' := by simpa using h c rfl
      rw [exponent?, if_pos hc]
      rfl

lemma isLocal_fraction? : IsLocal fraction? := by
  refine (isLocal_digits? isDigitKind_isDigit).cons (· == '.')
    (List.all_iff_forall_prop.mp (by decide)) (fun c cs hc => ?_) fun cs h => ?_
  · rw [eq_of_beq hc]
    rfl
  · rw [fraction?]
    rintro rest rfl
    exact absurd (h '.' rfl) (by decide)

/-- What a number with a fraction or an exponent has behind the digits in front of the point. -/
def floatTail? : Parser (List Char × Int) := fun cs =>
  match fraction? cs with
  | some (fraction, cs) =>
    match exponent? cs with
    | some (e, cs) => some ((fraction, e), cs)
    | none => some ((fraction, 0), cs)
  | none => (exponent? cs).map fun (e, cs) => (([], e), cs)

lemma isLocal_floatTail? : IsLocal floatTail? := by
  have hexponent := isLocal_exponent?.orElse (.pure (0 : Int))
  have hfraction := (isLocal_fraction?.bind (q := fun x => (exponent? x.2 <|> some (0, x.2)) >>=
    fun y => some ((x.1, y.1), y.2)) fun ds => hexponent.bind
      (q := fun y => some ((ds, y.1), y.2)) fun e => .pure (ds, e)).orElse
      (isLocal_exponent?.bind (q := fun y => some ((([] : List Char), y.1), y.2))
        fun e => .pure ([], e))
  convert hfraction using 2 with cs
  rw [floatTail?]
  cases fraction? cs with
  | none => cases exponent? cs <;> rfl
  | some x =>
    obtain ⟨ds, cs⟩ := x
    change (match exponent? cs with
      | some (e, cs) => some ((ds, e), cs)
      | none => some ((ds, (0 : Int)), cs)) =
        ((exponent? cs <|> some (0, cs)) >>= fun y => some ((ds, y.1), y.2)).orElse _
    cases exponent? cs <;> rfl

lemma isLocal_plainFloat? : IsLocal plainFloat? := by
  have hcore : ∀ b, IsLocal fun cs => decimal? cs >>= fun x => floatTail? x.2 >>= fun y =>
      if !b && isHuge (x.1 ++ y.1.1) (y.1.2 - y.1.1.length) then none else some y.2 := by
    refine fun b => isLocal_decimal?.bind fun whole => ?_
    refine IsLocal.bind (q := fun y => if !b && isHuge (whole ++ y.1.1) (y.1.2 - y.1.1.length)
      then none else some y.2) isLocal_floatTail? fun tail => ?_
    dsimp only
    split_ifs
    · exact ⟨nofun, fun _ _ => rfl⟩
    · exact .done
  convert (IsLocal.sign hcore).written Value.float using 2 with cs
  unfold plainFloat? floatTail?
  obtain ⟨negative, cs'⟩ := sign cs
  dsimp only
  cases decimal? cs' with
  | none => rfl
  | some x =>
    dsimp only [Option.bind_eq_bind, Option.bind_some]
    rcases fraction? x.2 with _ | ⟨fraction, cs₁⟩
    · rcases exponent? x.2 with _ | ⟨e, cs₂⟩
      · rfl
      · dsimp only [Option.bind_some, Option.map_some]
        split_ifs <;> rfl
    · dsimp only
      rcases exponent? cs₁ with _ | ⟨e, cs₂⟩
      all_goals
        dsimp only [Option.bind_some]
        split_ifs <;> rfl

lemma isLocal_specialFloat? : IsLocal specialFloat? := by
  have hinfinite := (isLocal_skip? (c := 'i') (by decide)).andThen
    ((isLocal_skip? (c := 'n') (by decide)).andThen (isLocal_skip? (c := 'f') (by decide)))
  have hnot := (isLocal_skip? (c := 'n') (by decide)).andThen
    ((isLocal_skip? (c := 'a') (by decide)).andThen (isLocal_skip? (c := 'n') (by decide)))
  convert (IsLocal.sign fun _ => hinfinite.orElse hnot).written Value.float using 2 with cs
  rw [specialFloat?]
  split
  · rename_i h
    rw [h]
    rfl
  · rename_i h
    rw [h]
    rfl
  · rename_i hinf hnan
    symm
    refine Option.map_eq_none_iff.mpr (Option.eq_none_iff_forall_ne_some.mpr fun left h => ?_)
    rcases (Option.orElse_eq_some _ _ _).mp h with h | ⟨-, h⟩
    all_goals
      obtain ⟨cs₁, h₁, h⟩ := Option.bind_eq_some_iff.mp h
      obtain ⟨cs₂, h₂, h₃⟩ := Option.bind_eq_some_iff.mp h
      rw [skip?_eq_some_iff] at h₁ h₂ h₃
      subst h₃ h₂
    · exact hinf left h₁
    · exact hnan left h₁

lemma isLocal_float? : IsLocal float? := isLocal_plainFloat?.orElse isLocal_specialFloat?

/-! ### Moments -/

lemma isLocal_fixed? (count low high : Nat) : IsLocal (fixed? count low high) where
  suffix h := by
    rw [fixed?] at h
    split_ifs at h
    cases h
    exact List.drop_suffix _ _
  append {w rest} hw hrest := by
    by_cases hlength : count ≤ w.length
    · simp only [fixed?, List.take_append_of_le_length hlength,
        List.drop_append_of_le_length hlength]
      split_ifs <;> rfl
    · -- digits would have to be taken of what stands behind the word
      have hshort : (w.take count).length ≠ count := by
        rw [List.length_take]
        omega
      have hbroken : ¬ (((w ++ rest).take count).length = count ∧
          ((w ++ rest).take count).all Char.isDigit) := by
        rintro ⟨hcount, hall⟩
        cases rest with
        | nil =>
          rw [List.append_nil] at hcount
          exact hshort hcount
        | cons c rest =>
          have hc : c ∈ (w ++ c :: rest).take count := by
            refine List.mem_take_iff_getElem.mpr ⟨w.length, by simp; omega, by simp⟩
          have hdigit := List.all_eq_true.mp hall c hc
          rw [isDigitKind_isDigit c (List.mem_cons_of_mem _ (hrest c rfl))] at hdigit
          cases hdigit
      rw [fixed?, fixed?, if_neg fun h => hbroken ⟨h.1, h.2.1⟩, if_neg fun h => hshort h.1]
      rfl

lemma isLocal_skipDate? : IsLocal skipDate? := by
  have hday (year month : Nat) : IsLocal fun cs =>
      skip? '-' cs >>= fun cs => fixed? 2 1 (daysIn year month) cs >>= fun z => some z.2 :=
    (isLocal_skip? (by decide)).andThen
      ((isLocal_fixed? 2 1 _).bind (q := fun z => some z.2) fun _ => .done)
  have hmonth (year : Nat) := (isLocal_skip? (c := '-') (by decide)).andThen
    ((isLocal_fixed? 2 1 12).bind (q := fun y => skip? '-' y.2 >>= fun cs =>
      fixed? 2 1 (daysIn year y.1) cs >>= fun z => some z.2) (hday year))
  exact (isLocal_fixed? 4 0 9999).bind (q := fun x => skip? '-' x.2 >>= fun cs =>
    fixed? 2 1 12 cs >>=
    fun y => skip? '-' y.2 >>= fun cs => fixed? 2 1 (daysIn x.1 y.1) cs >>= fun z => some z.2)
    hmonth

lemma isLocal_skipParts? : IsLocal skipParts? where
  suffix {w b} h := by
    rw [skipParts?.eq_def] at h
    split at h
    · split at h
      · split_ifs at h
        cases h
        exact (List.dropWhile_suffix _).trans (List.suffix_cons _ _)
      · cases h
    · cases h
      exact List.suffix_rfl
  append {w rest} hw hrest := by
    have hdigit := hrest.head (p := Char.isDigit) fun c hc =>
      isDigitKind_isDigit c (List.mem_cons_of_mem _ hc)
    have hnone : ∀ cs, cs.head? ≠ some '.' → skipParts? cs = some cs := by
      intro cs hcs
      rw [skipParts?]
      rintro cs' rfl
      exact hcs rfl
    rcases w with _ | ⟨c, w⟩
    · rw [List.nil_append, hnone rest fun h => absurd (hrest _ h) (by decide)]
      rfl
    · by_cases hc : c = '.'
      · subst hc
        rcases w with _ | ⟨d, w⟩
        · cases rest with
          | nil => rfl
          | cons d rest =>
            have hd : d.isDigit = false := hdigit d rfl
            simp [skipParts?, hd]
        · have hdrop : ((d :: w) ++ rest).dropWhile Char.isDigit =
              (d :: w).dropWhile Char.isDigit ++ rest := by
            have hstop : rest.dropWhile Char.isDigit = rest :=
              (takeWhile_append_of_head (l := []) nofun hdigit).2
            rw [List.dropWhile_append, hstop]
            split_ifs with hempty
            · rw [List.isEmpty_iff.mp hempty, List.nil_append]
            · rfl
          have hskip : ∀ cs, skipParts? ('.' :: d :: cs) =
            if d.isDigit then some ((d :: cs).dropWhile Char.isDigit) else none := fun _ => rfl
          rw [List.cons_append, List.cons_append, hskip, hskip, ← List.cons_append, hdrop]
          split_ifs <;> rfl
      · have hne : ∀ cs, (c :: cs).head? ≠ some '.' := fun _ h => hc (Option.some.inj h)
        rw [List.cons_append, hnone _ (hne _), hnone _ (hne _)]
        rfl

lemma isLocal_skipTime? : IsLocal skipTime? := by
  have hsecond := (isLocal_skip? (c := ':') (by decide)).andThen
    ((isLocal_fixed? 2 0 60).bind (q := fun z => skipParts? z.2) fun _ => isLocal_skipParts?)
  have hminute := (isLocal_skip? (c := ':') (by decide)).andThen
    ((isLocal_fixed? 2 0 59).bind (q := fun y => skip? ':' y.2 >>= fun cs => fixed? 2 0 60 cs >>=
      fun z => skipParts? z.2) fun _ => hsecond)
  exact (isLocal_fixed? 2 0 23).bind (q := fun x => skip? ':' x.2 >>= fun cs => fixed? 2 0 59 cs >>=
    fun y => skip? ':' y.2 >>= fun cs => fixed? 2 0 60 cs >>= fun z => skipParts? z.2)
    fun _ => hminute

lemma isLocal_skipOffset? : IsLocal skipOffset? := by
  have hshift : IsLocal fun cs => fixed? 2 0 23 cs >>= fun x => skip? ':' x.2 >>= fun cs =>
      fixed? 2 0 59 cs >>= fun y => some y.2 :=
    (isLocal_fixed? 2 0 23).bind (q := fun x => skip? ':' x.2 >>= fun cs => fixed? 2 0 59 cs >>=
      fun y => some y.2) fun _ => (isLocal_skip? (by decide)).andThen
        ((isLocal_fixed? 2 0 59).bind (q := fun y => some y.2) fun _ => .done)
  constructor
  · intro w b h
    cases w with
    | nil =>
      cases h
      exact List.suffix_rfl
    | cons c w =>
      rw [skipOffset?] at h
      split_ifs at h
      · cases h
        exact List.suffix_cons _ _
      · exact (hshift.suffix h).trans (List.suffix_cons _ _)
      · cases h
        exact List.suffix_rfl
  · intro w rest hw hrest
    cases w with
    | nil =>
      cases rest with
      | nil => rfl
      | cons c rest =>
        have hletters : ∀ d ∈ stops, ¬ (d = 'Z' ∨ d = 'z') ∧ ¬ (d = '+' ∨ d = '-') :=
          List.all_iff_forall_prop.mp (by decide)
        have hskip : skipOffset? (c :: rest) = some (c :: rest) := by
          obtain ⟨hzero, hsign⟩ := hletters c (hrest c rfl)
          rw [skipOffset?, if_neg hzero, if_neg hsign]
        exact hskip
    | cons c w =>
      rw [List.cons_append, skipOffset?, skipOffset?]
      split_ifs
      · rfl
      · exact hshift.append hw.tail hrest
      · rfl

lemma skipDayTime?_eq_of_fixed {c : Char} {cs : List Char} {n : Nat} {cs' : List Char}
    (h : fixed? 2 0 23 cs = some (n, ':' :: cs')) :
    skipDayTime? (c :: cs) =
      if isTimeMark c then skipTime? cs >>= skipOffset? else some (c :: cs) := by
  rw [skipDayTime?, h]
  rfl

lemma skipDayTime?_eq_self {c : Char} {cs : List Char}
    (h : ∀ n cs', fixed? 2 0 23 cs ≠ some (n, ':' :: cs')) :
    skipDayTime? (c :: cs) = some (c :: cs) := by
  rw [skipDayTime?]
  split
  · exact absurd ‹_› (h _ _)
  · rfl

lemma isLocal_skipDayTime : IsLocal fun cs => skipTime? cs >>= skipOffset? :=
  isLocal_skipTime?.andThen isLocal_skipOffset?

lemma skipDayTime?_suffix (h : skipDayTime? w = some u) : u <:+ w := by
  cases w with
  | nil =>
    cases h
    exact List.suffix_rfl
  | cons c w =>
    rw [skipDayTime?] at h
    split at h
    · split_ifs at h
      · exact (isLocal_skipDayTime.suffix h).trans (List.suffix_cons c w)
      · cases h
        exact List.suffix_rfl
    · cases h
      exact List.suffix_rfl

/-- The hour of a time in a word is followed by a colon of the word. -/
lemma fixed?_append_colon (hw : IsUnbroken w) (hrest : IsStopped rest) {n : Nat} :
    (∃ cs, fixed? 2 0 23 (w ++ rest) = some (n, ':' :: cs)) ↔
      ∃ cs, fixed? 2 0 23 w = some (n, ':' :: cs) := by
  rw [(isLocal_fixed? 2 0 23).append hw hrest]
  constructor
  · rintro ⟨cs, h⟩
    obtain ⟨⟨m, u⟩, hu, hpair⟩ := Option.map_eq_some_iff.mp h
    obtain ⟨rfl, hcs⟩ : m = n ∧ u ++ rest = ':' :: cs := Prod.mk.inj hpair
    cases u with
    | nil =>
      obtain rfl : rest = ':' :: cs := hcs
      exact absurd (hrest ':' rfl) (by decide)
    | cons c u =>
      obtain ⟨rfl, -⟩ := List.cons.inj hcs
      exact ⟨u, hu⟩
  · rintro ⟨cs, h⟩
    rw [h]
    exact ⟨cs ++ rest, rfl⟩

/-- The time behind a date is read within a word. -/
lemma skipDayTime?_append {c : Char} (hw : IsUnbroken (c :: w)) (hrest : IsStopped rest) :
    skipDayTime? (c :: w ++ rest) = (skipDayTime? (c :: w)).map (· ++ rest) := by
  rw [List.cons_append]
  by_cases hhour : ∃ n cs, fixed? 2 0 23 w = some (n, ':' :: cs)
  · obtain ⟨n, hcs⟩ := hhour
    obtain ⟨cs', h'⟩ := (fixed?_append_colon hw.tail hrest).mpr hcs
    obtain ⟨cs, h⟩ := hcs
    rw [skipDayTime?_eq_of_fixed h, skipDayTime?_eq_of_fixed h']
    split_ifs
    · exact isLocal_skipDayTime.append hw.tail hrest
    · rfl
  · have hhour' : ∀ n cs, fixed? 2 0 23 (w ++ rest) ≠ some (n, ':' :: cs) := fun n cs h =>
      hhour ⟨n, (fixed?_append_colon hw.tail hrest).mp ⟨cs, h⟩⟩
    rw [skipDayTime?_eq_self hhour', skipDayTime?_eq_self fun n cs h => hhour ⟨n, cs, h⟩]
    rfl

/-- Behind a date nothing is skipped that may stand behind a value. -/
lemma IsEnd.skipDayTime?_eq (h : IsEnd rest) : skipDayTime? rest = some rest := by
  rcases rest with _ | ⟨c, cs⟩
  · rfl
  by_cases hhour : ∃ n cs', fixed? 2 0 23 cs = some (n, ':' :: cs')
  · obtain ⟨n, cs', hfixed⟩ := hhour
    rw [skipDayTime?_eq_of_fixed hfixed, if_neg]
    intro hmark
    -- of the marks between a date and a time only a space is a stop, and no digit follows it
    have hspace : ∀ d ∈ stops, isTimeMark d → d = ' ' :=
      List.all_iff_forall_prop.mp (by decide)
    obtain rfl := hspace c (h.stopped c rfl) hmark
    cases cs with
    | nil => cases hfixed
    | cons d cs =>
      have hd := h.noTime d cs rfl
      rw [fixed?] at hfixed
      split_ifs at hfixed with hdigits
      simp [hd] at hdigits
  · exact skipDayTime?_eq_self fun n cs' hfixed => hhour ⟨n, cs', hfixed⟩

/-- Skips a date, a time or both. -/
def skipMoment? (cs : List Char) : Option (List Char) :=
  (skipDate? cs >>= skipDayTime?) <|> skipTime? cs

lemma moment?_eq (cs : List Char) :
    moment? cs = (skipMoment? cs).map fun left => (.moment (written cs left), left) := by
  rw [moment?, skipMoment?]
  cases (skipDate? cs >>= skipDayTime?) <|> skipTime? cs <;> rfl

lemma skipMoment?_suffix (h : skipMoment? w = some u) : u <:+ w := by
  rcases (Option.orElse_eq_some _ _ _).mp h with h | ⟨-, h⟩
  · obtain ⟨v, hv, h⟩ := Option.bind_eq_some_iff.mp h
    exact (skipDayTime?_suffix h).trans (isLocal_skipDate?.suffix hv)
  · exact isLocal_skipTime?.suffix h

/-- A moment is read within a word if no time can follow the word. -/
lemma skipMoment?_append (hw : IsUnbroken w) (hrest : IsEnd rest) :
    skipMoment? (w ++ rest) = (skipMoment? w).map (· ++ rest) := by
  have hdate : (skipDate? (w ++ rest) >>= skipDayTime?) =
      (skipDate? w >>= skipDayTime?).map (· ++ rest) := by
    rw [isLocal_skipDate?.append hw hrest.stopped]
    cases hu : skipDate? w with
    | none => rfl
    | some u =>
      cases u with
      | nil => exact hrest.skipDayTime?_eq
      | cons c u =>
        have hunbroken := hw.of_suffix (isLocal_skipDate?.suffix hu)
        exact skipDayTime?_append hunbroken hrest.stopped
  rw [skipMoment?, skipMoment?, hdate, isLocal_skipTime?.append hw hrest.stopped]
  cases skipDate? w >>= skipDayTime? <;> rfl

/-- Where something is skipped behind a date, it is a space with a time that is a word. -/
lemma exists_time_of_skipDayTime? (hrest : IsStopped rest) (hno : ¬ IsEnd rest)
    {left : List Char} (hleft : IsEnd left) (h : skipDayTime? rest = some left) :
    ∃ w' n cs, rest = ' ' :: (w' ++ left) ∧ IsUnbroken w' ∧
      fixed? 2 0 23 w' = some (n, ':' :: cs) ∧ (skipTime? w' >>= skipOffset?) = some [] := by
  have hne : left ≠ rest := by
    rintro rfl
    exact hno hleft
  rcases rest with _ | ⟨c, cs⟩
  · exact absurd (Option.some.inj h).symm hne
  by_cases hhour : ∃ n cs', fixed? 2 0 23 cs = some (n, ':' :: cs')
  · obtain ⟨n, cs', hfixed⟩ := hhour
    rw [skipDayTime?_eq_of_fixed hfixed] at h
    split_ifs at h with hmark
    · have hspace : ∀ d ∈ stops, isTimeMark d → d = ' ' :=
        List.all_iff_forall_prop.mp (by decide)
      obtain rfl := hspace c (hrest c rfl) hmark
      obtain ⟨w', rest', rfl, hw', hrest'⟩ := exists_unbroken cs
      obtain ⟨cs, hcolon⟩ := (fixed?_append_colon hw' hrest').mp ⟨_, hfixed⟩
      rw [isLocal_skipDayTime.append hw' hrest'] at h
      obtain ⟨v, hv, rfl⟩ := Option.map_eq_some_iff.mp h
      obtain rfl : v = [] := (hw'.of_suffix (isLocal_skipDayTime.suffix hv)).eq_nil hleft.stopped
      exact ⟨w', n, cs, rfl, hw', hcolon, hv⟩
    · exact absurd (Option.some.inj h).symm hne
  · rw [skipDayTime?_eq_self fun n cs' hfixed => hhour ⟨n, cs', hfixed⟩] at h
    exact absurd (Option.some.inj h).symm hne

/-- A moment that goes beyond a word is a date with a space and a time behind it. -/
lemma skipMoment?_eq_some_of_not_isEnd (hw : IsUnbroken w) (hrest : IsStopped rest)
    (hno : ¬ IsEnd rest) {left : List Char} (hleft : IsEnd left)
    (h : skipMoment? (w ++ rest) = some left) :
    ∃ w' n cs, rest = ' ' :: (w' ++ left) ∧ skipDate? w = some [] ∧ IsUnbroken w' ∧
      fixed? 2 0 23 w' = some (n, ':' :: cs) ∧ (skipTime? w' >>= skipOffset?) = some [] := by
  -- what is left would be an end that begins within the word
  have hwithin : ∀ u, u <:+ w → u ++ rest ≠ left := by
    rintro u hu rfl
    rw [(hw.of_suffix hu).eq_nil hleft.stopped] at hleft
    exact hno hleft
  rw [skipMoment?, isLocal_skipDate?.append hw hrest, isLocal_skipTime?.append hw hrest] at h
  rcases (Option.orElse_eq_some _ _ _).mp h with hfirst | ⟨-, htime⟩
  · obtain ⟨_, hdate, hskip⟩ := Option.bind_eq_some_iff.mp hfirst
    obtain ⟨u, hu, rfl⟩ := Option.map_eq_some_iff.mp hdate
    have hsuffix := isLocal_skipDate?.suffix hu
    change skipDayTime? (u ++ rest) = some left at hskip
    cases u with
    | cons c u =>
      rw [skipDayTime?_append (hw.of_suffix hsuffix) hrest] at hskip
      obtain ⟨v, hv, rfl⟩ := Option.map_eq_some_iff.mp hskip
      exact absurd rfl (hwithin v ((skipDayTime?_suffix hv).trans hsuffix))
    | nil =>
      obtain ⟨w', n, cs, hrest', htime⟩ := exists_time_of_skipDayTime? hrest hno hleft hskip
      exact ⟨w', n, cs, hrest', hu, htime⟩
  · obtain ⟨u, hu, rfl⟩ := Option.map_eq_some_iff.mp htime
    exact absurd rfl (hwithin u (isLocal_skipTime?.suffix hu))

/-- What is skipped as a moment is skipped wherever it may stand. -/
lemma skipMoment?_eq_some {cs : List Char} (h : skipMoment? cs = some rest) (hrest : IsEnd rest) :
    ∃ w, cs = w ++ rest ∧ ∀ rest', IsEnd rest' → skipMoment? (w ++ rest') = some rest' := by
  obtain ⟨w, r, rfl, hw, hr⟩ := exists_unbroken cs
  by_cases hend : IsEnd r
  · rw [skipMoment?_append hw hend] at h
    obtain ⟨u, hu, rfl⟩ := Option.map_eq_some_iff.mp h
    obtain rfl : u = [] := (hw.of_suffix (skipMoment?_suffix hu)).eq_nil hrest.stopped
    refine ⟨w, rfl, fun rest' hrest' => ?_⟩
    rw [skipMoment?_append hw hrest', hu]
    rfl
  · obtain ⟨w', n, cs, rfl, hdate, hw', hcolon, htime⟩ :=
      skipMoment?_eq_some_of_not_isEnd hw hr hend hrest h
    refine ⟨w ++ ' ' :: w', by simp, fun rest' hrest' => ?_⟩
    have hstop : IsStopped (' ' :: (w' ++ rest')) := by
      intro c hc
      rw [← Option.some.inj hc]
      decide
    obtain ⟨cs', hcolon'⟩ := (fixed?_append_colon hw' hrest'.stopped).mpr ⟨cs, hcolon⟩
    have hskip : skipDayTime? (' ' :: (w' ++ rest')) = some rest' := by
      rw [skipDayTime?_eq_of_fixed hcolon', if_pos (by decide),
        isLocal_skipDayTime.append hw' hrest'.stopped, htime]
      rfl
    rw [List.append_assoc, List.cons_append, skipMoment?, isLocal_skipDate?.append hw hstop, hdate]
    change (skipDayTime? (' ' :: (w' ++ rest')) <|> _) = _
    rw [hskip]
    rfl

/-! ### Values that are written without quotes -/

/-- Reads a number or a moment. -/
def number? (cs : List Char) : Option (Value × List Char) :=
  moment? cs <|> float? cs <|> integer? cs

/-- A number begins with a digit, a sign or the letter of a word for what is no number. -/
lemma number?_head {c : Char} {cs : List Char} {x : Value × List Char}
    (h : number? (c :: cs) = some x) : c.isDigit ∨ c ∈ ['+', '-', 'i', 'n'] := by
  by_contra hno
  obtain ⟨hdigit, hmark⟩ := not_or.mp hno
  have hfixed : ∀ count low high, fixed? (count + 1) low high (c :: cs) = none := by
    intro count low high
    rw [fixed?, if_neg]
    simp [hdigit]
  have hsign : sign (c :: cs) = (false, c :: cs) := by
    rw [sign]
    all_goals
      rintro _ ⟨⟩
      exact hmark (by simp)
  have hdecimal : decimal? (c :: cs) = none := by
    rw [decimal?]
    · rw [digits?, if_neg hdigit]
    · rintro _ ⟨⟩
      exact hdigit rfl
  have hmoment : moment? (c :: cs) = none := by
    rw [moment?_eq, skipMoment?, skipDate?, skipTime?, hfixed, hfixed]
    rfl
  have hfloat : float? (c :: cs) = none := by
    rw [float?, plainFloat?, hsign]
    dsimp only
    rw [hdecimal, specialFloat?, hsign]
    split
    · rename_i he
      cases he
      exact absurd (by simp) hmark
    · rename_i he
      cases he
      exact absurd (by simp) hmark
    · rfl
  have hinteger : integer? (c :: cs) = none := by
    rw [integer?]
    · rw [hsign]
      dsimp only
      rw [hdecimal]
      rfl
    all_goals
      rintro _ ⟨⟩
      exact hdigit rfl
  rw [number?, hmoment, hfloat, hinteger] at h
  cases h

/-- **Numbers.** A number or a moment is read as the same value wherever it may stand. -/
lemma number?_eq_some {cs : List Char} {v : Value} (h : number? cs = some (v, rest))
    (hrest : IsEnd rest) :
    ∃ w, cs = w ++ rest ∧ ∀ rest', IsEnd rest' → number? (w ++ rest') = some (v, rest') := by
  have hlocal := isLocal_float?.orElse isLocal_integer?
  rcases (Option.orElse_eq_some _ _ _).mp h with hmoment | ⟨hmoment, hnumber⟩
  · rw [moment?_eq] at hmoment
    obtain ⟨left, hskip, hpair⟩ := Option.map_eq_some_iff.mp hmoment
    obtain ⟨rfl, rfl⟩ := Prod.mk.inj hpair
    obtain ⟨w, rfl, hagain⟩ := skipMoment?_eq_some hskip hrest
    refine ⟨w, rfl, fun rest' hrest' => ?_⟩
    rw [number?, moment?_eq, hagain rest' hrest', Option.map_some, written_append, written_append]
    rfl
  · obtain ⟨w, r, rfl, hw, hr⟩ := exists_unbroken cs
    have hnumber := (hlocal.append hw hr).symm.trans hnumber
    obtain ⟨⟨v', u⟩, hu, hpair⟩ := Option.map_eq_some_iff.mp hnumber
    obtain ⟨rfl, rfl⟩ : v' = v ∧ u ++ r = rest := Prod.mk.inj hpair
    obtain rfl : u = [] := (hw.of_suffix (hlocal.suffix hu)).eq_nil hrest.stopped
    have hend : IsEnd r := hrest
    refine ⟨w, rfl, fun rest' hrest' => ?_⟩
    have hno : moment? (w ++ rest') = none := by
      rw [moment?_eq, Option.map_eq_none_iff, skipMoment?_append hw hrest', Option.map_eq_none_iff]
      rw [moment?_eq, Option.map_eq_none_iff, skipMoment?_append hw hend,
        Option.map_eq_none_iff] at hmoment
      exact hmoment
    rw [number?, hno]
    exact (hlocal.append hw hrest'.stopped).trans (by rw [hu]; rfl)

end CrudScaffold.Toml
