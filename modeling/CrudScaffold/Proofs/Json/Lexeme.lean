import Mathlib.Data.List.TakeWhile
import Mathlib.Tactic.SplitIfs
import CrudScaffold.Proofs.Json.Token

/-!
# The lexical grammar

What a JSON text is made of, said without reading it: lexemes with any blanks between them. A lexeme
is a mark, a word, a number or a string, and the grammar of each says which token it is. The grammar
and the reader agree. A lexeme is read as its token if it is not a number that goes on behind it
(`lexToken_lexeme`), and what is read as a token without a fault is a lexeme of that token
(`exists_lexeme`). So the tokens of a text whose numbers have a mark behind them are read off as
they are (`Lexed.tokensOf_eq`), and a text that is read without a fault is a row of lexemes and
blanks (`lexed_tokensOf`).
-/

namespace CrudScaffold.Json

/-! ### Strings -/

/-- What stands between the quotes of a string, and the pieces that it stands for. -/
inductive IsStringBody : List Char → List Piece → Prop
  | nil : IsStringBody [] []
  | char {c : Char} {s : List Char} {pieces : List Piece} (hcontrol : ¬ c.toNat < 0x20)
      (hquote : c ≠ '"') (hbackslash : c ≠ '\\') (hs : IsStringBody s pieces) :
      IsStringBody (c :: s) (.char c :: pieces)
  | escape {c d : Char} {s : List Char} {pieces : List Piece} (hc : unescape? c = some d)
      (hs : IsStringBody s pieces) : IsStringBody ('\\' :: c :: s) (.char d :: pieces)
  | unit {a b c d : Char} {u : Nat} {s : List Char} {pieces : List Piece}
      (hu : hexUnit? a b c d = some u) (hs : IsStringBody s pieces) :
      IsStringBody ('\\' :: 'u' :: a :: b :: c :: d :: s) (Piece.ofUnit u :: pieces)

/-- What stands between quotes is read up to the closing one, whatever stands behind it. -/
lemma lexString_body {body : List Char} {pieces : List Piece} (h : IsStringBody body pieces)
    (done : List Piece) (r : List Char) :
    lexString done (body ++ '"' :: r) = (⟨done.reverse ++ pieces, none⟩, r) := by
  induction h generalizing done with
  | nil =>
    rw [List.append_nil]
    rfl
  | @char c s pieces hcontrol hquote hbackslash hs ih =>
    rw [List.cons_append, lexString]
    · rw [if_neg hcontrol, ih, List.reverse_cons, List.append_assoc]
      rfl
    · exact hquote
    -- every other pattern of a literal begins with a backslash
    all_goals intros; exact hbackslash (by assumption)
  | @escape c d s pieces hc hs ih =>
    have hu : c ≠ 'u' := by
      rintro rfl
      cases hc
    rw [List.cons_append, List.cons_append, lexString]
    · simp only [hc, ih, List.reverse_cons, List.append_assoc, List.singleton_append]
    · exact fun _ _ _ _ _ hcu _ => hu hcu
    · exact hu
  | @unit a b c d u s pieces hu hs ih =>
    simp only [List.cons_append, lexString, hu, ih, List.reverse_cons, List.append_assoc,
      List.nil_append]

/-- What has been read as a string without a fault stands between quotes. -/
lemma exists_stringBody {done pieces : List Piece} {s r : List Char}
    (h : lexString done s = (⟨pieces, none⟩, r)) :
    ∃ body more, IsStringBody body more ∧ s = body ++ '"' :: r ∧
      pieces = done.reverse ++ more := by
  fun_induction lexString done s with
  | case1 => cases h
  | case2 done tail =>
    cases h
    exact ⟨[], [], .nil, rfl, (List.append_nil _).symm⟩
  | case3 => cases h
  | case4 done a b c d tail u hu ih =>
    obtain ⟨body, more, hbody, rfl, rfl⟩ := ih h
    exact ⟨_, _, .unit hu hbody, rfl, by rw [List.reverse_cons, List.append_assoc]; rfl⟩
  | case5 => cases h
  | case6 => cases h
  | case7 done c tail _ _ e he ih =>
    obtain ⟨body, more, hbody, rfl, rfl⟩ := ih h
    exact ⟨_, _, .escape he hbody, rfl, by rw [List.reverse_cons, List.append_assoc]; rfl⟩
  | case8 => cases h
  | case9 => cases h
  | case10 done c tail hquote hend _ _ hescape hcontrol ih =>
    obtain ⟨body, more, hbody, rfl, rfl⟩ := ih h
    refine ⟨c :: body, .char c :: more, .char hcontrol hquote (fun hc => ?_) hbody, rfl, by
      rw [List.reverse_cons, List.append_assoc]; rfl⟩
    obtain ⟨x, rest, hrest⟩ := List.exists_cons_of_ne_nil (hend hc)
    exact hescape x rest hc hrest

/-! ### Numbers -/

/-- A row of digits. -/
def AreDigits (ds : List Char) : Prop := ∀ d ∈ ds, d.isDigit

/-- The whole part of a number: a zero, or digits that do not begin with one. -/
def IsWhole (ds : List Char) : Prop :=
  ds ≠ [] ∧ AreDigits ds ∧ (ds.head? = some '0' → ds = ['0'])

/-- The fraction of a number, if it has one, with its digits. -/
inductive IsFraction : List Char → Option (List Char) → Prop
  | none : IsFraction [] none
  | digits {ds : List Char} (hne : ds ≠ []) (hds : AreDigits ds) : IsFraction ('.' :: ds) (some ds)

/-- The sign of an exponent, and whether it is a minus. -/
inductive IsSign : List Char → Bool → Prop
  | none : IsSign [] false
  | plus : IsSign ['+'] false
  | minus : IsSign ['-'] true

/-- The exponent of a number, if it has one, with its sign and its digits. -/
inductive IsExponent : List Char → Option (Bool × List Char) → Prop
  | none : IsExponent [] none
  | digits {e : Char} {sign ds : List Char} {negative : Bool} (he : e = 'e' ∨ e = 'E')
      (hsign : IsSign sign negative) (hne : ds ≠ []) (hds : AreDigits ds) :
      IsExponent (e :: (sign ++ ds)) (some (negative, ds))

/-- A number without its sign, and the numeral that it is. -/
def IsUnsigned (s : List Char) (n : Numeral) : Prop :=
  ∃ fraction exponent, IsWhole n.whole ∧ IsFraction fraction n.fraction ∧
    IsExponent exponent n.exponent ∧ s = n.whole ++ (fraction ++ exponent)

/-- Digits in front of something else are taken as a whole. -/
lemma AreDigits.takeWhile {ds r : List Char} (h : AreDigits ds)
    (hr : ∀ c ∈ r.head?, c.isDigit = false) :
    (ds ++ r).takeWhile Char.isDigit = ds ∧ (ds ++ r).dropWhile Char.isDigit = r := by
  have hnone : r.takeWhile Char.isDigit = [] ∧ r.dropWhile Char.isDigit = r := by
    cases r with
    | nil => exact ⟨rfl, rfl⟩
    | cons c r => simp [hr c rfl]
  rw [List.takeWhile_append_of_pos h, List.dropWhile_append_of_pos h, hnone.1, hnone.2,
    List.append_nil]
  exact ⟨rfl, rfl⟩

/-- The digits that have been taken are digits. -/
lemma areDigits_takeWhile (s : List Char) : AreDigits (s.takeWhile Char.isDigit) :=
  fun _ hd => List.mem_takeWhile_imp hd

/-- A fault that is only raised without digits has not been raised where there are some. -/
lemma ne_nil_of_fault_eq_none {ds : List Char} {f : Fault}
    (h : (if ds.isEmpty then some f else none) = none) : ds ≠ [] := by
  rintro rfl
  cases h

/-- An exponent is read up to its end. -/
lemma lexExponent_digits (n : Numeral) {sign ds r : List Char} {negative : Bool}
    (hsign : IsSign sign negative) (hne : ds ≠ []) (hds : AreDigits ds) (hr : EndsNumber r) :
    lexExponent n (sign ++ ds ++ r) =
      (.number { n with exponent := some (negative, ds) } none, r) := by
  obtain ⟨htake, hdrop⟩ := hds.takeWhile fun c hc => (hr c hc).1
  have hread : lexExponent n (sign ++ ds ++ r) =
      (.number { n with exponent := some (negative, (ds ++ r).takeWhile Char.isDigit) }
        (if ((ds ++ r).takeWhile Char.isDigit).isEmpty then
          some (digitFault ((ds ++ r).dropWhile Char.isDigit)) else none),
        (ds ++ r).dropWhile Char.isDigit) := by
    cases hsign with
    | plus => rfl
    | minus => rfl
    | none =>
      obtain ⟨d, more, rfl⟩ := List.exists_cons_of_ne_nil hne
      have hd : d.isDigit := hds d List.mem_cons_self
      have hminus : d ≠ '-' := fun h => by rw [h] at hd; cases hd
      have hplus : d ≠ '+' := fun h => by rw [h] at hd; cases hd
      simp only [List.nil_append, List.cons_append, lexExponent]
      split
      · exact absurd (List.cons.inj ‹_›).1 hminus
      · exact absurd (List.cons.inj ‹_›).1 hplus
      · rfl
  rw [hread, htake, hdrop, if_neg (by simpa using hne)]

/-- What has been read as an exponent has a sign and digits. -/
lemma exists_exponent {n m : Numeral} {s r : List Char}
    (h : lexExponent n s = (.number m none, r)) :
    ∃ sign negative ds, IsSign sign negative ∧ ds ≠ [] ∧ AreDigits ds ∧ s = sign ++ ds ++ r ∧
      m = { n with exponent := some (negative, ds) } := by
  unfold lexExponent at h
  split at h
  rename_i negative t ht
  simp only [Prod.mk.injEq, Token.number.injEq] at h
  obtain ⟨⟨rfl, hfault⟩, rfl⟩ := h
  have hne := ne_nil_of_fault_eq_none hfault
  have hds := areDigits_takeWhile t
  have ht' : t = t.takeWhile Char.isDigit ++ t.dropWhile Char.isDigit :=
    List.takeWhile_append_dropWhile.symm
  split at ht
  · cases ht
    exact ⟨['-'], true, _, .minus, hne, hds, congrArg _ ht', rfl⟩
  · cases ht
    exact ⟨['+'], false, _, .plus, hne, hds, congrArg _ ht', rfl⟩
  · cases ht
    exact ⟨[], false, _, .none, hne, hds, ht', rfl⟩

/-- Behind the digits of a fraction a number goes on as if it had none. -/
lemma lexFraction_point (n : Numeral) {ds rest : List Char} (hne : ds ≠ []) (hds : AreDigits ds)
    (hrest : ∀ c ∈ rest.head?, c.isDigit = false ∧ c ≠ '.') :
    lexFraction n ('.' :: ds ++ rest) = lexFraction { n with fraction := some ds } rest := by
  obtain ⟨htake, hdrop⟩ := hds.takeWhile fun c hc => (hrest c hc).1
  have hempty : ds.isEmpty = false := by simpa using hne
  rw [List.cons_append, lexFraction]
  simp only [htake, hdrop, hempty, Bool.false_eq_true, if_false]
  split
  · rfl
  · rfl
  · rename_i hsmall hcapital
    unfold lexFraction
    split
    · exact absurd rfl (hrest '.' rfl).2
    · exact absurd rfl (hsmall _)
    · exact absurd rfl (hcapital _)
    · rfl

/-- An exponent that is there begins with nothing that the digits before it go on with. -/
lemma IsExponent.head {s r : List Char} {x : Option (Bool × List Char)} (h : IsExponent s x)
    (hr : EndsNumber r) : ∀ c ∈ (s ++ r).head?, c.isDigit = false ∧ c ≠ '.' := by
  intro c hc
  cases h with
  | none => exact ⟨(hr c hc).1, (hr c hc).2.1⟩
  | @digits e sign ds negative he hsign hne hds =>
    obtain rfl : e = c := by simpa using hc
    rcases he with rfl | rfl <;> decide

/-- What follows the whole part of a number is read up to the end of the number. -/
lemma lexFraction_grammar {n : Numeral} {fraction exponent r : List Char}
    (hfraction : IsFraction fraction n.fraction) (hexponent : IsExponent exponent n.exponent)
    (hr : EndsNumber r) :
    lexFraction ⟨n.negative, n.whole, none, none⟩ (fraction ++ (exponent ++ r)) =
      (.number n none, r) := by
  obtain ⟨negative, whole, f, x⟩ := n
  have hrest : lexFraction ⟨negative, whole, f, none⟩ (exponent ++ r) =
      (.number ⟨negative, whole, f, x⟩ none, r) := by
    cases hexponent with
    | none => exact lexFraction_of_endsNumber _ hr
    | digits he hsign hne hds =>
      rw [← lexExponent_digits ⟨negative, whole, f, none⟩ hsign hne hds hr]
      rcases he with rfl | rfl <;> rfl
  cases hfraction with
  | none => exact hrest
  | digits hne hds =>
    rw [lexFraction_point _ hne hds (hexponent.head hr)]
    exact hrest

/-- Where no fraction is due, an exponent or the end of the number has been read. -/
lemma exists_tail {n m : Numeral} {s r : List Char} (hx : n.exponent = none)
    (h : (match s with
      | 'e' :: t | 'E' :: t => lexExponent n t
      | t => (.number n none, t)) = (Token.number m none, r)) :
    ∃ exponent, IsExponent exponent m.exponent ∧ s = exponent ++ r ∧
      m = { n with exponent := m.exponent } := by
  split at h
  · obtain ⟨sign, negative, ds, hsign, hne, hds, rfl, rfl⟩ := exists_exponent h
    exact ⟨'e' :: (sign ++ ds), .digits (.inl rfl) hsign hne hds, rfl, rfl⟩
  · obtain ⟨sign, negative, ds, hsign, hne, hds, rfl, rfl⟩ := exists_exponent h
    exact ⟨'E' :: (sign ++ ds), .digits (.inr rfl) hsign hne hds, rfl, rfl⟩
  · cases h
    refine ⟨[], ?_, rfl, rfl⟩
    rw [hx]
    exact .none

/-- What has been read behind the whole part of a number is a fraction and an exponent. -/
lemma exists_fraction {negative : Bool} {whole s r : List Char} {m : Numeral}
    (h : lexFraction ⟨negative, whole, none, none⟩ s = (.number m none, r)) :
    ∃ fraction exponent, IsFraction fraction m.fraction ∧ IsExponent exponent m.exponent ∧
      s = fraction ++ (exponent ++ r) ∧ m.negative = negative ∧ m.whole = whole := by
  by_cases hpoint : ∃ t, s = '.' :: t
  · obtain ⟨t, rfl⟩ := hpoint
    have ht : t = t.takeWhile Char.isDigit ++ t.dropWhile Char.isDigit :=
      List.takeWhile_append_dropWhile.symm
    have hds := areDigits_takeWhile t
    simp only [lexFraction] at h
    split at h
    · cases h
    · rename_i hempty
      obtain ⟨exponent, hexponent, hrest, hm⟩ := exists_tail rfl h
      rw [hm]
      refine ⟨_, exponent, .digits (by simpa using hempty) hds, hexponent, ?_, rfl, rfl⟩
      rw [← hrest]
      exact congrArg _ ht
  · obtain ⟨exponent, hexponent, hrest, hm⟩ := exists_tail (s := s) rfl <| by
      rw [← h]
      split
      · rfl
      · rfl
      · rename_i hsmall hcapital
        unfold lexFraction
        split
        · exact absurd ⟨_, rfl⟩ hpoint
        · exact absurd rfl (hsmall _)
        · exact absurd rfl (hcapital _)
        · rfl
    rw [hm]
    exact ⟨[], exponent, .none, hexponent, hrest, rfl, rfl⟩

/-- A number is read up to its end. -/
lemma lexNumber_grammar {n : Numeral} {s r : List Char} (h : IsUnsigned s n) (hr : EndsNumber r) :
    lexNumber n.negative (s ++ r) = (.number n none, r) := by
  obtain ⟨fraction, exponent, ⟨hne, hds, hzero⟩, hfraction, hexponent, rfl⟩ := h
  have hread := lexFraction_grammar hfraction hexponent hr
  obtain ⟨negative, ds, f, x⟩ := n
  have hhead : ∀ c ∈ (fraction ++ (exponent ++ r)).head?, c.isDigit = false := by
    intro c hc
    revert hc
    cases hfraction with
    | none => exact fun hc => (hexponent.head hr c hc).1
    | digits =>
      rintro ⟨⟩
      rfl
  obtain ⟨htake, hdrop⟩ := hds.takeWhile hhead
  rw [← hread, List.append_assoc, List.append_assoc]
  simp only [lexNumber, htake, hdrop]
  split
  · exact absurd rfl hne
  · exact absurd (hzero rfl) (by simp)
  · rfl

/-- What has been read as a number is one. -/
lemma exists_unsigned {negative : Bool} {m : Numeral} {s r : List Char}
    (h : lexNumber negative s = (.number m none, r)) :
    ∃ l, IsUnsigned l m ∧ s = l ++ r ∧ m.negative = negative := by
  unfold lexNumber at h
  have hs : s = s.takeWhile Char.isDigit ++ s.dropWhile Char.isDigit :=
    List.takeWhile_append_dropWhile.symm
  have hds := areDigits_takeWhile s
  generalize s.takeWhile Char.isDigit = ds at h hs hds
  generalize s.dropWhile Char.isDigit = rest at h hs
  simp only at h
  split at h
  · cases h
  · cases h
  · rename_i hne hzero
    obtain ⟨fraction, exponent, hfraction, hexponent, hrest, hnegative, hwhole⟩ :=
      exists_fraction h
    have hds' : IsWhole ds := by
      refine ⟨hne, hds, fun hhead => ?_⟩
      rcases ds with _ | ⟨d, _ | ⟨d', ds⟩⟩
      · cases hhead
      · rw [Option.some.inj hhead]
      · rw [Option.some.inj hhead] at hzero
        exact absurd rfl (hzero d' ds)
    refine ⟨_, ⟨fraction, exponent, by rwa [hwhole], hfraction, hexponent, rfl⟩, ?_, hnegative⟩
    rw [hs, hrest, hwhole, List.append_assoc, List.append_assoc]

/-- A number begins with a digit. -/
lemma IsUnsigned.exists_cons {s : List Char} {n : Numeral} (h : IsUnsigned s n) :
    ∃ d tail, s = d :: tail ∧ d.isDigit := by
  obtain ⟨fraction, exponent, ⟨hne, hds, -⟩, -, -, rfl⟩ := h
  obtain ⟨d, ds, hd⟩ := List.exists_cons_of_ne_nil hne
  refine ⟨d, ds ++ (fraction ++ exponent), by rw [hd]; rfl, hds d ?_⟩
  rw [hd]
  exact List.mem_cons_self

/-! ### Lexemes -/

/-- A lexeme, and the token that it is. -/
inductive IsLexeme : List Char → Token → Prop
  | openArray : IsLexeme ['['] .openArray
  | closeArray : IsLexeme [']'] .closeArray
  | openObject : IsLexeme ['\x7b'] .openObject
  | closeObject : IsLexeme ['\x7d'] .closeObject
  | comma : IsLexeme [','] .comma
  | colon : IsLexeme [':'] .colon
  | null : IsLexeme "null".toList .null
  | bool (b : Bool) : IsLexeme (if b then "true" else "false").toList (.bool b)
  | string {body : List Char} {pieces : List Piece} (h : IsStringBody body pieces) :
      IsLexeme ('"' :: (body ++ ['"'])) (.string ⟨pieces, none⟩)
  | positive {s : List Char} {n : Numeral} (h : IsUnsigned s n) (hn : n.negative = false) :
      IsLexeme s (.number n none)
  | negative {s : List Char} {n : Numeral} (h : IsUnsigned s n) (hn : n.negative = true) :
      IsLexeme ('-' :: s) (.number n none)

/-- Whether a token is a number. -/
def Token.isNumber : Token → Bool
  | .number _ _ => true
  | _ => false

/-- A lexeme is read as its token, if it is not a number that goes on behind it. -/
lemma lexToken_lexeme {l r : List Char} {token : Token} (h : IsLexeme l token)
    (hr : token.isNumber → EndsNumber r) :
    ∃ c tail, l = c :: tail ∧ isBlank c = false ∧ lexToken c (tail ++ r) = (token, r) ∧
      token.isBroken = false := by
  cases h with
  | bool b => cases b <;> exact ⟨_, _, rfl, rfl, rfl, rfl⟩
  | @string body pieces hbody =>
    refine ⟨_, _, rfl, rfl, ?_, rfl⟩
    rw [List.append_assoc, List.singleton_append]
    simp only [lexToken, lexString_body hbody, List.reverse_nil, List.nil_append]
  | positive hn hnegative =>
    obtain ⟨d, tail, rfl, hd⟩ := hn.exists_cons
    obtain ⟨hblank, hlex⟩ := lexToken_of_isDigit hd (tail ++ r)
    refine ⟨d, tail, rfl, hblank, ?_, rfl⟩
    rw [hlex, ← lexNumber_grammar hn (hr rfl), hnegative]
    rfl
  | @negative s n hn hnegative =>
    refine ⟨'-', s, rfl, rfl, ?_, rfl⟩
    rw [← lexNumber_grammar hn (hr rfl), hnegative]
    rfl
  | _ => exact ⟨_, _, rfl, rfl, rfl, rfl⟩

/-- What has been read as the rest of a word without a fault is that rest. -/
lemma exists_word {token result : Token} {word s r : List Char}
    (h : lexWord token word s = (result, r)) (hresult : result.isBroken = false) :
    s = word ++ r ∧ result = token := by
  fun_induction lexWord token word s with
  | case1 =>
    cases h
    exact ⟨rfl, rfl⟩
  | case2 =>
    cases h
    cases hresult
  | case3 word c s ih =>
    obtain ⟨rfl, hw⟩ := ih h
    exact ⟨rfl, hw⟩
  | case4 =>
    cases h
    cases hresult

/-- What a number is read as is one, with or without a fault. -/
lemma exists_number_of_lexNumber (negative : Bool) (s : List Char) :
    ∃ n fault, (lexNumber negative s).1 = .number n fault := by
  have hfraction : ∀ (n : Numeral) (s : List Char), ∃ m fault,
      (lexFraction n s).1 = .number m fault := by
    intro n s
    unfold lexFraction
    split
    · dsimp only
      split
      · exact ⟨_, _, rfl⟩
      · split <;> exact ⟨_, _, rfl⟩
    all_goals exact ⟨_, _, rfl⟩
  unfold lexNumber
  dsimp only
  split
  · exact ⟨_, _, rfl⟩
  · exact ⟨_, _, rfl⟩
  · exact hfraction _ _

/-- What has been read as a token without a fault is a lexeme of that token. -/
lemma exists_lexeme {c : Char} {s r : List Char} {token : Token} (h : lexToken c s = (token, r))
    (htoken : token.isBroken = false) : ∃ l, IsLexeme l token ∧ c :: s = l ++ r := by
  have hnumber : ∀ {negative : Bool} {s : List Char}, lexNumber negative s = (token, r) →
      ∃ n l, token = .number n none ∧ IsUnsigned l n ∧ n.negative = negative ∧ s = l ++ r := by
    intro negative s h
    obtain ⟨n, fault, hn⟩ := exists_number_of_lexNumber negative s
    rw [h] at hn
    obtain rfl : token = .number n fault := hn
    obtain rfl : fault = none := by simpa [Token.isBroken] using htoken
    obtain ⟨l, hl, hs, hnegative⟩ := exists_unsigned h
    exact ⟨n, l, rfl, hl, hnegative, hs⟩
  unfold lexToken at h
  split at h
  case h_1 => cases h; exact ⟨_, .openArray, rfl⟩
  case h_2 => cases h; exact ⟨_, .closeArray, rfl⟩
  case h_3 => cases h; exact ⟨_, .openObject, rfl⟩
  case h_4 => cases h; exact ⟨_, .closeObject, rfl⟩
  case h_5 => cases h; exact ⟨_, .comma, rfl⟩
  case h_6 => cases h; exact ⟨_, .colon, rfl⟩
  case h_7 =>
    rcases hs : lexString [] s with ⟨⟨pieces, fault⟩, rest⟩
    rw [hs] at h
    cases h
    obtain rfl : fault = none := by simpa [Token.isBroken] using htoken
    obtain ⟨body, more, hbody, rfl, rfl⟩ := exists_stringBody hs
    exact ⟨_, .string hbody, by simp⟩
  case h_8 =>
    obtain ⟨rfl, rfl⟩ := exists_word h htoken
    exact ⟨_, .null, rfl⟩
  case h_9 =>
    obtain ⟨rfl, rfl⟩ := exists_word h htoken
    exact ⟨_, .bool true, rfl⟩
  case h_10 =>
    obtain ⟨rfl, rfl⟩ := exists_word h htoken
    exact ⟨_, .bool false, rfl⟩
  case h_11 =>
    obtain ⟨n, l, rfl, hl, hn, rfl⟩ := hnumber h
    exact ⟨_, .negative hl hn, rfl⟩
  case h_12 =>
    split at h
    · obtain ⟨n, l, rfl, hl, hn, hs⟩ := hnumber h
      exact ⟨l, .positive hl hn, hs⟩
    · cases h
      cases htoken

/-! ### Rows of lexemes -/

/-- A text made of lexemes with any blanks around them, and the tokens that they are. -/
inductive Lexed : List Char → List Token → Prop
  | nil : Lexed [] []
  | blank {c : Char} {s : List Char} {toks : List Token} (hc : isBlank c) (hs : Lexed s toks) :
      Lexed (c :: s) toks
  | lexeme {l s : List Char} {token : Token} {toks : List Token} (hl : IsLexeme l token)
      (hs : Lexed s toks) : Lexed (l ++ s) (token :: toks)

/-- Whether a token is a mark. -/
def Token.isMark : Token → Bool
  | .openArray | .closeArray | .openObject | .closeObject | .comma | .colon => true
  | _ => false

/-- Every number has a mark behind it, or nothing. -/
def Separated : List Token → Prop
  | [] => True
  | token :: rest => (token.isNumber → ∀ next ∈ rest.head?, next.isMark) ∧ Separated rest

/-- No number goes on with a blank, with a mark or at the end. -/
lemma Lexed.endsNumber {s : List Char} {toks : List Token} (h : Lexed s toks)
    (hmark : ∀ token ∈ toks.head?, token.isMark) : EndsNumber s := by
  cases h with
  | nil => exact endsNumber_nil
  | blank hc _ =>
    rintro c ⟨⟩
    simp only [isBlank, Bool.or_eq_true, beq_iff_eq, or_assoc] at hc
    rcases hc with rfl | rfl | rfl | rfl <;> decide
  | lexeme hl _ =>
    have hmark := hmark _ rfl
    cases hl with
    | bool => cases hmark
    | string => cases hmark
    | positive => cases hmark
    | negative => cases hmark
    | null => cases hmark
    | _ =>
      rintro c ⟨⟩
      decide

/-- The tokens of a text are those of its lexemes. -/
lemma Lexed.tokensOf_eq {s : List Char} {toks : List Token} (h : Lexed s toks)
    (hsep : Separated toks) : tokensOf s = toks := by
  induction h with
  | nil => rfl
  | blank hc _ ih => rw [tokensOf_blank hc, ih hsep]
  | lexeme hl hs ih =>
    obtain ⟨hnext, hsep⟩ := hsep
    obtain ⟨c, tail, rfl, hblank, hlex, hbroken⟩ :=
      lexToken_lexeme hl fun hnumber => hs.endsNumber (hnext hnumber)
    rw [List.cons_append, tokensOf_token hblank hlex hbroken, ih hsep]

/-- A text that is read without a fault is a row of lexemes and blanks. -/
lemma lexed_tokensOf {s : List Char} (h : ∀ token ∈ tokensOf s, token.isBroken = false) :
    Lexed s (tokensOf s) := by
  induction hn : s.length using Nat.strongRecOn generalizing s with
  | ind n ih =>
    cases s with
    | nil => exact .nil
    | cons c r =>
      subst hn
      by_cases hblank : isBlank c
      · rw [tokensOf_blank hblank] at h ⊢
        exact .blank hblank (ih r.length (Nat.lt_succ_self _) h rfl)
      · have hblank : isBlank c = false := by simpa using hblank
        rcases hlex : lexToken c r with ⟨token, rest⟩
        have htoken : token.isBroken = false := by
          by_contra hbroken
          have hbroken : token.isBroken := by simpa using hbroken
          have htokens : tokensOf (c :: r) = [token] := by
            rw [tokensOf, lexAll, hblank, hlex]
            simp only [hbroken, Bool.false_eq_true, if_false, if_true]
          rw [htokens] at h
          rw [h token (List.mem_singleton_self _)] at hbroken
          cases hbroken
        have hrest : rest.length ≤ r.length := by
          have hle := length_lexToken_le c r
          rwa [hlex] at hle
        rw [tokensOf_token hblank hlex htoken] at h ⊢
        obtain ⟨l, hl, hs⟩ := exists_lexeme hlex htoken
        rw [hs]
        refine .lexeme hl (ih rest.length ?_ (fun t ht => h t (List.mem_cons_of_mem _ ht)) rfl)
        rw [List.length_cons]
        omega

end CrudScaffold.Json
