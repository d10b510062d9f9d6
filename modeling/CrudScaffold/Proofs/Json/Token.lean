import Mathlib.Tactic.Lemma
import Std.Data.String.ToNat
import CrudScaffold.Json.Token
import CrudScaffold.Json.Value

/-!
# Tokens of written values

The text that a value is written as has the tokens of the value: punctuation, words, literals and
numbers one after the other, and nothing for line ends and indentation. A string literal is read
back piece by piece because every escape that is written stands for the character it was written
for. A number is the one token whose end is not marked, so what stands behind a value has to begin
with something that no number goes on with; behind the values of a document that is always a comma,
a line end, or nothing.

Tokens are read with a bound on the steps. `lexAll_eq_tokensOf` says that the bound does not
matter once it exceeds the length of the text, since no token leaves more than it was given.
-/

namespace CrudScaffold.Json

/-! ### What a token leaves -/

/-- Leaving digits out makes no text longer. -/
lemma length_dropDigits_le (s : List Char) : (s.dropWhile Char.isDigit).length ≤ s.length :=
  (List.dropWhile_sublist _).length_le

/-- A string literal leaves no more than it was given. -/
lemma length_lexString_le (done : List Piece) (s : List Char) :
    (lexString done s).2.length ≤ s.length := by
  fun_induction lexString done s <;> simp_all <;> omega

/-- An exponent leaves no more than it was given. -/
lemma length_lexExponent_le (n : Numeral) (s : List Char) :
    (lexExponent n s).2.length ≤ s.length := by
  unfold lexExponent
  split
  rename_i negative t h
  have hdrop : (t.dropWhile Char.isDigit).length ≤ t.length := length_dropDigits_le t
  refine Nat.le_trans hdrop ?_
  split at h <;> simp_all

/-- What follows the whole digits of a number leaves no more than it was given. -/
lemma length_lexFraction_le (n : Numeral) (s : List Char) :
    (lexFraction n s).2.length ≤ s.length := by
  unfold lexFraction
  split
  · rename_i s
    have hrest := length_dropDigits_le s
    simp only [List.length_cons]
    split
    · exact Nat.le_succ_of_le hrest
    · split
      · rename_i r hr
        have hexp := length_lexExponent_le { n with fraction := some (s.takeWhile Char.isDigit) } r
        rw [hr, List.length_cons] at hrest
        omega
      · rename_i r hr
        have hexp := length_lexExponent_le { n with fraction := some (s.takeWhile Char.isDigit) } r
        rw [hr, List.length_cons] at hrest
        omega
      · exact Nat.le_succ_of_le hrest
  · exact Nat.le_succ_of_le (length_lexExponent_le n _)
  · exact Nat.le_succ_of_le (length_lexExponent_le n _)
  · exact Nat.le_refl _

/-- A number leaves no more than what follows its first digits. -/
lemma length_lexNumber_le (negative : Bool) (s : List Char) :
    (lexNumber negative s).2.length ≤ (s.dropWhile Char.isDigit).length := by
  unfold lexNumber
  simp only
  split
  · exact Nat.le_refl _
  · exact Nat.le_refl _
  · exact length_lexFraction_le _ _

/-- A word leaves no more than it was given. -/
lemma length_lexWord_le (token : Token) (word s : List Char) :
    (lexWord token word s).2.length ≤ s.length := by
  fun_induction lexWord token word s <;> simp_all
  omega

/-- Every token takes at least its first character. -/
lemma length_lexToken_le (c : Char) (r : List Char) : (lexToken c r).2.length ≤ r.length := by
  unfold lexToken
  split
  case h_7 => exact length_lexString_le [] r
  case h_8 => exact length_lexWord_le _ _ r
  case h_9 => exact length_lexWord_le _ _ r
  case h_10 => exact length_lexWord_le _ _ r
  case h_11 => exact Nat.le_trans (length_lexNumber_le true r) (length_dropDigits_le r)
  case h_12 =>
    split
    · rename_i hdigit
      have hnumber := length_lexNumber_le false (c :: r)
      rw [List.dropWhile_cons_of_pos hdigit] at hnumber
      exact Nat.le_trans hnumber (length_dropDigits_le r)
    · exact Nat.le_refl _
  all_goals exact Nat.le_refl _

/-! ### Tokens without a bound -/

/-- The tokens of some characters. -/
def tokensOf (s : List Char) : List Token := lexAll (s.length + 1) s

/-- Any two bounds beyond the length of a text give the same tokens. -/
lemma lexAll_congr {m n : Nat} {s : List Char} (hm : s.length < m) (hn : s.length < n) :
    lexAll m s = lexAll n s := by
  induction m generalizing n s with
  | zero => exact absurd hm (Nat.not_lt_zero _)
  | succ m ih =>
    cases n with
    | zero => exact absurd hn (Nat.not_lt_zero _)
    | succ n =>
      cases s with
      | nil => rfl
      | cons c r =>
        -- both take the same first step, and what it leaves is shorter
        have hrest : (lexToken c r).2.length ≤ r.length := length_lexToken_le c r
        rw [List.length_cons] at hm hn
        simp only [lexAll]
        rw [ih (n := n) (by omega) (by omega), ih (n := n) (by omega) (by omega)]

/-- Any bound beyond the length of a text will do. -/
lemma lexAll_eq_tokensOf {fuel : Nat} {s : List Char} (h : s.length < fuel) :
    lexAll fuel s = tokensOf s :=
  lexAll_congr h (Nat.lt_succ_self _)

/-- The tokens of a text are those of its characters. -/
lemma tokens_eq_tokensOf (s : String) : tokens s = tokensOf s.toList := rfl

/-- There are no tokens in nothing. -/
@[simp]
lemma tokensOf_nil : tokensOf [] = [] := rfl

/-- A blank is no token. -/
lemma tokensOf_blank {c : Char} (hc : isBlank c) (r : List Char) :
    tokensOf (c :: r) = tokensOf r := by
  rw [tokensOf, lexAll, if_pos hc]
  rfl

/-- A token that is well formed comes before those of the rest. -/
lemma tokensOf_token {c : Char} {r rest : List Char} {token : Token} (hc : isBlank c = false)
    (h : lexToken c r = (token, rest)) (htoken : token.isBroken = false) :
    tokensOf (c :: r) = token :: tokensOf rest := by
  have hrest : rest.length ≤ r.length := by
    have := length_lexToken_le c r
    rwa [h] at this
  rw [tokensOf, lexAll, hc, h]
  simp only [htoken, Bool.false_eq_true, if_false]
  rw [lexAll_eq_tokensOf (by rw [List.length_cons]; omega)]

/-! ### Line ends and punctuation -/

/-- Indentation leaves no tokens. -/
lemma tokensOf_replicate (n : Nat) (r : List Char) :
    tokensOf (List.replicate n ' ' ++ r) = tokensOf r := by
  induction n with
  | zero => rfl
  | succ n ih => rw [List.replicate_succ, List.cons_append, tokensOf_blank rfl, ih]

/-- A line end and the indentation behind it leave no tokens. -/
lemma tokensOf_newLine (level : Nat) (r : List Char) :
    tokensOf (newLine level ++ r) = tokensOf r := by
  rw [newLine, List.cons_append, tokensOf_blank rfl, tokensOf_replicate]

@[simp] lemma tokensOf_comma (r : List Char) : tokensOf (',' :: r) = .comma :: tokensOf r :=
  tokensOf_token rfl rfl rfl

@[simp] lemma tokensOf_colon (r : List Char) : tokensOf (':' :: r) = .colon :: tokensOf r :=
  tokensOf_token rfl rfl rfl

@[simp] lemma tokensOf_openArray (r : List Char) : tokensOf ('[' :: r) = .openArray :: tokensOf r :=
  tokensOf_token rfl rfl rfl

@[simp] lemma tokensOf_closeArray (r : List Char) :
    tokensOf (']' :: r) = .closeArray :: tokensOf r :=
  tokensOf_token rfl rfl rfl

@[simp] lemma tokensOf_openObject (r : List Char) :
    tokensOf ('\x7b' :: r) = .openObject :: tokensOf r :=
  tokensOf_token rfl rfl rfl

@[simp] lemma tokensOf_closeObject (r : List Char) :
    tokensOf ('\x7d' :: r) = .closeObject :: tokensOf r :=
  tokensOf_token rfl rfl rfl

/-! ### Strings -/

/-- A hexadecimal digit has the value that it was written for. -/
lemma hexDigit?_digitChar {d : Nat} (h : d < 16) : hexDigit? (Nat.digitChar d) = some d := by
  have hall : ∀ d : Fin 16, hexDigit? (Nat.digitChar d) = some d.val := by decide
  exact hall ⟨d, h⟩

/-- The escape of a control character stands for it. -/
lemma ofUnit_toNat {c : Char} (h : c.toNat < 0x20) : Piece.ofUnit c.toNat = .char c := by
  rw [Piece.ofUnit, if_neg (by omega), Char.ofNat_toNat]

/-- A character is read back from the way it is written inside a string. -/
lemma lexString_escapeChar (done : List Piece) (c : Char) (r : List Char) :
    lexString done (escapeChar c ++ r) = lexString (.char c :: done) r := by
  unfold escapeChar
  split
  · rfl
  · rfl
  · rfl
  · rfl
  · rfl
  · rfl
  · rfl
  · rename_i hquote hbackslash _ _ _ _ _
    split
    · rename_i hcontrol
      have hhigh := hexDigit?_digitChar (d := c.toNat / 16) (by omega)
      have hlow := hexDigit?_digitChar (d := c.toNat % 16) (by omega)
      have hunit : hexUnit? '0' '0' (Nat.digitChar (c.toNat / 16)) (Nat.digitChar (c.toNat % 16)) =
          some c.toNat := by
        have hzero : hexDigit? '0' = some 0 := rfl
        simp only [hexUnit?, hzero, hhigh, hlow, Option.pure_def, Option.bind_eq_bind,
          Option.bind_some, Option.some.injEq]
        omega
      simp only [List.cons_append, List.nil_append, lexString, hunit, ofUnit_toNat hcontrol]
    · rename_i hcontrol
      rw [List.singleton_append, lexString]
      · rw [if_neg hcontrol]
      · exact hquote
      -- every other pattern of a literal begins with a backslash
      all_goals intros; exact hbackslash (by assumption)

/-- A text is read back from its literal. -/
lemma lexString_flatMap (done : List Piece) (s r : List Char) :
    lexString done (s.flatMap escapeChar ++ '"' :: r) =
      (⟨done.reverse ++ s.map .char, none⟩, r) := by
  induction s generalizing done with
  | nil => simp [lexString]
  | cons c s ih =>
    rw [List.flatMap_cons, List.append_assoc, lexString_escapeChar, ih]
    simp

/-- The literal of a text is a token. -/
lemma tokensOf_quote (s : String) (r : List Char) :
    tokensOf (quote s ++ r) = .string (.ofString s) :: tokensOf r := by
  rw [quote, List.cons_append, List.cons_append, List.append_assoc, List.singleton_append]
  refine tokensOf_token rfl ?_ rfl
  simp only [lexToken, lexString_flatMap]
  rfl

/-! ### Numbers and words -/

/-- The numeral of a natural number. -/
def Numeral.ofNat (n : Nat) : Numeral := ⟨false, Nat.toDigits 10 n, none, none⟩

/-- Nothing stands here that a number would go on with. -/
def EndsNumber (r : List Char) : Prop :=
  ∀ c ∈ r.head?, c.isDigit = false ∧ c ≠ '.' ∧ c ≠ 'e' ∧ c ≠ 'E'

/-- No number goes on behind a comma. -/
lemma endsNumber_comma (r : List Char) : EndsNumber (',' :: r) := by
  rintro c ⟨⟩
  decide

/-- No number goes on behind a line end. -/
lemma endsNumber_newLine (level : Nat) (r : List Char) : EndsNumber (newLine level ++ r) := by
  rintro c ⟨⟩
  decide

@[simp] lemma endsNumber_nil : EndsNumber [] := by
  rintro c ⟨⟩

/-- The digits of a number do not begin with a zero, unless that is all. -/
lemma toDigits_eq_zero_cons {n : Nat} {cs : List Char} (h : Nat.toDigits 10 n = '0' :: cs) :
    cs = [] := by
  induction n using Nat.strongRecOn generalizing cs with
  | ind n ih =>
    by_cases hn : n < 10
    · rw [Nat.toDigits_of_lt_base hn] at h
      exact (List.cons.inj h).2.symm
    · rw [Nat.toDigits_of_base_le (by decide) (by omega)] at h
      rcases hd : Nat.toDigits 10 (n / 10) with _ | ⟨d, ds⟩
      · exact absurd hd Nat.toDigits_ne_nil
      · rw [hd, List.cons_append] at h
        obtain ⟨rfl, -⟩ := List.cons.inj h
        -- the other digits would be those of zero, but the number is not below ten
        have hzero : Nat.toDigits 10 (n / 10) = ['0'] := by rw [hd, ih (n / 10) (by omega) hd]
        have hvalue := Nat.ofDigitChars_toDigits (b := 10) (n := n / 10) (by decide) (by decide)
        rw [hzero] at hvalue
        change 0 = n / 10 at hvalue
        omega

/-- Behind its whole digits a natural number ends. -/
lemma lexFraction_of_endsNumber (n : Numeral) {r : List Char} (hr : EndsNumber r) :
    lexFraction n r = (.number n none, r) := by
  unfold lexFraction
  split
  · exact absurd rfl (hr _ rfl).2.1
  · exact absurd rfl (hr _ rfl).2.2.1
  · exact absurd rfl (hr _ rfl).2.2.2
  · rfl

/-- A number is read back from its digits. -/
lemma lexNumber_toDigits (n : Nat) {r : List Char} (hr : EndsNumber r) :
    lexNumber false (Nat.toDigits 10 n ++ r) = (.number (.ofNat n) none, r) := by
  have hdigits : ∀ c ∈ Nat.toDigits 10 n, c.isDigit :=
    fun c hc => Nat.isDigit_of_mem_toDigits (by decide) (by decide) hc
  have htake : r.takeWhile Char.isDigit = [] := by
    cases r with
    | nil => rfl
    | cons c r => simp [(hr c rfl).1]
  have hdrop : r.dropWhile Char.isDigit = r := by
    cases r with
    | nil => rfl
    | cons c r => simp [(hr c rfl).1]
  simp only [lexNumber, List.takeWhile_append_of_pos hdigits, List.dropWhile_append_of_pos hdigits,
    htake, hdrop, List.append_nil]
  split
  · rename_i hnil
    exact absurd hnil Nat.toDigits_ne_nil
  · rename_i hzero
    exact absurd (toDigits_eq_zero_cons hzero) (List.cons_ne_nil _ _)
  · exact lexFraction_of_endsNumber _ hr

/-- A digit begins no other token than a number. -/
lemma lexToken_of_isDigit {c : Char} (hc : c.isDigit) (r : List Char) :
    isBlank c = false ∧ lexToken c r = lexNumber false (c :: r) := by
  have hne : ∀ d : Char, d.isDigit = false → c ≠ d := by
    rintro d hd rfl
    rw [hd] at hc
    cases hc
  constructor
  · simp [isBlank, hne ' ' rfl, hne '\n' rfl, hne '\t' rfl, hne '\r' rfl]
  · unfold lexToken
    split
    case h_12 => rw [if_pos hc]
    all_goals exact absurd rfl (hne _ rfl)

/-- The digits of a number are a token, if the number ends behind them. -/
lemma tokensOf_toString (n : Nat) {r : List Char} (hr : EndsNumber r) :
    tokensOf ((toString n).toList ++ r) = .number (.ofNat n) none :: tokensOf r := by
  rw [Nat.toString_eq_repr, Nat.toList_repr]
  rcases hd : Nat.toDigits 10 n with _ | ⟨d, ds⟩
  · exact absurd hd Nat.toDigits_ne_nil
  · have hdigit : d.isDigit :=
      Nat.isDigit_of_mem_toDigits (b := 10) (n := n) (by decide) (by decide) (by simp [hd])
    obtain ⟨hblank, hlex⟩ := lexToken_of_isDigit hdigit (ds ++ r)
    have hnumber := lexNumber_toDigits n hr
    rw [hd] at hnumber
    exact tokensOf_token hblank (hlex.trans hnumber) rfl

@[simp] lemma tokensOf_null (r : List Char) : tokensOf ("null".toList ++ r) = .null :: tokensOf r :=
  tokensOf_token rfl rfl rfl

/-- The words for truth values are tokens. -/
lemma tokensOf_bool (b : Bool) (r : List Char) :
    tokensOf ((if b then "true" else "false").toList ++ r) = .bool b :: tokensOf r := by
  cases b <;> exact tokensOf_token rfl rfl rfl

/-! ### Values -/

namespace Value

mutual

/-- The tokens of a value. -/
def tokens : Value → List Token
  | .null => [.null]
  | .bool b => [.bool b]
  | .number n => [.number (.ofNat n) none]
  | .string s => [.string (.ofString s)]
  | .array [] => [.openArray, .closeArray]
  | .array (v :: vs) => .openArray :: tokens v ++ itemTokens vs ++ [.closeArray]
  | .object [] => [.openObject, .closeObject]
  | .object ((k, v) :: ms) =>
    .openObject :: .string (.ofString k) :: .colon :: tokens v ++ memberTokens ms ++ [.closeObject]

/-- The tokens of the items of an array behind the first one. -/
def itemTokens : List Value → List Token
  | [] => []
  | v :: vs => .comma :: tokens v ++ itemTokens vs

/-- The tokens of the members of an object behind the first one. -/
def memberTokens : List (String × Value) → List Token
  | [] => []
  | (k, v) :: ms => .comma :: .string (.ofString k) :: .colon :: tokens v ++ memberTokens ms

end

/-- No number goes on behind an item of an array. -/
lemma endsNumber_layoutItems (level : Nat) (vs : List Value) {r : List Char} (hr : EndsNumber r) :
    EndsNumber (layoutItems level vs ++ r) := by
  cases vs with
  | nil => exact hr
  | cons v vs => exact endsNumber_comma _

/-- No number goes on behind a member of an object. -/
lemma endsNumber_layoutMembers (level : Nat) (ms : List (String × Value)) {r : List Char}
    (hr : EndsNumber r) : EndsNumber (layoutMembers level ms ++ r) := by
  cases ms with
  | nil => exact hr
  | cons m ms => exact endsNumber_comma _

mutual

/-- What a value is written as has the tokens of the value. -/
lemma tokensOf_layout (level : Nat) {r : List Char} (hr : EndsNumber r) : ∀ v : Value,
    tokensOf (v.layout level ++ r) = v.tokens ++ tokensOf r
  | .null => tokensOf_null r
  | .bool b => tokensOf_bool b r
  | .number n => tokensOf_toString n hr
  | .string s => tokensOf_quote s r
  | .array [] => (tokensOf_openArray _).trans (congrArg _ (tokensOf_closeArray r))
  | .array (v :: vs) => by
    have hend := endsNumber_newLine level (']' :: r)
    simp only [layout, tokens, List.cons_append, List.append_assoc, List.nil_append,
      tokensOf_openArray, tokensOf_newLine]
    rw [tokensOf_layout (level + 1) (endsNumber_layoutItems (level + 1) vs hend) v,
      tokensOf_layoutItems (level + 1) hend vs, tokensOf_newLine, tokensOf_closeArray]
  | .object [] => (tokensOf_openObject _).trans (congrArg _ (tokensOf_closeObject r))
  | .object ((k, v) :: ms) => by
    have hend := endsNumber_newLine level ('\x7d' :: r)
    simp only [layout, tokens, List.cons_append, List.append_assoc, List.nil_append,
      tokensOf_openObject, tokensOf_newLine, tokensOf_quote, tokensOf_colon]
    rw [tokensOf_blank rfl,
      tokensOf_layout (level + 1) (endsNumber_layoutMembers (level + 1) ms hend) v,
      tokensOf_layoutMembers (level + 1) hend ms, tokensOf_newLine, tokensOf_closeObject]

/-- What the items of an array are written as has their tokens. -/
lemma tokensOf_layoutItems (level : Nat) {r : List Char} (hr : EndsNumber r) : ∀ vs : List Value,
    tokensOf (layoutItems level vs ++ r) = itemTokens vs ++ tokensOf r
  | [] => rfl
  | v :: vs => by
    simp only [layoutItems, itemTokens, List.cons_append, List.append_assoc, tokensOf_comma,
      tokensOf_newLine]
    rw [tokensOf_layout level (endsNumber_layoutItems level vs hr) v,
      tokensOf_layoutItems level hr vs]

/-- What the members of an object are written as has their tokens. -/
lemma tokensOf_layoutMembers (level : Nat) {r : List Char} (hr : EndsNumber r) :
    ∀ ms : List (String × Value),
      tokensOf (layoutMembers level ms ++ r) = memberTokens ms ++ tokensOf r
  | [] => rfl
  | (k, v) :: ms => by
    simp only [layoutMembers, memberTokens, List.cons_append, List.append_assoc, List.nil_append,
      tokensOf_comma, tokensOf_newLine, tokensOf_quote, tokensOf_colon]
    rw [tokensOf_blank rfl, tokensOf_layout level (endsNumber_layoutMembers level ms hr) v,
      tokensOf_layoutMembers level hr ms]

end

/-- The text of a value has the tokens of the value. -/
lemma tokens_pretty (v : Value) : Json.tokens v.pretty = v.tokens := by
  rw [tokens_eq_tokensOf, pretty, String.toList_ofList, ← List.append_nil (v.layout 0),
    tokensOf_layout 0 endsNumber_nil v, tokensOf_nil, List.append_nil]

end Value

end CrudScaffold.Json
