import CrudScaffold.Proofs.Json.Lexeme
import CrudScaffold.Proofs.Json.Reader
import CrudScaffold.Proofs.Json.Record

/-!
# Number literals

What a number literal is read as. With neither sign nor fraction nor exponent it is a natural number
as long as 64 bits hold it, and no other literal is one (`Numeral.value_eq_natural_iff`). A field
that takes a number of 32 bits takes it from a literal exactly if the literal consists of digits
alone and 32 bits hold the number (`IsNat32`). A natural number has one literal of digits, the one
that it is written as, so what has been taken from a literal is written as that literal again
(`readNat32_eq_ok_iff`).
-/

namespace CrudScaffold.Json

/-! ### Digits -/

/-- A digit is the one of its value, which is below ten. -/
lemma digitChar_of_isDigit {d : Char} (h : d.isDigit) :
    d.toNat - '0'.toNat < 10 ∧ Nat.digitChar (d.toNat - '0'.toNat) = d := by
  have hrange : 48 ≤ d.toNat ∧ d.toNat ≤ 57 := Char.isDigit_iff_toNat.mp h
  have hlt : d.toNat - '0'.toNat < 10 := by
    change d.toNat - 48 < 10
    omega
  refine ⟨hlt, Char.toNat_inj.mp ?_⟩
  rw [Nat.toNat_digitChar_of_lt_ten hlt]
  change 48 + (d.toNat - 48) = d.toNat
  omega

/-- Digits behind a positive number are the last digits of what they make of it. -/
lemma toDigits_ofDigitChars {ds : List Char} (hds : AreDigits ds) {n : Nat} (hn : 0 < n) :
    Nat.toDigits 10 (Nat.ofDigitChars 10 ds n) = Nat.toDigits 10 n ++ ds := by
  induction ds generalizing n with
  | nil => rw [Nat.ofDigitChars_nil, List.append_nil]
  | cons d ds ih =>
    obtain ⟨hd, hds⟩ := List.forall_mem_cons.mp hds
    obtain ⟨hlt, hchar⟩ := digitChar_of_isDigit hd
    rw [Nat.ofDigitChars_cons, ih hds (by omega), ← Nat.toDigits_append_toDigits (by decide) hn hlt,
      Nat.toDigits_of_lt_base hlt, hchar, List.append_assoc, List.singleton_append]

/-- The whole part of a number is what its value is written as. -/
lemma IsWhole.toDigits_eq {ds : List Char} (h : IsWhole ds) :
    Nat.toDigits 10 (Nat.ofDigitChars 10 ds 0) = ds := by
  obtain ⟨hne, hdigits, hzero⟩ := h
  cases ds with
  | nil => exact absurd rfl hne
  | cons d ds =>
    obtain ⟨hd, hds⟩ := List.forall_mem_cons.mp hdigits
    obtain ⟨hlt, hchar⟩ := digitChar_of_isDigit hd
    by_cases hvalue : d.toNat - '0'.toNat = 0
    · -- a literal that begins with a zero has no other digit
      rw [hvalue] at hchar
      subst hchar
      rw [hzero rfl]
      rfl
    · rw [Nat.ofDigitChars_cons, Nat.mul_zero, Nat.zero_add,
        toDigits_ofDigitChars hds (Nat.pos_of_ne_zero hvalue), Nat.toDigits_of_lt_base hlt, hchar,
        List.singleton_append]

/-- All digits are appended exactly if 64 bits hold the number that they make. -/
lemma appendDigits_eq_nil_iff {n m : Nat} {ds : List Char} (hn : n < 0x10000000000000000) :
    appendDigits n ds = (m, []) ↔
      m = Nat.ofDigitChars 10 ds n ∧ Nat.ofDigitChars 10 ds n < 0x10000000000000000 := by
  constructor
  · intro h
    induction ds generalizing n with
    | nil =>
      cases h
      exact ⟨rfl, hn⟩
    | cons d ds ih =>
      unfold appendDigits at h
      rw [Nat.ofDigitChars_cons, Nat.mul_comm]
      dsimp only at h
      split_ifs at h with hnext
      · exact ih hnext h
      · cases h
  · rintro ⟨rfl, hlt⟩
    exact appendDigits_of_lt hlt

/-! ### Values -/

/-- A literal is a natural number exactly if it has neither sign nor fraction nor exponent and 64
bits hold the number. A zero with a sign is none. -/
lemma Numeral.value_eq_natural_iff {n : Numeral} {m : Nat} :
    n.value = .ok (.integer m) ↔
      n.negative = false ∧ n.fraction = none ∧ n.exponent = none ∧
        m = Nat.ofDigitChars 10 n.whole 0 ∧
        Nat.ofDigitChars 10 n.whole 0 < 0x10000000000000000 := by
  rw [← appendDigits_eq_nil_iff (by decide)]
  unfold value
  rcases hwhole : appendDigits 0 n.whole with ⟨whole, dropped⟩
  dsimp only
  split_ifs with hinteger hnegative
  · -- a negative integer is not a natural number
    obtain ⟨-, -, -, hsign⟩ := hinteger
    have hpositive : 0 < whole := (hsign.resolve_left (not_not.mpr hnegative)).1
    simp only [Except.ok.injEq, Number.integer.injEq, Int.ofNat_eq_natCast, hnegative,
      Bool.true_eq_false, false_and, iff_false]
    omega
  · obtain ⟨hfraction, hexponent, rfl, -⟩ := hinteger
    simp only [Except.ok.injEq, Number.integer.injEq, Int.ofNat_eq_natCast, Int.natCast_inj,
      Bool.not_eq_true] at hnegative ⊢
    simp only [hnegative, Option.isNone_iff_eq_none.mp hfraction,
      Option.isNone_iff_eq_none.mp hexponent, true_and, Prod.mk.injEq, and_true]
  · constructor
    · intro h
      cases hfloat : n.toFloat <;> rw [hfloat] at h <;> cases h
    · rintro ⟨hnegative, hfraction, hexponent, hdigits⟩
      refine absurd ⟨?_, ?_, ?_, ?_⟩ hinteger
      · rw [hfraction]
        rfl
      · rw [hexponent]
        rfl
      · exact (Prod.mk.inj hdigits).2
      · exact .inl (by rw [hnegative]; exact Bool.false_ne_true)

/-- A literal is taken as a number of 32 bits exactly if it has neither sign nor fraction nor
exponent and 32 bits hold the number. -/
lemma readNat32_number_eq_ok_iff {n : Numeral} {m : Nat} :
    readNat32 (.number n none) = .ok m ↔
      n.negative = false ∧ n.fraction = none ∧ n.exponent = none ∧
        m = Nat.ofDigitChars 10 n.whole 0 ∧ Nat.ofDigitChars 10 n.whole 0 ≤ 4294967295 := by
  have hliteral : ∀ v, numberValue n none = .ok v ↔ n.value = .ok v := fun _ => liftFault_eq_ok_iff
  unfold readNat32
  rw [bind_eq_ok_iff]
  constructor
  · rintro ⟨v, hv, hm⟩
    rw [hliteral] at hv
    cases v with
    | float x => cases hm
    | integer i =>
      dsimp only at hm
      split_ifs at hm with hrange
      obtain ⟨k, rfl⟩ := Int.eq_ofNat_of_zero_le hrange.1
      obtain ⟨hnegative, hfraction, hexponent, hk, -⟩ := Numeral.value_eq_natural_iff.mp hv
      obtain rfl : k = m := Except.ok.inj hm
      exact ⟨hnegative, hfraction, hexponent, hk, by omega⟩
  · rintro ⟨hnegative, hfraction, hexponent, rfl, hle⟩
    refine ⟨.integer (Nat.ofDigitChars 10 n.whole 0), (hliteral _).mpr ?_, ?_⟩
    · exact Numeral.value_eq_natural_iff.mpr
        ⟨hnegative, hfraction, hexponent, rfl, by omega⟩
    · dsimp only
      rw [if_pos (by omega)]
      rfl

/-! ### Literals -/

/-- A literal of digits alone that stands for a number of 32 bits. -/
structure IsNat32 (literal : String) : Prop where
  digits : AreDigits literal.toList
  le : Nat.ofDigitChars 10 literal.toList 0 ≤ 4294967295

section Literals

variable {literal : String} {l : List Char} {n : Numeral} {m : Nat}

/-- A number literal with neither sign nor fraction nor exponent is its whole part. -/
lemma IsLexeme.eq_whole (h : IsLexeme l (.number n none)) (hnegative : n.negative = false)
    (hfraction : n.fraction = none) (hexponent : n.exponent = none) :
    IsWhole n.whole ∧ l = n.whole := by
  cases h with
  | negative h hn =>
    rw [hnegative] at hn
    cases hn
  | positive h hn =>
    obtain ⟨fraction, exponent, hwhole, hf, he, rfl⟩ := h
    rw [hfraction] at hf
    rw [hexponent] at he
    cases hf
    cases he
    rw [List.append_nil, List.append_nil]
    exact ⟨hwhole, rfl⟩

/-- A number literal of digits alone has neither sign nor fraction nor exponent. -/
lemma IsLexeme.plain_of_areDigits (h : IsLexeme l (.number n none)) (hl : AreDigits l) :
    n.negative = false ∧ n.fraction = none ∧ n.exponent = none := by
  cases h with
  | negative h hn => exact absurd (hl '-' List.mem_cons_self) (by decide)
  | positive h hn =>
    obtain ⟨fraction, exponent, -, hf, he, rfl⟩ := h
    obtain ⟨negative, whole, fraction', exponent'⟩ := n
    dsimp only at hf he hl hn ⊢
    refine ⟨hn, ?_, ?_⟩
    · cases hf with
      | none => rfl
      | digits => exact absurd (hl '.' (by simp)) (by decide)
    · cases he with
      | none => rfl
      | @digits e sign ds negative he =>
        have hdigit : e.isDigit := hl e (by simp)
        rcases he with rfl | rfl <;> exact absurd hdigit (by decide)

/-- **Numbers of 32 bits.** A literal is taken as a number of 32 bits exactly if it consists of
digits and 32 bits hold the number. What is taken is written as the literal. -/
lemma readNat32_eq_ok_iff (h : IsLexeme literal.toList (.number n none)) :
    readNat32 (.number n none) = .ok m ↔ IsNat32 literal ∧ toString m = literal := by
  rw [readNat32_number_eq_ok_iff]
  constructor
  · rintro ⟨hnegative, hfraction, hexponent, rfl, hle⟩
    obtain ⟨hwhole, heq⟩ := h.eq_whole hnegative hfraction hexponent
    refine ⟨⟨heq ▸ hwhole.2.1, heq ▸ hle⟩, String.toList_injective ?_⟩
    rw [heq, Nat.toString_eq_repr, Nat.toList_repr, hwhole.toDigits_eq]
  · rintro ⟨hliteral, hm⟩
    obtain ⟨hnegative, hfraction, hexponent⟩ := h.plain_of_areDigits hliteral.digits
    obtain ⟨-, heq⟩ := h.eq_whole hnegative hfraction hexponent
    have hvalue : Nat.ofDigitChars 10 literal.toList 0 = m := by
      rw [← hm, Nat.toString_eq_repr, Nat.toList_repr]
      exact Nat.ofDigitChars_toDigits (by decide) (by decide)
    rw [← heq, hvalue]
    exact ⟨hnegative, hfraction, hexponent, rfl, hvalue ▸ hliteral.le⟩

/-- From a literal of digits alone a number is taken if 32 bits hold it. -/
lemma IsNat32.exists_readNat32 (h : IsLexeme literal.toList (.number n none))
    (hliteral : IsNat32 literal) : ∃ m, readNat32 (.number n none) = .ok m := by
  obtain ⟨hnegative, hfraction, hexponent⟩ := h.plain_of_areDigits hliteral.digits
  obtain ⟨-, heq⟩ := h.eq_whole hnegative hfraction hexponent
  refine ⟨_, readNat32_number_eq_ok_iff.mpr ⟨hnegative, hfraction, hexponent, rfl, ?_⟩⟩
  rw [← heq]
  exact hliteral.le

end Literals

/-- Nothing is cut off at 32 bits. -/
example : IsNat32 "4294967295" ∧ ¬ IsNat32 "4294967296" :=
  ⟨⟨List.all_eq_true.mp (by decide), by decide⟩, fun h => absurd h.le (by decide)⟩

end CrudScaffold.Json
