import Mathlib.Tactic.Lemma
import CrudScaffold.Config.Environment

/-!
# Texts between quotes

What can stand between the quotes of a text in a variable: plain characters and escapes
(`IsQuotable`). The reader cuts at the first quote that no backslash escapes and looks at the
escapes afterwards. Both steps together take the texts between quotes and nothing else
(`IsQuotation.exists_quoted?` and `exists_isQuotation`).
-/

namespace CrudScaffold.Environment

/-- Characters that can stand between quotes: plain ones, letters behind a backslash that escape a
character, and the numbers of characters. -/
inductive IsQuotable : List Char → Prop
  | nil : IsQuotable []
  | plain {c : Char} {cs : List Char} (hplain : Toml.isPlain c) (hmark : c ≠ '"' ∧ c ≠ '\\')
      (h : IsQuotable cs) : IsQuotable (c :: cs)
  | escape {c : Char} {cs : List Char} (hescape : (Toml.escaped? c).isSome) (h : IsQuotable cs) :
      IsQuotable ('\\' :: c :: cs)
  | short {a b c d : Char} {cs : List Char} (hdigits : (Toml.scalar? [a, b, c, d]).isSome)
      (h : IsQuotable cs) : IsQuotable ('\\' :: 'u' :: a :: b :: c :: d :: cs)
  | long {a b c d e f g i : Char} {cs : List Char}
      (hdigits : (Toml.scalar? [a, b, c, d, e, f, g, i]).isSome) (h : IsQuotable cs) :
      IsQuotable ('\\' :: 'U' :: a :: b :: c :: d :: e :: f :: g :: i :: cs)

/-- A text between quotes. -/
def IsQuotation (cs : List Char) : Prop := ∃ raw, IsQuotable raw ∧ cs = '"' :: (raw ++ ['"'])

variable {c : Char} {cs rest raw : List Char}

/-- A hexadecimal digit is no mark. -/
lemma not_mark_of_mem_scalar {digits : List Char} (h : (Toml.scalar? digits).isSome)
    (hc : c ∈ digits) : c ≠ '"' ∧ c ≠ '\\' := by
  obtain ⟨s, hs⟩ := Option.isSome_iff_exists.mp h
  obtain ⟨ns, hns, -⟩ := Option.bind_eq_some_iff.mp hs
  have hdigits : ∀ digits ns, List.mapM Toml.hexDigit? digits = some ns →
      ∀ c ∈ digits, (Toml.hexDigit? c).isSome := by
    intro digits
    induction digits with
    | nil => exact fun _ _ => List.forall_mem_nil _
    | cons d digits ih =>
      intro ns hns
      rw [List.mapM_cons] at hns
      obtain ⟨n, hn, hns⟩ := Option.bind_eq_some_iff.mp hns
      obtain ⟨more, hmore, -⟩ := Option.bind_eq_some_iff.mp hns
      exact List.forall_mem_cons.mpr ⟨by rw [hn]; rfl, ih more hmore⟩
  have hdigit := hdigits digits ns hns c hc
  constructor <;> rintro rfl <;> cases hdigit

/-- Plain characters are taken up to the closing quote. -/
lemma quotedRaw_append {ds : List Char} (h : ∀ c ∈ ds, c ≠ '"' ∧ c ≠ '\\') (cs : List Char) :
    quotedRaw (ds ++ cs) = (quotedRaw cs).map fun (s, rest) => (ds ++ s, rest) := by
  induction ds with
  | nil =>
    rw [List.nil_append]
    cases quotedRaw cs <;> rfl
  | cons d ds ih =>
    obtain ⟨⟨hquote, hescape⟩, hds⟩ := List.forall_mem_cons.mp h
    rw [List.cons_append, quotedRaw, ih hds]
    · cases quotedRaw cs <;> rfl
    · exact hquote
    · exact fun _ _ he _ => hescape he

/-- What can stand between quotes is taken up to the closing quote, and stands for a text. -/
lemma IsQuotable.reads (h : IsQuotable raw) :
    (∀ rest, quotedRaw (raw ++ '"' :: rest) = some (raw, rest)) ∧ (unescape? raw).isSome := by
  induction h with
  | nil => exact ⟨fun rest => rfl, rfl⟩
  | @plain c cs hplain hmark h ih =>
    obtain ⟨htaken, htext⟩ := ih
    refine ⟨fun rest => ?_, ?_⟩
    · rw [← List.singleton_append, List.append_assoc, quotedRaw_append (by simpa using hmark),
        htaken]
      rfl
    · obtain ⟨text, htext⟩ := Option.isSome_iff_exists.mp htext
      rw [unescape?, if_pos (by simp [hplain, hmark.2]), htext]
      · rfl
      all_goals
        intros
        exact absurd ‹_› hmark.2
  | @escape c cs hescape h ih =>
    obtain ⟨htaken, htext⟩ := ih
    refine ⟨fun rest => ?_, ?_⟩
    · rw [List.cons_append, List.cons_append, quotedRaw, htaken]
      rfl
    · obtain ⟨text, htext⟩ := Option.isSome_iff_exists.mp htext
      obtain ⟨d, hd⟩ := Option.isSome_iff_exists.mp hescape
      rw [unescape?.eq_4 _ _ (fun _ _ _ _ _ hu _ => by rw [hu] at hd; cases hd)
        (fun _ _ _ _ _ _ _ _ _ hu _ => by rw [hu] at hd; cases hd), hd, htext]
      rfl
  | @short a b c d cs hdigits h ih =>
    obtain ⟨htaken, htext⟩ := ih
    refine ⟨fun rest => ?_, ?_⟩
    · have happend := quotedRaw_append (fun e => not_mark_of_mem_scalar hdigits)
        (cs ++ '"' :: rest)
      rw [htaken] at happend
      simp only [List.cons_append, List.nil_append] at happend ⊢
      rw [quotedRaw, happend]
      rfl
    · obtain ⟨text, htext⟩ := Option.isSome_iff_exists.mp htext
      obtain ⟨s, hs⟩ := Option.isSome_iff_exists.mp hdigits
      rw [unescape?, hs, htext]
      rfl
  | @long a b c d e f g i cs hdigits h ih =>
    obtain ⟨htaken, htext⟩ := ih
    refine ⟨fun rest => ?_, ?_⟩
    · have happend := quotedRaw_append (fun e => not_mark_of_mem_scalar hdigits)
        (cs ++ '"' :: rest)
      rw [htaken] at happend
      simp only [List.cons_append, List.nil_append] at happend ⊢
      rw [quotedRaw, happend]
      rfl
    · obtain ⟨text, htext⟩ := Option.isSome_iff_exists.mp htext
      obtain ⟨s, hs⟩ := Option.isSome_iff_exists.mp hdigits
      rw [unescape?, hs, htext]
      rfl

/-- What is taken up to a quote begins with a character other than the marks, or with a backslash
and another character. -/
lemma quotedRaw_cases (h : quotedRaw cs = some (c :: raw, rest)) :
    (c ≠ '"' ∧ c ≠ '\\' ∧ ∃ cs', quotedRaw cs' = some (raw, rest)) ∨
      (c = '\\' ∧ ∃ d raw' cs', raw = d :: raw' ∧ quotedRaw cs' = some (raw', rest)) := by
  unfold quotedRaw at h
  split at h
  · cases h
  · cases h
  · obtain ⟨⟨s, more⟩, hs, he⟩ := Option.map_eq_some_iff.mp h
    cases he
    exact .inr ⟨rfl, _, _, _, rfl, hs⟩
  · rename_i c' cs' hquote hescape
    obtain ⟨⟨s, more⟩, hs, he⟩ := Option.map_eq_some_iff.mp h
    cases he
    refine .inl ⟨hquote, fun hc => ?_, _, hs⟩
    -- a backslash that nothing follows is never closed
    cases cs' with
    | nil => cases hs
    | cons d more => exact hescape d more hc rfl

/-- Characters other than marks can be left out in front. -/
lemma exists_quotedRaw_of_append (ds : List Char) (hds : ∀ d ∈ ds, d ≠ '"' ∧ d ≠ '\\')
    (h : quotedRaw cs = some (ds ++ raw, rest)) : ∃ cs', quotedRaw cs' = some (raw, rest) := by
  induction ds generalizing cs with
  | nil => exact ⟨cs, h⟩
  | cons d ds ih =>
    obtain ⟨hd, hds⟩ := List.forall_mem_cons.mp hds
    rcases quotedRaw_cases h with ⟨-, -, cs', h⟩ | ⟨he, -⟩
    · exact ih hds h
    · exact absurd he hd.2

/-- A character in front of a text is there with the text. -/
lemma isSome_of_bind_cons {a : Option Char} {b : Option (List Char)}
    (h : (do return (← a) :: (← b)) = some cs) : a.isSome ∧ ∃ es, b = some es := by
  obtain ⟨e, ha, h⟩ := Option.bind_eq_some_iff.mp h
  obtain ⟨es, hb, -⟩ := Option.bind_eq_some_iff.mp h
  exact ⟨by rw [ha]; rfl, es, hb⟩

/-- What is taken up to a quote and stands for a text can stand between quotes. -/
lemma isQuotable_of_unescape? {text : List Char} (htext : unescape? raw = some text)
    (h : quotedRaw cs = some (raw, rest)) : IsQuotable raw := by
  induction raw using unescape?.induct generalizing cs text with
  | case1 => exact .nil
  | case2 a b c d raw ih =>
    rw [unescape?] at htext
    obtain ⟨hdigits, text', htext'⟩ := isSome_of_bind_cons htext
    rcases quotedRaw_cases h with ⟨-, he, -⟩ | ⟨-, u, raw', cs', he, h⟩
    · exact absurd rfl he
    · obtain ⟨rfl, rfl⟩ := List.cons_eq_cons.mp he
      obtain ⟨cs', h⟩ := exists_quotedRaw_of_append [a, b, c, d]
        (fun e => not_mark_of_mem_scalar hdigits) h
      exact .short hdigits (ih htext' h)
  | case3 a b c d e f g i raw ih =>
    rw [unescape?] at htext
    obtain ⟨hdigits, text', htext'⟩ := isSome_of_bind_cons htext
    rcases quotedRaw_cases h with ⟨-, he, -⟩ | ⟨-, u, raw', cs', he, h⟩
    · exact absurd rfl he
    · obtain ⟨rfl, rfl⟩ := List.cons_eq_cons.mp he
      obtain ⟨cs', h⟩ := exists_quotedRaw_of_append [a, b, c, d, e, f, g, i]
        (fun e => not_mark_of_mem_scalar hdigits) h
      exact .long hdigits (ih htext' h)
  | case4 c raw hu hU ih =>
    rw [unescape?.eq_4 _ _ hu hU] at htext
    obtain ⟨hescape, text', htext'⟩ := isSome_of_bind_cons htext
    rcases quotedRaw_cases h with ⟨-, he, -⟩ | ⟨-, d, raw', cs', he, h⟩
    · exact absurd rfl he
    · obtain ⟨rfl, rfl⟩ := List.cons_eq_cons.mp he
      exact .escape hescape (ih htext' h)
  | case5 c raw hu hU hescape hplain ih =>
    rw [unescape?.eq_5 _ _ hu hU hescape, if_pos hplain] at htext
    obtain ⟨text', htext', -⟩ := Option.map_eq_some_iff.mp htext
    rw [Bool.and_eq_true, decide_eq_true_eq] at hplain
    rcases quotedRaw_cases h with ⟨hquote, hmark, cs', h⟩ | ⟨he, -⟩
    · exact .plain hplain.1 ⟨hquote, hmark⟩ (ih htext' h)
    · exact absurd he hplain.2
  | case6 c raw hu hU hescape hplain =>
    rw [unescape?.eq_5 _ _ hu hU hescape, if_neg hplain] at htext
    cases htext

/-- What is taken up to a quote stands in front of the quote. -/
lemma eq_append_of_quotedRaw (h : quotedRaw cs = some (raw, rest)) : cs = raw ++ '"' :: rest := by
  induction cs using quotedRaw.induct generalizing raw with
  | case1 => cases h
  | case2 rest' =>
    cases h
    rfl
  | case3 c rest' ih =>
    rw [quotedRaw] at h
    obtain ⟨⟨s, more⟩, hs, he⟩ := Option.map_eq_some_iff.mp h
    cases he
    rw [ih hs]
    rfl
  | case4 c rest' hquote hescape ih =>
    rw [quotedRaw] at h
    · obtain ⟨⟨s, more⟩, hs, he⟩ := Option.map_eq_some_iff.mp h
      cases he
      rw [ih hs]
      rfl
    all_goals assumption

/-- A text between quotes is read as a whole. -/
lemma IsQuotation.exists_quoted? (h : IsQuotation cs) (rest : List Char) :
    ∃ s, quoted? (cs ++ rest) = some (s, rest) := by
  obtain ⟨raw, hraw, rfl⟩ := h
  obtain ⟨htaken, htext⟩ := hraw.reads
  obtain ⟨text, htext⟩ := Option.isSome_iff_exists.mp htext
  refine ⟨String.ofList text, ?_⟩
  simp [quoted?, htaken, htext]

/-- What is read as a text between quotes is one. -/
lemma exists_isQuotation {s : String} (h : quoted? cs = some (s, rest)) :
    ∃ front, IsQuotation front ∧ cs = front ++ rest := by
  unfold quoted? at h
  split at h
  · obtain ⟨⟨raw, rest'⟩, hraw, h⟩ := Option.bind_eq_some_iff.mp h
    obtain ⟨text, htext, h⟩ := Option.bind_eq_some_iff.mp h
    cases h
    refine ⟨_, ⟨raw, isQuotable_of_unescape? htext hraw, rfl⟩, ?_⟩
    rw [eq_append_of_quotedRaw hraw]
    simp
  · cases h

end CrudScaffold.Environment
