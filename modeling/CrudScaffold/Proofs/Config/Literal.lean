import Mathlib.Data.Bool.AllAny
import Mathlib.Data.List.Infix
import Mathlib.Data.List.TakeWhile
import CrudScaffold.Proofs.Config.Enclosed
import CrudScaffold.Proofs.Text.Blank

/-!
# Texts that stand for themselves

The text of a variable is read as a value before anyone knows what its key asks for. A text that is
a flag, a number, a character between apostrophes, or complete between quotes, brackets or braces
(`IsLiteral`) stands for the value that it spells, and every other text for itself
(`value_eq_text_iff`). A number that is too large is no number here, and nor is one with two points.
-/

namespace CrudScaffold.Environment

/-- A text that spells a value other than the text itself. -/
inductive IsLiteral (s : String) : Prop
  /-- A flag. -/
  | flag (h : s = "true" ∨ s = "false")
  /-- A number with a point. -/
  | decimal (h : isDecimal s.toList)
  /-- A whole number of 64 bits. -/
  | integer (h : (integer? s.toList).isSome)
  /-- A character between apostrophes. -/
  | character (c : Char) (h : s.toList = ['\'', c, '\''])
  /-- A text in quotes, a list in brackets or a table in braces. -/
  | enclosed (hhead : s.toList.head? ∈ [some '"', some '[', some '\x7b'])
      (h : IsComplete s.toList)

variable {s : String} {c : Char} {cs rest : List Char} {v : Setting}

/-! ### Space -/

/-- Space is blank. -/
lemma isBlank_of_isSpace (h : isSpace c) : Text.isBlank c := by
  simp only [isSpace, Bool.or_eq_true, beq_iff_eq] at h
  rcases h with (((rfl | rfl) | rfl) | rfl) | rfl <;> rfl

/-- There is no space at the beginning of what is trimmed. -/
lemma skipSpace_eq_self (htrim : Text.trimChars cs = cs) : skipSpace cs = cs := by
  cases cs with
  | nil => rfl
  | cons c cs =>
    refine List.dropWhile_cons_of_neg fun hspace => ?_
    have hfirst := (Text.dropWhile_eq_self_of_trimChars htrim).1
    rw [List.dropWhile_cons_of_pos (isBlank_of_isSpace hspace)] at hfirst
    have hlength := (List.dropWhile_suffix (l := cs) Text.isBlank).length_le
    rw [hfirst, List.length_cons] at hlength
    omega

/-- There is no space at the end of what is trimmed. -/
lemma eq_nil_of_skipSpace (htrim : Text.trimChars cs = cs) (hrest : rest <:+ cs)
    (h : skipSpace rest = []) : rest = [] := by
  rcases List.eq_nil_or_concat' rest with hnil | ⟨front, c, rfl⟩
  · exact hnil
  exfalso
  obtain ⟨before, rfl⟩ := hrest
  have hspace : isSpace c := List.dropWhile_eq_nil_iff.mp h c (by simp)
  have hlast := (Text.dropWhile_eq_self_of_trimChars htrim).2
  rw [← List.append_assoc, List.reverse_concat,
    List.dropWhile_cons_of_pos (isBlank_of_isSpace hspace)] at hlast
  have hlength := (List.dropWhile_suffix (l := (before ++ front).reverse) Text.isBlank).length_le
  rw [hlast, List.length_cons] at hlength
  omega

/-! ### Numbers -/

/-- A character of a number. -/
def isNumberChar (c : Char) : Bool := c.isDigit || c ∈ ['+', '-', '.', 'e', 'E']

/-- What is taken off in front of a number is its sign. -/
lemma isNumberChar_of_sign (h : ∀ c ∈ (Toml.sign cs).2, isNumberChar c) :
    ∀ c ∈ cs, isNumberChar c := by
  unfold Toml.sign at h
  split at h
  · exact List.forall_mem_cons.mpr ⟨rfl, h⟩
  · exact List.forall_mem_cons.mpr ⟨rfl, h⟩
  · exact h

/-- Digits are characters of numbers. -/
lemma isNumberChar_of_isDigit (h : c.isDigit) : isNumberChar c := by
  rw [isNumberChar, h, Bool.true_or]

/-- An exponent has characters of numbers only. -/
lemma isNumberChar_of_isExponent (h : isExponent cs) : ∀ c ∈ cs, isNumberChar c := by
  unfold isExponent at h
  split at h
  · exact List.forall_mem_nil _
  · split_ifs at h with he
    · rw [Bool.and_eq_true, List.all_eq_true] at h
      refine List.forall_mem_cons.mpr ⟨?_, isNumberChar_of_sign fun c hc => ?_⟩
      · rcases he with rfl | rfl <;> rfl
      · exact isNumberChar_of_isDigit (h.2 c hc)

/-- A number with a point has characters of numbers only. -/
lemma isNumberChar_of_isDecimal (h : isDecimal cs) : ∀ c ∈ cs, isNumberChar c := by
  have htake : ∀ cs : List Char, ∀ c ∈ cs.takeWhile Char.isDigit, isNumberChar c :=
    fun cs c hc => isNumberChar_of_isDigit (List.mem_takeWhile_imp hc)
  refine isNumberChar_of_sign ?_
  unfold isDecimal at h
  dsimp only at h
  rw [← List.takeWhile_append_dropWhile (p := Char.isDigit) (l := (Toml.sign cs).2)]
  refine List.forall_mem_append.mpr ⟨htake _, ?_⟩
  split at h
  · rename_i fraction hpoint
    rw [Bool.and_eq_true] at h
    rw [hpoint, ← List.takeWhile_append_dropWhile (p := Char.isDigit) (l := fraction)]
    refine List.forall_mem_cons.mpr ⟨rfl, List.forall_mem_append.mpr ⟨htake _, ?_⟩⟩
    exact isNumberChar_of_isExponent h.2
  · cases h

/-- A whole number has characters of numbers only. -/
lemma isNumberChar_of_integer? (h : (integer? cs).isSome) : ∀ c ∈ cs, isNumberChar c := by
  refine isNumberChar_of_sign fun c hc => isNumberChar_of_isDigit ?_
  unfold integer? at h
  dsimp only at h
  by_cases hdigits : (Toml.sign cs).2.isEmpty || !(Toml.sign cs).2.all Char.isDigit
  · rw [if_pos hdigits] at h
    cases h
  · simp only [Bool.or_eq_true, Bool.not_eq_true', not_or, Bool.not_eq_false,
      List.all_eq_true] at hdigits
    exact hdigits.2 c hc

/-! ### Values -/

/-- A text between quotes is longer with its quotes. -/
lemma length_of_quotedRaw {raw : List Char} (h : quotedRaw cs = some (raw, rest)) :
    raw.length + rest.length < cs.length := by
  induction cs using quotedRaw.induct generalizing raw with
  | case1 => cases h
  | case2 rest' =>
    cases h
    simp
  | case3 c rest' ih =>
    rw [quotedRaw] at h
    obtain ⟨⟨s, more⟩, hs, heq⟩ := Option.map_eq_some_iff.mp h
    cases heq
    have := ih hs
    simp only [List.length_cons]
    omega
  | case4 c rest' hquote hescape ih =>
    rw [quotedRaw] at h
    · obtain ⟨⟨s, more⟩, hs, heq⟩ := Option.map_eq_some_iff.mp h
      cases heq
      have := ih hs
      simp only [List.length_cons]
      omega
    all_goals assumption

/-- A character in front of a text makes it longer by one. -/
lemma length_of_bind_cons {a : Option Char} {b : Option (List Char)} {n : Nat}
    (hb : ∀ {es}, b = some es → es.length ≤ n) (h : (do return (← a) :: (← b)) = some cs) :
    cs.length ≤ n + 1 := by
  obtain ⟨e, -, h⟩ := Option.bind_eq_some_iff.mp h
  obtain ⟨es, hes, h⟩ := Option.bind_eq_some_iff.mp h
  cases h
  exact Nat.succ_le_succ (hb hes)

/-- The text is at most as long as the characters that it is written with. -/
lemma length_of_unescape? {raw : List Char} (h : unescape? raw = some cs) :
    cs.length ≤ raw.length := by
  induction raw using unescape?.induct generalizing cs with
  | case1 =>
    cases h
    rfl
  | case2 a b c d rest ih =>
    rw [unescape?] at h
    exact (length_of_bind_cons ih h).trans (by simp)
  | case3 a b c d e f g h' rest ih =>
    rw [unescape?] at h
    exact (length_of_bind_cons ih h).trans (by simp)
  | case4 c rest hu hU ih =>
    rw [unescape?.eq_4 _ _ hu hU] at h
    exact (length_of_bind_cons ih h).trans (by simp)
  | case5 c rest hu hU hescape hplain ih =>
    rw [unescape?.eq_5 _ _ hu hU hescape, if_pos hplain] at h
    obtain ⟨es, hes, rfl⟩ := Option.map_eq_some_iff.mp h
    exact Nat.succ_le_succ (ih hes)
  | case6 c rest hu hU hescape hplain =>
    rw [unescape?.eq_5 _ _ hu hU hescape, if_neg hplain] at h
    cases h

/-- A text in quotes is longer than the text that it stands for. -/
lemma length_of_quoted? (h : quoted? cs = some (s, rest)) : s.length < cs.length := by
  unfold quoted? at h
  split at h
  · obtain ⟨⟨raw, rest'⟩, hraw, h⟩ := Option.bind_eq_some_iff.mp h
    obtain ⟨text, htext, h⟩ := Option.bind_eq_some_iff.mp h
    cases h
    have := length_of_quotedRaw hraw
    have := length_of_unescape? htext
    rw [String.length_ofList, List.length_cons]
    omega
  · cases h

/-- A number is read as it is written. -/
lemma valueWithin?_of_isNumberChar {depth : Nat} (hchars : ∀ c ∈ cs, isNumberChar c) :
    valueWithin? (depth + 1) cs = some (bare cs, []) := by
  have hkinds : ∀ c, isNumberChar c → isSpace c = false ∧ isSeparator c = false ∧
      c ∉ ['t', 'f', '"', '\''] := by
    intro c hc
    rw [isNumberChar, Bool.or_eq_true, decide_eq_true_eq] at hc
    rcases hc with hdigit | hmem
    · have hne : ∀ d, d.isDigit = false → c ≠ d := by
        rintro d hd rfl
        rw [hd] at hdigit
        cases hdigit
      simp [isSpace, isSeparator, hne]
    · have hmarks : ∀ c ∈ ['+', '-', '.', 'e', 'E'], isSpace c = false ∧ isSeparator c = false ∧
          c ∉ ['t', 'f', '"', '\''] :=
        List.all_iff_forall_prop.mp (by decide)
      exact hmarks c hmem
  have hspace : skipSpace cs = cs := by
    cases cs with
    | nil => rfl
    | cons c cs =>
      refine List.dropWhile_cons_of_neg ?_
      simp [hkinds c (hchars c List.mem_cons_self)]
  have htake : cs.takeWhile (!isSeparator ·) = cs :=
    List.takeWhile_eq_self_iff.mpr fun c hc => by simp [hkinds c (hchars c hc)]
  have hdrop : cs.dropWhile (!isSeparator ·) = [] :=
    List.dropWhile_eq_nil_iff.mpr fun c hc => by simp [hkinds c (hchars c hc)]
  simp only [valueWithin?, hspace]
  split
  case h_8 => simp [htake, hdrop, skipSpace]
  all_goals
    exact absurd (hchars _ List.mem_cons_self) (by decide)

/-- What is written bare, when it is trimmed. -/
lemma bare_toList (htrim : Text.trimChars s.toList = s.toList) :
    bare s.toList = if isDecimal s.toList then .float else match integer? s.toList with
      | some n => .integer n
      | none => .text s := by
  have hsame : Text.trim (String.ofList s.toList) = s := by
    rw [Text.trim, String.toList_ofList, htrim, String.ofList_toList]
  cases hn : integer? s.toList with
  | some n => simp only [bare, hsame, hn]
  | none => simp only [bare, hsame, hn]

/-- A trimmed text that is read to its end is a flag, begins with a mark and is read as something
else than itself, or is written bare. -/
lemma cases_of_valueWithin? (htrim : Text.trimChars s.toList = s.toList)
    (h : valueWithin? (s.length + 1) s.toList = some (v, [])) :
    (s = "true" ∧ v = .boolean true) ∨ (s = "false" ∧ v = .boolean false) ∨
      (s.toList.head? ∈ [some '"', some '[', some '\x7b'] ∧ v ≠ .text s) ∨
      (∃ c, s.toList = ['\'', c, '\''] ∧ v ≠ .text s) ∨
      (s.toList.head? ∉ [some '"', some '[', some '\x7b'] ∧ v = bare s.toList) := by
  have hend : ∀ {rest}, rest <:+ s.toList → skipSpace rest = [] → rest = [] :=
    eq_nil_of_skipSpace htrim
  simp only [valueWithin?, skipSpace_eq_self htrim] at h
  split at h
  case h_1 rest hs =>
    obtain ⟨rfl, hrest⟩ : .boolean true = v ∧ skipSpace rest = [] := by simpa using h
    rw [hend ⟨"true".toList, hs.symm⟩ hrest] at hs
    exact .inl ⟨String.toList_injective hs, rfl⟩
  case h_2 rest hs =>
    obtain ⟨rfl, hrest⟩ : .boolean false = v ∧ skipSpace rest = [] := by simpa using h
    rw [hend ⟨"false".toList, hs.symm⟩ hrest] at hs
    exact .inr (.inl ⟨String.toList_injective hs, rfl⟩)
  case h_3 rest hs =>
    obtain ⟨entries, -, h⟩ := Option.bind_eq_some_iff.mp h
    obtain ⟨rfl, -⟩ : tableOf entries.1 = v ∧ skipSpace entries.2 = [] := by simpa using h
    exact .inr (.inr (.inl ⟨by simp [hs], fun he => Setting.noConfusion he⟩))
  case h_4 rest hs =>
    obtain ⟨items, -, h⟩ := Option.bind_eq_some_iff.mp h
    obtain ⟨rfl, -⟩ : .list items.1 = v ∧ skipSpace items.2 = [] := by simpa using h
    exact .inr (.inr (.inl ⟨by simp [hs], fun he => Setting.noConfusion he⟩))
  case h_5 rest hs =>
    obtain ⟨read, hread, h⟩ := Option.bind_eq_some_iff.mp h
    obtain ⟨⟨text, more⟩, hquoted, rfl⟩ := Option.map_eq_some_iff.mp hread
    obtain ⟨rfl, -⟩ : .text text = v ∧ skipSpace more = [] := by simpa using h
    refine .inr (.inr (.inl ⟨by simp [hs], fun he => ?_⟩))
    have hshort := length_of_quoted? hquoted
    rw [Setting.text.inj he, String.length_toList] at hshort
    exact lt_irrefl _ hshort
  case h_6 c rest hs =>
    obtain ⟨rfl, hrest⟩ : .text (String.singleton c) = v ∧ skipSpace rest = [] := by simpa using h
    rw [hend ⟨['\'', c, '\''], hs.symm⟩ hrest] at hs
    refine .inr (.inr (.inr (.inl ⟨c, hs, fun he => ?_⟩)))
    rw [← Setting.text.inj he, String.toList_singleton] at hs
    cases hs
  case h_7 => cases h
  case h_8 _ hbrace hbracket hquote _ _ =>
    obtain ⟨rfl, hrest⟩ : bare (s.toList.takeWhile (!isSeparator ·)) = v ∧
      skipSpace (s.toList.dropWhile (!isSeparator ·)) = [] := by simpa using h
    have hdrop := hend (List.dropWhile_suffix _) hrest
    have htake := List.takeWhile_append_dropWhile (p := (!isSeparator ·)) (l := s.toList)
    rw [hdrop, List.append_nil] at htake
    refine .inr (.inr (.inr (.inr ⟨fun hhead => ?_, by rw [htake]⟩)))
    cases hs : s.toList with
    | nil => simp [hs] at hhead
    | cons c rest =>
      simp only [hs, List.head?_cons, List.mem_cons, Option.some.injEq, List.not_mem_nil,
        or_false] at hhead
      rcases hhead with rfl | rfl | rfl
      · exact hquote rest hs
      · exact hbracket rest hs
      · exact hbrace rest hs

/-- A flag is read to its end. -/
lemma valueWithin?_flag (depth : Nat) :
    valueWithin? (depth + 1) "true".toList = some (.boolean true, []) ∧
      valueWithin? (depth + 1) "false".toList = some (.boolean false, []) :=
  ⟨rfl, rfl⟩

/-- A character between apostrophes is read to its end. -/
lemma valueWithin?_character (depth : Nat) (c : Char) :
    valueWithin? (depth + 1) ['\'', c, '\''] = some (.text (String.singleton c), []) := by
  have hspace : skipSpace ['\'', c, '\''] = ['\'', c, '\''] :=
    List.dropWhile_cons_of_neg (by decide)
  simp only [valueWithin?, hspace]
  rfl

/-- A literal is read to its end as something else than itself. -/
lemma IsLiteral.exists_valueWithin? (htrim : Text.trimChars s.toList = s.toList)
    (h : IsLiteral s) :
    ∃ v, valueWithin? (s.length + 1) s.toList = some (v, []) ∧ v ≠ .text s := by
  cases h with
  | flag h =>
    rcases h with h | h
    · refine ⟨.boolean true, ?_, nofun⟩
      rw [h]
      exact (valueWithin?_flag _).1
    · refine ⟨.boolean false, ?_, nofun⟩
      rw [h]
      exact (valueWithin?_flag _).2
  | decimal h =>
    refine ⟨_, valueWithin?_of_isNumberChar (isNumberChar_of_isDecimal h), ?_⟩
    rw [bare_toList htrim, if_pos h]
    nofun
  | integer h =>
    refine ⟨_, valueWithin?_of_isNumberChar (isNumberChar_of_integer? h), ?_⟩
    obtain ⟨n, hn⟩ := Option.isSome_iff_exists.mp h
    rw [bare_toList htrim, hn]
    split_ifs <;> nofun
  | character c h =>
    refine ⟨_, h ▸ valueWithin?_character s.length c, fun he => ?_⟩
    rw [← Setting.text.inj he, String.toList_singleton] at h
    cases h
  | enclosed hhead h =>
    obtain ⟨v, h⟩ := isComplete_iff.mp h
    rw [String.length_toList] at h
    refine ⟨v, h, ?_⟩
    rcases cases_of_valueWithin? htrim h with
      ⟨-, rfl⟩ | ⟨-, rfl⟩ | ⟨-, hne⟩ | ⟨c, -, hne⟩ | ⟨hnot, -⟩
    · nofun
    · nofun
    · exact hne
    · exact hne
    · exact absurd hhead hnot

/-- **Texts that stand for themselves.** A trimmed text has itself as its value exactly if it is no
flag, no number, no character between apostrophes, and nothing that is complete between quotes,
brackets or braces. -/
lemma value_eq_text_iff (htrim : Text.trim s = s) : value s = .text s ↔ ¬ IsLiteral s := by
  have htrim' : Text.trimChars s.toList = s.toList := by
    have hlist := congrArg String.toList htrim
    rwa [Text.trim, String.toList_ofList] at hlist
  constructor
  · intro hvalue hliteral
    obtain ⟨v, hv, hne⟩ := hliteral.exists_valueWithin? htrim'
    rw [value, hv] at hvalue
    exact hne hvalue
  · intro hliteral
    rw [value]
    split
    · rename_i v hv
      rcases cases_of_valueWithin? htrim' hv with ⟨hs, -⟩ | ⟨hs, -⟩ | ⟨hhead, -⟩ |
        ⟨c, hc, -⟩ | ⟨-, hbare⟩
      · exact absurd (.flag (.inl hs)) hliteral
      · exact absurd (.flag (.inr hs)) hliteral
      · refine absurd (.enclosed hhead (isComplete_iff.mpr ⟨v, ?_⟩)) hliteral
        rwa [String.length_toList]
      · exact absurd (.character c hc) hliteral
      · rw [hbare, bare_toList htrim', if_neg fun h => hliteral (.decimal h)]
        cases hn : integer? s.toList with
        | none => rfl
        | some n => exact absurd (.integer (by rw [hn]; rfl)) hliteral
    · rfl

end CrudScaffold.Environment
