import Mathlib.Data.List.TakeWhile
import Mathlib.Tactic.Lemma
import CrudScaffold.Text.Blank

/-!
# What trimming leaves

Trimming takes blanks off the two ends of a text and nothing else, so a text without blanks stays as
it is. Small letters in place of capital ones make no blanks.
-/

namespace CrudScaffold.Text

/-- Characters that are no blanks are not trimmed. -/
lemma trimChars_eq_self {cs : List Char} (h : ∀ c ∈ cs, isBlank c = false) :
    trimChars cs = cs := by
  have hfirst : cs.dropWhile isBlank = cs := by
    cases cs with
    | nil => rfl
    | cons c cs => rw [List.dropWhile_cons_of_neg (by simp [h c])]
  have hlast : cs.reverse.dropWhile isBlank = cs.reverse := by
    cases hcs : cs.reverse with
    | nil => rfl
    | cons c cs' =>
      have hc : c ∈ cs := List.mem_reverse.mp (by simp [hcs])
      rw [List.dropWhile_cons_of_neg (by simp [h c hc])]
  rw [trimChars, hfirst, hlast, List.reverse_reverse]

/-- Characters that trimming leaves alone have no blank at either end. -/
lemma dropWhile_eq_self_of_trimChars {cs : List Char} (h : trimChars cs = cs) :
    cs.dropWhile isBlank = cs ∧ cs.reverse.dropWhile isBlank = cs.reverse := by
  have hfirst : cs.dropWhile isBlank = cs := by
    refine (List.dropWhile_suffix isBlank).eq_of_length_le ?_
    calc cs.length = (trimChars cs).length := by rw [h]
      _ = ((cs.dropWhile isBlank).reverse.dropWhile isBlank).length := List.length_reverse
      _ ≤ (cs.dropWhile isBlank).reverse.length := (List.dropWhile_suffix _).length_le
      _ = (cs.dropWhile isBlank).length := List.length_reverse
  refine ⟨hfirst, ?_⟩
  rw [trimChars, hfirst] at h
  exact List.reverse_eq_iff.mp h

/-- A text that is trimmed and not empty holds more than blanks. -/
lemma isBlankText_eq_false {s : String} (htrim : trim s = s) (hne : s ≠ "") :
    isBlankText s = false := by
  refine Bool.eq_false_iff.mpr fun hblank => hne ?_
  have hnone : s.toList.dropWhile isBlank = [] :=
    List.dropWhile_eq_nil_iff.mpr (List.all_eq_true.mp hblank)
  rw [← htrim, trim, trimChars, hnone]
  rfl

/-- A character in small is the character itself, or 32 places behind it if it is a capital
letter. -/
lemma toLower_cases (c : Char) : c.toLower = c ∨
    65 ≤ c.toNat ∧ c.toNat ≤ 90 ∧ c.toLower.toNat = c.toNat + 32 := by
  unfold Char.toLower
  split
  · rename_i hupper
    have hlow : 65 ≤ c.toNat := hupper.1
    have hhigh : c.toNat ≤ 90 := hupper.2
    have hsmall : (c.val + ('a'.val - 'A'.val)).toNat = c.toNat + 32 := by
      have h32 : ('a'.val - 'A'.val).toNat = 32 := rfl
      have hval : c.val.toNat = c.toNat := rfl
      rw [UInt32.toNat_add, h32]
      omega
    exact .inr ⟨hlow, hhigh, hsmall⟩
  · exact .inl rfl

/-- A character is a blank if and only if it is one in small. -/
lemma isBlank_toLower (c : Char) : isBlank c.toLower = isBlank c := by
  rcases toLower_cases c with hsame | ⟨hlow, hhigh, hsmall⟩
  · rw [hsame]
  · -- capital letters and small ones are both between two blanks
    have hletter : ∀ d : Char, 65 ≤ d.toNat → d.toNat ≤ 122 → isBlank d = false := by
      intro d hd hd'
      unfold isBlank
      simp only [Bool.or_eq_false_iff, Bool.and_eq_false_iff, decide_eq_false_iff_not,
        beq_eq_false_iff_ne]
      omega
    rw [hletter c (by omega) (by omega), hletter c.toLower (by omega) (by omega)]

end CrudScaffold.Text
