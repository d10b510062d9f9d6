import Mathlib.Tactic.Lemma
import Mathlib.Tactic.SplitIfs
import CrudScaffold.Text.Decomposition

/-!
# Marks in decomposed texts

The canonical form of a text moves marks about, and a mark may come to stand behind others from
further back in the text. Nothing but marks is moved, though, and so the characters that are not
marks are those of the decomposed characters, one after the other (`filter_canonicalOrder`). A mark
leaves nothing among them, since marks stand for marks only (`isMark_of_mem_decompose`); this is
read off the tables, row by row.
-/

namespace CrudScaffold.Text

/-! ### The order of marks -/

/-- Characters with a combining class are marks. -/
lemma isMark_of_combiningClass {c : Char} (h : 0 < combiningClass c) : isMark c := by
  cases hc : isMark c with
  | true => rfl
  | false =>
    rw [combiningClass_eq_zero hc] at h
    exact absurd h (Nat.lt_irrefl 0)

/-- Among the characters that are not marks a character stands where it is put. -/
lemma filter_place (c : Char) (s : List Char) :
    (place c s).filter (fun d => !isMark d) = (c :: s).filter fun d => !isMark d := by
  induction s with
  | nil => rfl
  | cons d s ih =>
    unfold place
    split_ifs with hpass
    · -- only a mark passes, and only by a mark
      have hd : isMark d := isMark_of_combiningClass hpass.1
      have hc : isMark c := isMark_of_combiningClass (Nat.lt_trans hpass.1 hpass.2)
      rw [List.filter_cons_of_neg (by simp [hd]), ih, List.filter_cons_of_neg (by simp [hc]),
        List.filter_cons_of_neg (by simp [hc]), List.filter_cons_of_neg (by simp [hd])]
    · rfl

/-- Characters that are not marks keep their order. -/
lemma filter_canonicalOrder (s : List Char) :
    (canonicalOrder s).filter (fun c => !isMark c) = s.filter fun c => !isMark c := by
  induction s with
  | nil => rfl
  | cons c s ih => rw [canonicalOrder, filter_place, List.filter_cons, List.filter_cons, ih]

/-! ### What marks stand for -/

/-- The number lies in one of the ranges. Whole tables are run through with it, and its comparisons
are the ones that take the fewest steps. -/
def covers (ranges : List (Nat × Nat)) (n : Nat) : Bool :=
  ranges.any fun r => Nat.ble r.1 n && Nat.ble n r.2

@[simp] lemma covers_iff {ranges : List (Nat × Nat)} {n : Nat} :
    covers ranges n ↔ ∃ r ∈ ranges, r.1 ≤ n ∧ n ≤ r.2 := by
  simp [covers]

/-- The code points of marks. -/
def isMarkCode (n : Nat) : Bool := covers markRanges n

/-- A mark is seen from its code point. -/
lemma isMark_iff {c : Char} : isMark c ↔ isMarkCode c.toNat := by
  rw [isMarkCode, covers_iff]
  simp [isMark, inRanges]

/-- All marks are characters, none of them is below 0xC0, and none is a Hangul syllable. -/
lemma of_isMarkCode {n : Nat} (h : isMarkCode n) :
    n.isValidChar ∧ 0xC0 ≤ n ∧ ¬ (0xAC00 ≤ n ∧ n < 0xD7A4) := by
  have hranges : ∀ r ∈ markRanges,
      0xC0 ≤ r.1 ∧ (r.2 < 0xAC00 ∨ 0xE000 ≤ r.1 ∧ r.2 < 0x110000) := by
    decide +kernel
  obtain ⟨r, hr, hlow, hhigh⟩ := covers_iff.mp h
  have := hranges r hr
  unfold Nat.isValidChar
  omega

/-- Blocks of code points without marks. Most rows of the tables are about such code points. -/
def markless : List (Nat × Nat) :=
  [(0xF900, 0xFB1D), (0x1E94B, 0xE00FF), (0x1E00, 0x20CF), (0xC0, 0x2FF), (0x370, 0x482),
   (0x20F1, 0x2CEE), (0x3040, 0x3098), (0x30A0, 0xA66E), (0xFB1F, 0xFDFF)]

/-- The blocks are chosen between the ranges of marks. -/
lemma not_isMarkCode_of_markless {n : Nat} (h : covers markless n) : isMarkCode n = false := by
  have hapart : ∀ b ∈ markless, ∀ r ∈ markRanges, r.2 < b.1 ∨ b.2 < r.1 := by
    decide +kernel
  obtain ⟨b, hb, hlow, hhigh⟩ := covers_iff.mp h
  rw [← Bool.not_eq_true, isMarkCode, covers_iff]
  rintro ⟨r, hr, hlow', hhigh'⟩
  have := hapart b hb r hr
  omega

/-- A row of a table maps marks to marks. -/
def keepsMarks (row : Nat × Nat × Nat) : Bool :=
  covers markless row.1 || !isMarkCode row.1 ||
    isMarkCode row.2.1 && (Nat.beq row.2.2 0 || isMarkCode row.2.2)

/-- The tables of all blocks. -/
def mappingTables : List (List (Nat × Nat × Nat)) :=
  [latinPairs, europeanPairs, asianPairs, extendedPairs, symbolPairs, ideographs,
    supplementaryPairs]

set_option maxRecDepth 4000 in
/-- All rows map marks to marks. -/
lemma keepsMarks_of_mem {table : List (Nat × Nat × Nat)} (htable : table ∈ mappingTables)
    {row : Nat × Nat × Nat} (hrow : row ∈ table) : keepsMarks row := by
  have hall : ∀ table ∈ mappingTables, table.all keepsMarks := by decide +kernel
  exact List.all_eq_true.mp (hall table htable) row hrow

/-- What is found for a code point is in one of the tables. -/
lemma exists_table_of_pairOf {n : Nat} {pair : Nat × Nat} (h : pairOf n = some pair) :
    ∃ table ∈ mappingTables, (n, pair) ∈ table := by
  unfold pairOf at h
  obtain ⟨before, after, htable, -⟩ := List.lookup_eq_some_iff.mp h
  refine ⟨_, ?_, htable ▸ List.mem_append_right before List.mem_cons_self⟩
  unfold mappingTables
  split_ifs <;> simp

/-- The code points that the one of a mark is replaced by are those of marks. -/
lemma isMarkCode_of_pairOf {n a b : Nat} (h : pairOf n = some (a, b)) (hn : isMarkCode n) :
    isMarkCode a ∧ (b = 0 ∨ isMarkCode b) := by
  obtain ⟨table, htable, hmem⟩ := exists_table_of_pairOf h
  have hrow := keepsMarks_of_mem htable hmem
  have hblock : ¬ covers markless n := by
    intro hc
    rw [not_isMarkCode_of_markless hc] at hn
    exact Bool.false_ne_true hn
  simpa [keepsMarks, hblock, hn] using hrow

/-- Whatever the code point of a mark is replaced by, marks remain. -/
lemma isMarkCode_of_mem_expand {depth n k : Nat} (hn : isMarkCode n) (hk : k ∈ expand depth n) :
    isMarkCode k := by
  induction depth generalizing n with
  | zero => rwa [List.mem_singleton.mp hk]
  | succ depth ih =>
    obtain ⟨-, hlow, hhangul⟩ := of_isMarkCode hn
    rw [expand, if_neg (Nat.not_lt.mpr hlow), if_neg hhangul] at hk
    split at hk
    · rwa [List.mem_singleton.mp hk]
    · rename_i a hpair
      exact ih (isMarkCode_of_pairOf hpair hn).1 hk
    · rename_i a b hb hpair
      obtain ⟨ha, hb'⟩ := isMarkCode_of_pairOf hpair hn
      rcases List.mem_append.mp hk with hk | hk
      · exact ih ha hk
      · exact ih (hb'.resolve_left hb) hk

/-- A mark stands for marks only. -/
lemma isMark_of_mem_decompose {m c : Char} (hm : isMark m) (hc : c ∈ decompose m) : isMark c := by
  obtain ⟨k, hk, rfl⟩ := List.mem_map.mp hc
  have hcode : isMarkCode k := isMarkCode_of_mem_expand (isMark_iff.mp hm) hk
  rw [isMark_iff, Char.ofNat, dif_pos (of_isMarkCode hcode).1]
  exact hcode

end CrudScaffold.Text
