import Mathlib.Data.List.Basic
import CrudScaffold.Proofs.List

/-!
# Replacing characters

Where a character is replaced by a text, the text stands wherever the character did
(`toList_replace`). Several replacements in sequence each go over all that those before them have
left, texts that were put in included. If no text that is put in has a character that is replaced
later, nothing is replaced twice, and the sequence puts one text for each character
(`toList_replaceAll`).
-/

namespace CrudScaffold.Text

/-! ### One replacement -/

/-- What stands for a character when `c` is replaced. -/
def inPlaceOf (c : Char) (new : String) (d : Char) : List Char := if d = c then new.toList else [d]

/-- Nothing changes where the character does not stand. -/
lemma flatMap_inPlaceOf_of_notMem {c : Char} {cs : List Char} (h : c ∉ cs) (new : String) :
    cs.flatMap (inPlaceOf c new) = cs := by
  have hself : ∀ d ∈ cs, inPlaceOf c new d = [d] := fun d hd => if_neg (ne_of_mem_of_not_mem hd h)
  rw [List.flatMap_congr hself, List.flatMap_singleton']

section Search

open String.Slice.Pattern Model

variable {s : String.Slice} {c : Char} {steps : List (SearchStep s)} {start stop : s.Pos}
  {before after rest : String}

/-- What a step of a search adds to the text with replacements. -/
def replaceStep (s : String.Slice) (new sofar : String) : SearchStep s → String
  | .matched .. => sofar ++ new.toSlice
  | .rejected start stop => sofar ++ s.slice! start stop

/-- To replace a character is to search for it. -/
lemma replace_eq_foldl (s : String) (c : Char) (new : String) :
    s.replace c new =
      (ToForwardSearcher.toSearcher c s.toSlice).toList.foldl (replaceStep s.toSlice new) "" := by
  rw [String.replace, String.Slice.replace, ← Std.Iter.foldl_toList]
  congr 1
  funext sofar step
  cases step <;> rfl

/-- In what a search for a character passes by, the character does not stand. -/
lemma notMem_of_not_matchesAt (hstart : start.Splits before (rest ++ after))
    (hstop : stop.Splits (before ++ rest) after)
    (h : ∀ p, start ≤ p → p < stop → ¬ MatchesAt c p) : c ∉ rest.toList := by
  intro hc
  obtain ⟨front, back, hlist⟩ := List.append_of_mem hc
  have hrest : rest = String.ofList front ++ (String.singleton c ++ String.ofList back) :=
    String.toList_injective (by simp [hlist])
  have hcopy : s.copy = (before ++ String.ofList front) ++
      (String.singleton c ++ (String.ofList back ++ after)) := by
    simp only [hstart.eq_append, hrest, String.append_assoc]
  -- the place of the character is between the two, so the search would have found it
  have hplace := String.Slice.Pos.splits_ofEqAppend hcopy
  refine h (.ofEqAppend hcopy) ?_ ?_ (Char.matchesAt_iff_splits.mpr ⟨_, _, hplace⟩)
  · refine (hstart.le_iff_exists_eq_append hplace).mpr ⟨String.ofList front, rfl, ?_⟩
    simp only [hrest, String.append_assoc]
  · refine (hplace.lt_iff_exists_eq_append hstop).mpr
      ⟨String.singleton c ++ String.ofList back, ?_, ?_, ?_⟩
    · simp [← String.toList_inj]
    · simp only [hrest, String.append_assoc]
    · simp only [String.append_assoc]

/-- The steps of a search from a place on put a text wherever the character stands behind it. -/
lemma toList_foldl_replaceStep (h : IsValidSearchFrom c start steps) (new sofar : String)
    (hstart : start.Splits before after) :
    (steps.foldl (replaceStep s new) sofar).toList =
      sofar.toList ++ after.toList.flatMap (inPlaceOf c new) := by
  induction h generalizing sofar before after with
  | endPos =>
    obtain rfl : after = "" := hstart.eq_endPos_iff.mp rfl
    simp
  | matched hmatch _ ih =>
    obtain ⟨hne, rfl, hget⟩ := Char.isLongestMatchAt_iff.mp hmatch
    obtain ⟨rest, rfl⟩ := hstart.exists_eq_singleton_append hne
    rw [List.foldl_cons, ih _ hstart.next]
    simp [replaceStep, inPlaceOf, hget]
  | @mismatched _ start stop hlt hpass _ ih =>
    obtain ⟨rest, -, hbefore, rfl⟩ := (hstart.lt_iff_exists_eq_append stop.splits).mp hlt
    have hstop := stop.splits
    rw [hbefore] at hstop
    have hslice : (s.slice! start stop).copy = rest := by
      obtain ⟨hle, hcopy⟩ := String.Slice.copy_slice_eq_iff_splits.mpr ⟨_, _, hstart, hstop⟩
      rw [← String.Slice.slice_eq_slice! (h := hle), hcopy]
    have hsame := flatMap_inPlaceOf_of_notMem (notMem_of_not_matchesAt hstart hstop hpass) new
    rw [List.foldl_cons, ih _ stop.splits]
    simp [replaceStep, hslice, hsame]

/-- To replace a character is to put the text wherever the character stands. -/
lemma toList_replace (s : String) (c : Char) (new : String) :
    (s.replace c new).toList = s.toList.flatMap (inPlaceOf c new) := by
  have hsearch : IsValidSearchFrom c s.toSlice.startPos
      (ToForwardSearcher.toSearcher c s.toSlice).toList :=
    LawfulToForwardSearcherModel.isValidSearchFrom_toList s.toSlice
  rw [replace_eq_foldl, toList_foldl_replaceStep hsearch new "" (String.Slice.splits_startPos _),
    String.copy_toSlice, String.toList_empty, List.nil_append]

end Search

/-! ### Replacements in sequence -/

/-- Replaces characters one after the other. -/
def replaceAll (pairs : List (Char × String)) (s : String) : String :=
  pairs.foldl (fun s pair => s.replace pair.1 pair.2) s

/-- The text that a list of replacements has for a character. -/
def written (pairs : List (Char × String)) (c : Char) : List Char :=
  match pairs.lookup c with
  | some new => new.toList
  | none => [c]

/-- The first replacement of a character counts. -/
lemma written_cons (pair : Char × String) (pairs : List (Char × String)) (c : Char) :
    written (pair :: pairs) c = if c = pair.1 then pair.2.toList else written pairs c := by
  rw [written, lookup_cons_ite]
  split_ifs
  · rfl
  · rfl

/-- Later replacements leave alone what the first one has put in, so together they put what the list
has for a character. -/
lemma flatMap_written {pair : Char × String} {pairs : List (Char × String)}
    (h : ∀ later ∈ pairs, later.1 ∉ pair.2.toList) (c : Char) :
    (inPlaceOf pair.1 pair.2 c).flatMap (written pairs) = written (pair :: pairs) c := by
  rw [written_cons, inPlaceOf]
  split_ifs
  · have hself : ∀ d ∈ pair.2.toList, written pairs d = [d] := by
      intro d hd
      have hnone : d ∉ pairs.map Prod.fst := by
        intro hmem
        obtain ⟨later, hlater, rfl⟩ := List.mem_map.mp hmem
        exact h later hlater hd
      rw [written, lookup_eq_none_of_notMem hnone]
    rw [List.flatMap_congr hself, List.flatMap_singleton']
  · exact List.flatMap_singleton _ _

/-- Replacements in sequence put one text for each character, if no text that is put in has a
character that is replaced later. -/
lemma toList_replaceAll {pairs : List (Char × String)}
    (h : pairs.Pairwise fun pair later => later.1 ∉ pair.2.toList) (s : String) :
    (replaceAll pairs s).toList = s.toList.flatMap (written pairs) := by
  induction pairs generalizing s with
  | nil => exact (List.flatMap_singleton' _).symm
  | cons pair pairs ih =>
    obtain ⟨hpair, hpairs⟩ := List.pairwise_cons.mp h
    calc (replaceAll (pair :: pairs) s).toList
        = (replaceAll pairs (s.replace pair.1 pair.2)).toList := rfl
      _ = (s.toList.flatMap (inPlaceOf pair.1 pair.2)).flatMap (written pairs) := by
        rw [ih hpairs, toList_replace]
      _ = s.toList.flatMap fun c => (inPlaceOf pair.1 pair.2 c).flatMap (written pairs) :=
        List.flatMap_assoc
      _ = s.toList.flatMap (written (pair :: pairs)) :=
        List.flatMap_congr fun c _ => flatMap_written hpair c

end CrudScaffold.Text
