import CrudScaffold.Json.Reader
import CrudScaffold.Proofs.Json.Parser

/-!
# Reading written values

Every reader takes the tree of a written value back to what was written: texts, truth values,
numbers below `2^32`, names, and lists of anything that is read back item by item. A record that
is read from the tree of a value is read from the text of the value as well.
-/

namespace CrudScaffold.Json

/-! ### Numbers -/

/-- A number with more digits is not smaller. -/
lemma le_ofDigitChars (n : Nat) (ds : List Char) : n ≤ Nat.ofDigitChars 10 ds n := by
  induction ds generalizing n with
  | nil => exact Nat.le_refl n
  | cons d ds ih =>
    have hnext : 10 * n + (d.toNat - '0'.toNat) ≤
        Nat.ofDigitChars 10 ds (10 * n + (d.toNat - '0'.toNat)) := ih _
    exact Nat.le_trans (by omega) hnext

/-- Digits are appended as long as 64 bits hold the number. -/
lemma appendDigits_of_lt {n : Nat} {ds : List Char}
    (h : Nat.ofDigitChars 10 ds n < 0x10000000000000000) :
    appendDigits n ds = (Nat.ofDigitChars 10 ds n, []) := by
  induction ds generalizing n with
  | nil => rfl
  | cons d ds ih =>
    have hstep : Nat.ofDigitChars 10 (d :: ds) n =
        Nat.ofDigitChars 10 ds (n * 10 + (d.toNat - 48)) := by
      rw [Nat.mul_comm]
      rfl
    rw [hstep] at h ⊢
    have hnext : n * 10 + (d.toNat - 48) < 0x10000000000000000 :=
      Nat.lt_of_le_of_lt (le_ofDigitChars _ ds) h
    rw [appendDigits]
    simp only [hnext, if_true]
    exact ih h

/-- A numeral that 64 bits hold has the value that it was written for. -/
lemma Numeral.value_ofNat {n : Nat} (h : n < 0x10000000000000000) :
    (Numeral.ofNat n).value = .ok (.integer n) := by
  have hvalue : Nat.ofDigitChars 10 (Nat.toDigits 10 n) 0 = n :=
    Nat.ofDigitChars_toDigits (by decide) (by decide)
  have hdigits : appendDigits 0 (Nat.toDigits 10 n) = (n, []) := by
    rw [appendDigits_of_lt (by rw [hvalue]; exact h), hvalue]
  simp [Numeral.value, Numeral.ofNat, hdigits]

/-- A number below `2^32` is read back. -/
lemma readNat32_tree {n : Nat} (h : n < 0x100000000) :
    readNat32 (Value.tree (.number n)) = .ok n := by
  have hnumber : numberValue (.ofNat n) none = .ok (.integer n) := by
    rw [numberValue, Numeral.value_ofNat (by omega)]
    rfl
  have hrange : (0 : Int) ≤ n ∧ (n : Int) < 0x100000000 := by omega
  simp only [Value.tree, readNat32, hnumber, bind, Except.bind, if_pos hrange, Int.toNat_natCast]
  rfl

/-! ### Texts, truth values, names and options -/

/-- A text is read back. -/
lemma readString_tree (s : String) : readString (Value.tree (.string s)) = .ok s := by
  rw [Value.tree, readString, StringLiteral.decode_ofString]
  rfl

@[simp] lemma readBool_tree (b : Bool) : readBool (Value.tree (.bool b)) = .ok b := rfl

/-- What is there is read where it may be missing. -/
lemma readOption_tree {α : Type} {read : Tree → Except Error α} {t : Tree} {a : α}
    (hnull : t ≠ .null) (h : read t = .ok a) : readOption read t = .ok (some a) := by
  unfold readOption
  split
  · exact absurd rfl hnull
  · rw [h]
    rfl

/-- A name is read as what it stands for. -/
lemma readName_tree {α : Type} (ofName : String → α) (s : String) :
    readName ofName (Value.tree (.string s)) = .ok (ofName s) := by
  rw [Value.tree, readName, StringLiteral.decode_ofString]
  rfl

/-! ### Lists and records -/

/-- If every item is read back, so is the list. -/
lemma readList_tree {α : Type} {read : Tree → Except Error α} {toValue : α → Value} {l : List α}
    (h : ∀ a ∈ l, read (toValue a).tree = .ok a) :
    readList read (Value.tree (.array (l.map toValue))) = .ok l := by
  have hitems : (Value.trees (l.map toValue)).mapM read = .ok l := by
    rw [Value.trees_eq_map, List.map_map]
    induction l with
    | nil => rfl
    | cons a l ih =>
      rw [List.map_cons, List.mapM_cons, Function.comp_apply, h a List.mem_cons_self,
        ih fun b hb => h b (List.mem_cons_of_mem a hb)]
      rfl
  rw [Value.tree, readList, hitems]
  rfl

namespace Record

variable {δ α : Type} (r : Record δ α)

/-- A member goes into the draft under its name. -/
lemma readMembers_memberTrees_cons (d : δ) (name : String) (v : Value)
    (ms : List (String × Value)) :
    r.readMembers d (Value.memberTrees ((name, v) :: ms)) =
      r.member d name v.tree >>= fun d => r.readMembers d (Value.memberTrees ms) := by
  rw [Value.memberTrees, readMembers, StringLiteral.decode_ofString]
  rfl

/-- A record is what its draft becomes once all members are in it. -/
lemma read_tree_object {d : δ} {ms : List (String × Value)}
    (h : r.readMembers r.blank (Value.memberTrees ms) = .ok d) :
    r.read (Value.tree (.object ms)) = r.finish d := by
  rw [Value.tree, read, h]
  rfl

variable {r}

/-- What is read from the tree of a value is read from its text. -/
lemma ofText_pretty {v : Value} {a : α} (h : r.read v.tree = .ok a) :
    r.ofText v.pretty = .ok a := by
  rw [ofText, parse_pretty]
  simp only [h]
  rfl

end Record

end CrudScaffold.Json
