import Mathlib.Algebra.Group.Nat.Defs
import Mathlib.Tactic.Lemma
import CrudScaffold.Archive.Words

/-!
# Laws of numbers in bytes

A number that fits into some bytes is read from them as it was written, in either order, and a part
of some bytes is what stands between the bytes before it and the bytes behind it.
-/

namespace CrudScaffold.Bytes

/-- A number is written in as many bytes as it is given. -/
@[simp]
lemma length_lowFirst (count n : Nat) : (lowFirst count n).length = count := by
  induction count generalizing n with
  | zero => rfl
  | succ count ih => rw [lowFirst, List.length_cons, ih]

/-- A number that fits is read as it was written, the lowest byte first. -/
lemma ofLowFirst_lowFirst {count n : Nat} (h : n < 256 ^ count) :
    ofLowFirst (lowFirst count n) = n := by
  induction count generalizing n with
  | zero => exact (Nat.lt_one_iff.mp h).symm
  | succ count ih =>
    have hhigh : n / 256 < 256 ^ count :=
      Nat.div_lt_of_lt_mul (by rwa [Nat.pow_succ, Nat.mul_comm] at h)
    rw [lowFirst, ofLowFirst, ih hhigh]
    change n % 256 + 256 * (n / 256) = n
    exact Nat.mod_add_div n 256

/-- A number is written in as many bytes as it is given, the highest first. -/
@[simp]
lemma length_highFirst (count n : Nat) : (highFirst count n).length = count := by
  rw [highFirst, List.length_reverse, length_lowFirst]

/-- A number that fits is read as it was written, the highest byte first. -/
lemma ofHighFirst_highFirst {count n : Nat} (h : n < 256 ^ count) :
    ofHighFirst (highFirst count n) = n := by
  rw [ofHighFirst, highFirst, List.reverse_reverse, ofLowFirst_lowFirst h]

/-- Bytes that do not reach a length get it from the zeros behind them. -/
lemma length_padTo {length : Nat} {b : Bytes} (h : b.length ≤ length) :
    (padTo length b).length = length := by
  rw [padTo, List.length_append, List.length_replicate, Nat.add_sub_cancel' h]

/-- A part of some bytes stands between what is before it and what is behind it. -/
lemma slice_append {start count : Nat} {before b : Bytes} (hbefore : before.length = start)
    (hb : b.length = count) (behind : Bytes) : slice (before ++ (b ++ behind)) start count = b := by
  rw [slice, List.drop_left' hbefore, List.take_left' hb]

end CrudScaffold.Bytes
