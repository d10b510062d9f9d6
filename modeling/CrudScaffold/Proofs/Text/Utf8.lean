import Mathlib.Data.List.Basic
import CrudScaffold.Text.Utf8

/-!
# Laws of UTF-8

The bytes of a text are those of its characters one after the other. Several things follow: bytes
below 0x80 are characters by themselves, and since a character takes four bytes at most, wherever a
text is cut there is a border between two characters close before. The first byte at which two
characters differ tells which of them is smaller, so texts are in the order of their bytes.
-/

namespace CrudScaffold.Text

/-- The bytes of a text are those of its characters. -/
lemma bytes_eq_flatMap (s : String) : bytes s = s.toList.flatMap String.utf8EncodeChar := by
  conv => lhs; rw [← String.ofList_toList (s := s)]
  rw [bytes, String.toByteArray_ofList]
  simp [List.utf8Encode]

/-- Different texts have different bytes. -/
lemma bytes_injective : Function.Injective bytes := by
  intro a b h
  rw [← ofBytes_bytes a, h, ofBytes_bytes]

@[simp] lemma bytes_append (a b : String) : bytes (a ++ b) = bytes a ++ bytes b := by
  simp [bytes_eq_flatMap]

/-! ### Plain characters -/

/-- A character below 0x80 is a byte. -/
lemma utf8EncodeChar_of_lt {c : Char} (h : c.toNat < 128) :
    String.utf8EncodeChar c = [c.toNat.toUInt8] := by
  rw [String.utf8EncodeChar]
  exact if_pos (Nat.le_of_lt_succ h)

/-- A text of characters below 0x80 has one byte for each. -/
lemma bytes_of_lt {s : String} (h : ∀ c ∈ s.toList, c.toNat < 128) :
    bytes s = s.toList.map fun c => c.toNat.toUInt8 := by
  rw [bytes_eq_flatMap, List.map_eq_flatMap]
  exact List.flatMap_congr fun c hc => utf8EncodeChar_of_lt (h c hc)

/-- A byte below 0x80 is only in the character that it is. -/
lemma toNat_of_mem_utf8EncodeChar {c : Char} {x : UInt8} (h : x ∈ String.utf8EncodeChar c)
    (hx : x.toNat < 128) : c.toNat = x.toNat := by
  have hc : c.toNat = c.val.toNat := rfl
  have hhigh : ∀ n, 128 ≤ n → n < 256 → x ≠ UInt8.ofNat n := by
    rintro n hn hlt rfl
    rw [UInt8.toNat_ofNat'] at hx
    omega
  unfold String.utf8EncodeChar at h
  simp only at h
  split_ifs at h <;> simp only [List.mem_cons, List.not_mem_nil, or_false] at h
  · rw [h, UInt8.toNat_ofNat']
    omega
  -- all bytes of longer characters are marked by their highest bit
  · rcases h with h | h <;> exact absurd h (hhigh _ (by omega) (by omega))
  · rcases h with h | h | h <;> exact absurd h (hhigh _ (by omega) (by omega))
  · rcases h with h | h | h | h <;> exact absurd h (hhigh _ (by omega) (by omega))

/-- The character of a number below 0x80 has it as its code. -/
lemma toNat_ofNat_of_lt {n : Nat} (h : n < 128) : (Char.ofNat n).toNat = n := by
  have hvalid : n.isValidChar := .inl (Nat.lt_trans h (by decide))
  rw [Char.ofNat, dif_pos hvalid]
  rfl

/-- Bytes below 0x80 spell the characters that they are. -/
lemma ofBytes?_of_lt {b : Bytes} (h : ∀ x ∈ b, x.toNat < 128) :
    ofBytes? b = some (String.ofList (b.map fun x => Char.ofNat x.toNat)) := by
  have hcode : ∀ x ∈ b, (Char.ofNat x.toNat).toNat = x.toNat :=
    fun x hx => toNat_ofNat_of_lt (h x hx)
  have hbytes : bytes (String.ofList (b.map fun x => Char.ofNat x.toNat)) = b := by
    rw [bytes_of_lt]
    · rw [String.toList_ofList, List.map_map]
      refine (List.map_congr_left fun x hx => ?_).trans (List.map_id b)
      simp [hcode x hx]
    · intro c hc
      rw [String.toList_ofList] at hc
      obtain ⟨x, hx, rfl⟩ := List.mem_map.mp hc
      rw [hcode x hx]
      exact h x hx
  rw [← ofBytes?_bytes, hbytes]

/-! ### Borders between characters -/

/-- The first byte of a character does not continue one. -/
lemma isContinuation_head (c : Char) :
    ∃ b rest, String.utf8EncodeChar c = b :: rest ∧ isContinuation b = false := by
  obtain ⟨b, rest, hb⟩ := List.exists_cons_of_ne_nil (String.utf8EncodeChar_ne_nil (c := c))
  have hlength : 0 < (String.utf8EncodeChar c).length := by simp [hb]
  have hfirst : (String.utf8EncodeChar c)[0].IsUTF8FirstByte :=
    UInt8.isUTF8FirstByte_getElem_utf8EncodeChar.mpr rfl
  refine ⟨b, rest, hb, ?_⟩
  have hall : ∀ n : Fin 256, (UInt8.ofNat n).IsUTF8FirstByte →
      isContinuation (UInt8.ofNat n) = false := by
    decide +kernel
  have h := hall ⟨b.toNat, b.toNat_lt⟩
  simp only [hb, List.getElem_cons_zero] at hfirst
  simpa using h (by simpa using hfirst)

/-- Wherever some characters are cut, a character begins at most three bytes before. -/
lemma exists_border (cs : List Char) {n : Nat} (h : n < (cs.flatMap String.utf8EncodeChar).length) :
    ∃ k, k ≤ n ∧ n ≤ k + 3 ∧
      ∃ b, (cs.flatMap String.utf8EncodeChar)[k]? = some b ∧ isContinuation b = false := by
  induction cs generalizing n with
  | nil => simp at h
  | cons c cs ih =>
    rw [List.flatMap_cons] at h ⊢
    by_cases hn : n < (String.utf8EncodeChar c).length
    · have hsize : (String.utf8EncodeChar c).length ≤ 4 := by
        rw [String.length_utf8EncodeChar]
        exact c.utf8Size_le_four
      obtain ⟨b, rest, hb, hfirst⟩ := isContinuation_head c
      refine ⟨0, Nat.zero_le n, by omega, b, ?_, hfirst⟩
      rw [hb]
      rfl
    · rw [List.length_append] at h
      obtain ⟨k, hk, hclose, b, hb, hfirst⟩ :=
        ih (n := n - (String.utf8EncodeChar c).length) (by omega)
      refine ⟨(String.utf8EncodeChar c).length + k, by omega, by omega, b, ?_, hfirst⟩
      rw [List.getElem?_append_right (Nat.le_add_right _ _), Nat.add_sub_cancel_left]
      exact hb

/-! ### The order of texts -/

/-- Bytes are compared by their values. -/
lemma ofNat_cons_lt_iff {m n : Nat} {x y : Bytes} (hm : m < 256) (hn : n < 256) :
    UInt8.ofNat m :: x < UInt8.ofNat n :: y ↔ m < n ∨ m = n ∧ x < y := by
  rw [List.cons_lt_cons_iff, UInt8.lt_iff_toNat_lt, ← UInt8.toNat_inj, UInt8.toNat_ofNat',
    UInt8.toNat_ofNat', Nat.mod_eq_of_lt hm, Nat.mod_eq_of_lt hn]

/-- Numbers are compared six bits at a time. -/
lemma div_lt_or_mod_lt {m n : Nat} (h : m < n) :
    m / 64 < n / 64 ∨ m / 64 = n / 64 ∧ m % 64 < n % 64 := by
  omega

/-- A smaller number has a smaller digit in front of the digits that differ no more. -/
lemma sixBits_lt {m n : Nat} (h : m < n) :
    m / 262144 < n / 262144 ∨ m / 262144 = n / 262144 ∧
      (m / 4096 % 64 < n / 4096 % 64 ∨ m / 4096 % 64 = n / 4096 % 64 ∧
        (m / 64 % 64 < n / 64 % 64 ∨ m / 64 % 64 = n / 64 % 64 ∧ m % 64 < n % 64)) := by
  have hparts : ∀ k : Nat, k / 64 / 64 = k / 4096 ∧ k / 4096 / 64 = k / 262144 :=
    fun k => ⟨Nat.div_div_eq_div_mul .., Nat.div_div_eq_div_mul ..⟩
  rcases div_lt_or_mod_lt h with h | ⟨h, hlast⟩
  · rcases div_lt_or_mod_lt h with h | ⟨h, hlast⟩
    · rw [(hparts m).1, (hparts n).1] at h
      rcases div_lt_or_mod_lt h with h | ⟨h, hlast⟩
      · rw [(hparts m).2, (hparts n).2] at h
        exact .inl h
      · rw [(hparts m).2, (hparts n).2] at h
        exact .inr ⟨h, .inl hlast⟩
    · rw [(hparts m).1, (hparts n).1] at h
      rw [← (hparts m).2, ← (hparts n).2, h]
      exact .inr ⟨rfl, .inr ⟨rfl, .inl hlast⟩⟩
  · rw [← (hparts m).2, ← (hparts n).2, ← (hparts m).1, ← (hparts n).1, h]
    exact .inr ⟨rfl, .inr ⟨rfl, .inr ⟨rfl, hlast⟩⟩⟩

/-- The bytes of a smaller character come before those of a greater one, whatever stands behind. -/
lemma utf8EncodeChar_append_lt {c d : Char} (h : c < d) (x y : Bytes) :
    String.utf8EncodeChar c ++ x < String.utf8EncodeChar d ++ y := by
  have hlt : c.val.toNat < d.val.toNat := h
  have hd : d.val.toNat < 0x110000 := by
    rcases d.valid with hd | hd
    · exact Nat.lt_trans hd (by decide)
    · exact hd.2
  have hbits := sixBits_lt hlt
  have hhead : ∀ k : Nat, k < 0x110000 → k / 262144 % 8 = k / 262144 :=
    fun k hk => Nat.mod_eq_of_lt (by omega)
  have hc' := hhead _ (Nat.lt_trans hlt hd)
  have hd' := hhead _ hd
  unfold String.utf8EncodeChar
  generalize c.val.toNat = m at hlt hbits hc' ⊢
  generalize d.val.toNat = n at hlt hd hbits hd' ⊢
  simp only
  split_ifs <;>
    simp (disch := omega) only [List.cons_append, List.nil_append, ofNat_cons_lt_iff] <;>
    omega
/-- Texts are in the order of their bytes: what is smaller character by character is smaller byte by
byte. -/
lemma bytes_lt_bytes {s t : String} (h : s < t) : bytes s < bytes t := by
  have h : s.toList < t.toList := String.lt_iff.mp h
  rw [bytes_eq_flatMap, bytes_eq_flatMap]
  generalize s.toList = cs at h
  generalize t.toList = ds at h
  induction h with
  | @nil d ds =>
    obtain ⟨b, rest, hb⟩ := List.exists_cons_of_ne_nil (String.utf8EncodeChar_ne_nil (c := d))
    rw [List.flatMap_cons, hb]
    exact List.nil_lt_cons ..
  | rel hlt => exact utf8EncodeChar_append_lt hlt _ _
  | cons _ ih =>
    rw [List.flatMap_cons, List.flatMap_cons]
    exact List.append_left_lt ih

end CrudScaffold.Text
