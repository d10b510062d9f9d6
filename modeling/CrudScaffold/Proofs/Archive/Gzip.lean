import CrudScaffold.Archive.Gzip
import CrudScaffold.Proofs.Archive.Words

/-!
# Reading compressed streams back

What is stored is read block by block. A stored block begins with a byte for its mark and its kind,
which is aligned as it is, so the two lengths and the bytes that follow are read at byte borders.
Each block takes one step of the reader and holds less than it takes, so the steps that the reader
is given suffice.
-/

namespace CrudScaffold

namespace Inflate

/-- The head of a stored block: its mark, and the kind of block that holds its bytes as they are. -/
lemma blockHead_block (last : Bool) (b rest : Bytes) :
    ∃ after, blockHead { bytes := Deflate.block last b ++ rest } = .ok (last, 0, after) ∧
      after.align = Bytes.lowFirst 2 b.length ++
        (Bytes.lowFirst 2 (Deflate.blockLimit - b.length) ++ (b ++ rest)) := by
  refine ⟨⟨Deflate.block last b ++ rest, 3⟩, ?_, ?_⟩
  · cases last with
    | false =>
      simp [blockHead, Bits.next, Bits.number, Deflate.block, Bind.bind, Except.bind, pure,
        Except.pure]
    | true =>
      simp [blockHead, Bits.next, Bits.number, Deflate.block, Bind.bind, Except.bind, pure,
        Except.pure]
      decide
  · cases last <;> simp [Bits.align, Deflate.block]

/-- The bytes of a stored block are read behind their two lengths. -/
lemma stored_lowFirst {b : Bytes} (h : b.length ≤ Deflate.blockLimit) (rest : Bytes)
    (out : Array UInt8) :
    stored (Bytes.lowFirst 2 b.length ++
        (Bytes.lowFirst 2 (Deflate.blockLimit - b.length) ++ (b ++ rest))) out =
      (out ++ b, .ok { bytes := rest }) := by
  have hlimit : b.length ≤ 65535 := h
  have hlength : Bytes.ofLowFirst (Bytes.lowFirst 2 b.length) = b.length :=
    Bytes.ofLowFirst_lowFirst (by omega)
  have hcomplement : Bytes.ofLowFirst (Bytes.lowFirst 2 (Deflate.blockLimit - b.length)) =
      65535 - b.length :=
    Bytes.ofLowFirst_lowFirst (by rw [Deflate.blockLimit]; omega)
  have hdrop : (Bytes.lowFirst 2 b.length ++
      (Bytes.lowFirst 2 (Deflate.blockLimit - b.length) ++ (b ++ rest))).drop 4 = b ++ rest := by
    rw [← List.append_assoc]
    exact List.drop_left' (by simp)
  rw [stored, if_neg (by simp; omega), List.take_left' (Bytes.length_lowFirst 2 _),
    Bytes.slice_append (Bytes.length_lowFirst 2 _) (Bytes.length_lowFirst 2 _), hdrop]
  simp only [hlength, hcomplement]
  rw [if_neg (by omega), if_neg (by simp), List.take_left, List.drop_left]

/-- Stored bytes are read back, and what stands behind them is left. -/
lemma blocks_store (size : Nat) (b rest : Bytes) {fuel : Nat} (h : b.length < fuel)
    (out : Array UInt8) :
    blocks size fuel { bytes := Deflate.store b ++ rest } out = (out ++ b, .ok rest) := by
  fun_induction Deflate.store b generalizing fuel out with
  | case1 b hb =>
    obtain ⟨fuel, rfl⟩ := Nat.exists_eq_add_one_of_ne_zero (Nat.ne_zero_of_lt h)
    obtain ⟨after, hhead, halign⟩ := blockHead_block true b rest
    simp only [blocks, hhead, block, halign, stored_lowFirst hb]
    rfl
  | case2 b hb ih =>
    obtain ⟨fuel, rfl⟩ := Nat.exists_eq_add_one_of_ne_zero (Nat.ne_zero_of_lt h)
    have hfirst : (b.take Deflate.blockLimit).length ≤ Deflate.blockLimit := by
      rw [List.length_take]
      exact Nat.min_le_left _ _
    have hrest : (b.drop Deflate.blockLimit).length < fuel := by
      have hlimit : ¬ b.length ≤ 65535 := hb
      rw [List.length_drop, Deflate.blockLimit]
      omega
    obtain ⟨after, hhead, halign⟩ := blockHead_block false (b.take Deflate.blockLimit)
      (Deflate.store (b.drop Deflate.blockLimit) ++ rest)
    rw [List.append_assoc]
    simp only [blocks, hhead, block, halign, stored_lowFirst hfirst]
    rw [if_neg Bool.false_ne_true, ih hrest]
    refine Prod.ext (Array.ext' ?_) rfl
    simp

/-- Storing does not make less of some bytes. -/
lemma length_le_length_store (b : Bytes) : b.length ≤ (Deflate.store b).length := by
  fun_induction Deflate.store b with
  | case1 b hb =>
    simp only [Deflate.block, List.length_append, List.length_cons]
    omega
  | case2 b hb ih =>
    have hlength := congrArg List.length (List.take_append_drop Deflate.blockLimit b)
    rw [List.length_append] at hlength
    simp only [Deflate.block, List.length_append, List.length_cons]
    omega

/-- Inflating undoes storing. -/
lemma inflate_store (b rest : Bytes) :
    inflate (Deflate.store b ++ rest) = (b, .ok rest) := by
  have hfuel : b.length < 8 * (Deflate.store b ++ rest).length + 1 := by
    have hstore := length_le_length_store b
    rw [List.length_append]
    omega
  simp only [inflate, blocks_store _ b rest hfuel]
  simp

end Inflate

namespace Gzip

/-- Every stream is read back as what it was made from, with a sound end. -/
def IsCompression (compress : Bytes → Bytes) : Prop := ∀ b, decompress (compress b) = ⟨b, true⟩

/-- Storing bytes as they are is a compression. -/
lemma isCompression_store : IsCompression store := by
  intro b
  have hhead : afterHead (store b) = some (Deflate.store b ++ tail b) := by
    rw [store, List.append_assoc]
    rfl
  have htail : (tail b).take 8 = tail b := List.take_of_length_le (by simp [tail])
  simp only [decompress, hhead, Inflate.inflate_store, htail, BEq.rfl]

end Gzip

end CrudScaffold
