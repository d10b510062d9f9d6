import CrudScaffold.Archive.Tar.Header
import CrudScaffold.Proofs.Archive.Words
import CrudScaffold.Proofs.Text.Blank
import CrudScaffold.Proofs.Text.Utf8

/-!
# Reading headers back

A field is read as it was written: octal digits spell the number that they were made from, and a
size that they do not suffice for is read from the bytes behind the mark. A header is a row of
fields of fixed lengths, so each of them is found at its place, and the sum in the checksum field is
that of the fields around it, which never needs more than seven digits.
-/

namespace CrudScaffold.Tar

/-! ### Octal fields -/

/-- The values of `count` octal digits of a number. -/
def octalValues : Nat → Nat → List Nat
  | 0, _ => []
  | count + 1, n => octalValues count (n / 8) ++ [n % 8]

/-- The octal digits of a number are the digits of its values. -/
lemma octalDigits_eq (count n : Nat) :
    octalDigits count n = (octalValues count n).map fun d => (0x30 + d).toUInt8 := by
  induction count generalizing n with
  | zero => rfl
  | succ count ih => rw [octalDigits, octalValues, ih, List.map_append, List.map_singleton]

/-- There are as many values as digits. -/
lemma length_octalValues (count n : Nat) : (octalValues count n).length = count := by
  induction count generalizing n with
  | zero => rfl
  | succ count ih => rw [octalValues, List.length_append, ih, List.length_singleton]

/-- The values are octal. -/
lemma lt_of_mem_octalValues {count n d : Nat} (h : d ∈ octalValues count n) : d < 8 := by
  induction count generalizing n with
  | zero => exact absurd h List.not_mem_nil
  | succ count ih =>
    rcases List.mem_append.mp h with h | h
    · exact ih h
    · rw [List.mem_singleton.mp h]
      exact Nat.mod_lt n (by decide)

/-- The values of enough digits make up the number. -/
lemma foldl_octalValues {count n : Nat} (h : n < 8 ^ count) :
    (octalValues count n).foldl (fun n d => 8 * n + d) 0 = n := by
  induction count generalizing n with
  | zero => exact (Nat.lt_one_iff.mp h).symm
  | succ count ih =>
    have hhigh : n / 8 < 8 ^ count :=
      Nat.div_lt_of_lt_mul (by rwa [Nat.pow_succ, Nat.mul_comm] at h)
    rw [octalValues, List.foldl_append, ih hhigh]
    exact Nat.div_add_mod n 8

/-- The digit of a value: a byte below 0x80 that is a character, no blank and no sign, and stands
for the value. -/
lemma octalDigit_spec {d : Nat} (h : d < 8) :
    let x := (0x30 + d).toUInt8
    x ≠ 0 ∧ x.toNat < 128 ∧ Text.isBlank (Char.ofNat x.toNat) = false ∧
      Char.ofNat x.toNat ≠ '+' ∧ octalDigit? (Char.ofNat x.toNat) = some d := by
  have hall : ∀ d : Fin 8, let x := (0x30 + d.val).toUInt8
      x ≠ 0 ∧ x.toNat < 128 ∧ Text.isBlank (Char.ofNat x.toNat) = false ∧
        Char.ofNat x.toNat ≠ '+' ∧ octalDigit? (Char.ofNat x.toNat) = some d.val := by
    decide
  exact hall ⟨d, h⟩

/-- The digits of a number are bytes of plain characters. -/
lemma of_mem_octalDigits {count n : Nat} {x : UInt8} (h : x ∈ octalDigits count n) :
    x ≠ 0 ∧ x.toNat < 128 := by
  rw [octalDigits_eq] at h
  obtain ⟨d, hd, rfl⟩ := List.mem_map.mp h
  have hspec := octalDigit_spec (lt_of_mem_octalValues hd)
  exact ⟨hspec.1, hspec.2.1⟩

/-- An octal field takes the width that it is given. -/
lemma length_octalField {width : Nat} (h : 0 < width) (n : Nat) :
    (octalField width n).length = width := by
  rw [octalField, List.length_append, octalDigits_eq, List.length_map, length_octalValues]
  exact Nat.sub_add_cancel h

/-- The text of a field of digits is the digits. -/
lemma text_octalField (width n : Nat) : text (octalField width n) = octalDigits (width - 1) n := by
  rw [text, octalField, List.takeWhile_append_of_pos]
  · simp
  · intro x hx
    simpa using (of_mem_octalDigits hx).1

/-- The characters of octal digits give back their values. -/
lemma mapM_octalDigit? {ds : List Nat} (h : ∀ d ∈ ds, d < 8) :
    (ds.map fun d => Char.ofNat (0x30 + d).toUInt8.toNat).mapM octalDigit? = some ds := by
  induction ds with
  | nil => rfl
  | cons d ds ih =>
    have hd := (octalDigit_spec (h d (by simp))).2.2.2.2
    have hds := ih fun d' hd' => h d' (List.mem_cons_of_mem d hd')
    rw [List.map_cons, List.mapM_cons, hd, hds]
    rfl

/-- The number that the digits of a number spell is the number. -/
lemma ofOctalDigits?_octalValues {count n : Nat} (hcount : 0 < count) (h : n < 8 ^ count)
    (hword : n < Bytes.wordLimit) :
    ofOctalDigits? ((octalValues count n).map fun d => Char.ofNat (0x30 + d).toUInt8.toNat) =
      some n := by
  have hne : octalValues count n ≠ [] := by
    rw [← List.length_pos_iff, length_octalValues]
    exact hcount
  rw [ofOctalDigits?, if_neg (by simpa using hne),
    mapM_octalDigit? fun d hd => lt_of_mem_octalValues hd]
  simp only [Option.bind_eq_bind, Option.bind_some, foldl_octalValues h]
  exact if_pos hword

/-- A number that fits into the digits of a field is read from it. -/
lemma ofOctal?_octalField {width n : Nat} (hwidth : 1 < width) (h : n < 8 ^ (width - 1))
    (hword : n < Bytes.wordLimit) : ofOctal? (octalField width n) = some n := by
  have hspec : ∀ d ∈ octalValues (width - 1) n, _ :=
    fun d hd => octalDigit_spec (lt_of_mem_octalValues hd)
  have hbytes : ∀ x ∈ octalDigits (width - 1) n, x.toNat < 128 :=
    fun x hx => (of_mem_octalDigits hx).2
  have hchars : (octalDigits (width - 1) n).map (fun x => Char.ofNat x.toNat) =
      (octalValues (width - 1) n).map fun d => Char.ofNat (0x30 + d).toUInt8.toNat := by
    rw [octalDigits_eq, List.map_map]
    rfl
  have htrim : Text.trimChars ((octalValues (width - 1) n).map
      fun d => Char.ofNat (0x30 + d).toUInt8.toNat) =
        (octalValues (width - 1) n).map fun d => Char.ofNat (0x30 + d).toUInt8.toNat := by
    refine Text.trimChars_eq_self fun c hc => ?_
    obtain ⟨d, hd, rfl⟩ := List.mem_map.mp hc
    exact (hspec d hd).2.2.1
  rw [ofOctal?, text_octalField, Text.ofBytes?_of_lt hbytes, hchars]
  simp only [Option.bind_eq_bind, Option.bind_some, String.toList_ofList, htrim]
  split
  · -- no digit is a sign
    rename_i digits hsign
    have hmem : '+' ∈ (octalValues (width - 1) n).map
        fun d => Char.ofNat (0x30 + d).toUInt8.toNat := by
      rw [hsign]
      exact List.mem_cons_self
    obtain ⟨d, hd, hplus⟩ := List.mem_map.mp hmem
    exact absurd hplus (hspec d hd).2.2.2.1
  · exact ofOctalDigits?_octalValues (by omega) h hword

/-- A field of octal digits is read as such, not as one of bytes behind a mark. -/
lemma number?_octalField {width n : Nat} (hwidth : 1 < width) (h : n < 8 ^ (width - 1))
    (hword : n < Bytes.wordLimit) : number? (octalField width n) = some n := by
  have hspec : ∀ x ∈ octalField width n, x.toNat < 128 := by
    intro x hx
    rcases List.mem_append.mp hx with hx | hx
    · exact (of_mem_octalDigits hx).2
    · rw [List.mem_singleton.mp hx]
      decide
  have hoctal := ofOctal?_octalField hwidth h hword
  cases hfield : octalField width n with
  | nil =>
    have hlength := length_octalField (by omega : 0 < width) n
    rw [hfield, List.length_nil] at hlength
    omega
  | cons first rest =>
    rw [hfield] at hspec hoctal
    have hfirst : ¬ 0x80 ≤ first := by
      have hlow := hspec first List.mem_cons_self
      rw [UInt8.le_iff_toNat_le]
      exact Nat.not_le.mpr hlow
    rw [number?, if_neg hfirst]
    exact hoctal

/-- The field of a size has twelve bytes. -/
lemma length_sizeField (n : Nat) : (sizeField n).length = 12 := by
  rw [sizeField]
  split
  · exact length_octalField (by decide) n
  · simp

/-- A size is read from its field, whichever way it is written. -/
lemma number?_sizeField {n : Nat} (h : n < Bytes.wordLimit) : number? (sizeField n) = some n := by
  rw [sizeField]
  split
  · rename_i hoctal
    exact number?_octalField (by decide) hoctal h
  · rw [number?, if_pos (by decide)]
    simp only [List.length_cons, Bytes.length_highFirst]
    exact congrArg some (Bytes.ofHighFirst_highFirst h)

/-! ### Headers -/

/-- A sum of bytes is at most 255 for each. -/
lemma byteSum_le (b : Bytes) : byteSum b ≤ 255 * b.length := by
  have hfold : ∀ (b : Bytes) (n : Nat),
      b.foldl (fun n x => n + x.toNat) n ≤ n + 255 * b.length := by
    intro b
    induction b with
    | nil => exact fun n => Nat.le_refl n
    | cons x b ih =>
      intro n
      have hx := x.toNat_lt
      have hb := ih (n + x.toNat)
      rw [List.foldl_cons, List.length_cons]
      omega
  simpa [byteSum] using hfold b 0

section Header

variable {name : Bytes} (hname : name.length ≤ 100) (size : Nat) (kind : UInt8)

include hname in
/-- The fields in front of the checksum have a fixed length. -/
lemma length_fieldsBefore : (fieldsBefore name size).length = 148 := by
  simp only [fieldsBefore, List.length_append, Bytes.length_padTo hname, length_sizeField]
  simp [length_octalField]

/-- The fields behind the checksum have a fixed length. -/
lemma length_fieldsAfter : (fieldsAfter kind).length = 356 := by
  have hmagic : (Text.bytes "ustar  ").length = 7 := by decide
  simp only [fieldsAfter, List.length_append, List.length_cons, List.length_replicate, hmagic]

/-- The checksum field of a header. -/
def checksumField (name : Bytes) (size : Nat) (kind : UInt8) : Bytes :=
  octalField 8 (byteSum (fieldsBefore name size) + blankSum + byteSum (fieldsAfter kind))

/-- The checksum stands between the other fields. -/
lemma header_eq (name : Bytes) (size : Nat) (kind : UInt8) :
    header name size kind =
      fieldsBefore name size ++ (checksumField name size kind ++ fieldsAfter kind) :=
  List.append_assoc ..

@[simp] lemma length_checksumField : (checksumField name size kind).length = 8 :=
  length_octalField (by decide) _

include hname in
/-- A header is a block. -/
lemma length_header : (header name size kind).length = blockSize := by
  rw [header_eq, List.length_append, List.length_append, length_fieldsBefore hname,
    length_checksumField, length_fieldsAfter]
  rfl

include hname in
/-- The checksum of a header agrees with its bytes. -/
lemma agrees_header : agrees (header name size kind) = true := by
  have hbefore := length_fieldsBefore hname size
  have hchecksum : (checksumField name size kind).length = 8 := length_checksumField size kind
  have hsum : byteSum (fieldsBefore name size) + blankSum + byteSum (fieldsAfter kind) <
      8 ^ 7 := by
    have h := byteSum_le (fieldsBefore name size)
    have h' := byteSum_le (fieldsAfter kind)
    rw [hbefore] at h
    rw [length_fieldsAfter] at h'
    rw [blankSum]
    omega
  have htake : (header name size kind).take 148 = fieldsBefore name size := by
    rw [header_eq, List.take_left' hbefore]
  have hdrop : (header name size kind).drop 156 = fieldsAfter kind := by
    rw [header_eq, ← List.append_assoc]
    exact List.drop_left' (by rw [List.length_append, hbefore, hchecksum])
  have hfield : ofOctal? (Bytes.slice (header name size kind) 148 8) =
      some (byteSum (fieldsBefore name size) + blankSum + byteSum (fieldsAfter kind)) := by
    rw [header_eq, Bytes.slice_append hbefore hchecksum]
    exact ofOctal?_octalField (by decide) hsum (Nat.lt_trans hsum (by decide))
  simp only [agrees, hfield, htake, hdrop]
  rw [Nat.mod_eq_of_lt (Nat.lt_trans hsum (by decide)), BEq.rfl]

include hname in
/-- The size of an entry is read from its header. -/
lemma size?_header (hsize : size < Bytes.wordLimit) :
    size? (header name size kind) = some size := by
  have hfield : Bytes.slice (header name size kind) 124 12 = sizeField size := by
    rw [header_eq, fieldsBefore, List.append_assoc, List.append_assoc]
    refine Bytes.slice_append ?_ (length_sizeField size) _
    simp only [List.length_append, Bytes.length_padTo hname]
    simp [length_octalField]
  rw [size?, hfield, number?_sizeField hsize]

include hname in
/-- The kind of an entry is read from its header. -/
lemma kind_header : Tar.kind (header name size kind) = kind := by
  have hlength : (fieldsBefore name size ++ checksumField name size kind).length = 156 := by
    rw [List.length_append, length_fieldsBefore hname, length_checksumField]
  rw [Tar.kind, header_eq, ← List.append_assoc, List.getElem?_append_right (by omega), hlength]
  rfl

include hname in
/-- Headers follow the standard whose longer names stand in entries of their own. -/
lemma standard_header : standard (header name size kind) = .gnu := by
  have hmagic : Text.bytes "ustar  \x00" = Text.bytes "ustar  " ++ List.replicate 1 0 := by
    decide
  have hafter : header name size kind =
      (fieldsBefore name size ++ checksumField name size kind ++ (kind :: List.replicate 100 0)) ++
        (Text.bytes "ustar  \x00" ++ List.replicate 247 0) := by
    rw [header_eq, hmagic, fieldsAfter, List.append_assoc (Text.bytes _), ← List.replicate_add]
    simp only [List.append_assoc, List.cons_append]
  have hslice : Bytes.slice (header name size kind) 257 8 = Text.bytes "ustar  \x00" := by
    rw [hafter]
    refine Bytes.slice_append ?_ (by decide) _
    rw [List.length_append, List.length_append, length_fieldsBefore hname, length_checksumField]
    simp
  rw [standard, hslice, if_pos rfl]

include hname in
/-- A name without zeros is read from its header. -/
lemma name_header (hzero : 0 ∉ name) : Tar.name (header name size kind) = name := by
  have hfield : Bytes.slice (header name size kind) 0 100 = Bytes.padTo 100 name := by
    rw [header_eq, fieldsBefore]
    simp only [List.append_assoc]
    rw [Bytes.slice, List.drop_zero, List.take_left' (Bytes.length_padTo hname)]
  have htext : text (Bytes.padTo 100 name) = name := by
    rw [text, Bytes.padTo, List.takeWhile_append_of_pos]
    · simp
    · intro x hx
      simpa using fun h0 : x = 0 => hzero (h0 ▸ hx)
  rw [Tar.name, standard_header hname, hfield, htext]
  exact if_neg (by simp)

/-- A header is not a block of zeros. -/
lemma header_ne_zeros : (header name size kind).all (· == 0) = false := by
  have hmem : 0x75 ∈ header name size kind := by
    have hmagic : (0x75 : UInt8) ∈ Text.bytes "ustar  " := by decide
    rw [header_eq, fieldsAfter]
    exact List.mem_append_right _ (List.mem_append_right _ (List.mem_cons_of_mem _
      (List.mem_append_left _ (List.mem_append_right _ hmagic))))
  exact List.all_eq_false.mpr ⟨0x75, hmem, by decide⟩

end Header

end CrudScaffold.Tar
