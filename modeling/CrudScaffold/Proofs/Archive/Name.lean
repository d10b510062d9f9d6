import CrudScaffold.Archive.Tar.Name
import CrudScaffold.Proofs.List
import CrudScaffold.Proofs.Text.Utf8

/-!
# Names that are kept

A path has a name in an archive if its components are what they seem: none is empty, none is a dot
and none leads upward. Such a path is its own name where it fits into the field. Of a longer one the
field gets the beginning up to the last border between characters, and that has a name too: all its
components but the last are components of the path, and the last one may be anything.
-/

namespace CrudScaffold

/-- A path whose components are names: it is relative and without zeros, and no component is empty,
is a dot or begins with two dots. -/
structure IsPortable (path : String) : Prop where
  noZero : '\x00' ∉ path.toList
  components : ∀ c ∈ path.toList.splitOn '/', c ≠ [] ∧ c ≠ ['.'] ∧ ¬ ['.', '.'] <+: c

/-- Whether a path is portable can be decided from its characters. -/
instance : DecidablePred IsPortable := fun path =>
  decidable_of_iff ('\x00' ∉ path.toList ∧
    ∀ c ∈ path.toList.splitOn '/', c ≠ [] ∧ c ≠ ['.'] ∧ ¬ ['.', '.'] <+: c)
    ⟨fun h => ⟨h.1, h.2⟩, fun h => ⟨h.noZero, h.components⟩⟩

namespace Tar

/-! ### Paths in bytes -/

/-- The bytes of a path whose components are names. -/
structure IsNamePath (path : Bytes) : Prop where
  noZero : 0 ∉ path
  parts : ∀ c ∈ path.splitOn slash, c ≠ [] ∧ c ≠ here ∧ c ≠ above

/-- Only a slash holds the byte of a slash. -/
lemma slash_mem_utf8EncodeChar {c : Char} (h : slash ∈ String.utf8EncodeChar c) : c = '/' :=
  Char.toNat_inj.mp (Text.toNat_of_mem_utf8EncodeChar h (by decide))

/-- The components of a path are the same in characters and in bytes. -/
lemma splitOn_flatMap_utf8EncodeChar (cs : List Char) :
    (cs.flatMap String.utf8EncodeChar).splitOn slash =
      (cs.splitOn '/').map (List.flatMap String.utf8EncodeChar) := by
  induction cs with
  | nil => rfl
  | cons c cs ih =>
    obtain ⟨d, ds, hd⟩ := List.exists_cons_of_ne_nil (List.splitOn_ne_nil '/' cs)
    rw [List.flatMap_cons, List.splitOn_cons_eq_if_modifyHead]
    by_cases hc : c = '/'
    · subst hc
      change List.splitOn slash (slash :: cs.flatMap String.utf8EncodeChar) = _
      rw [List.splitOn_cons_eq_if_modifyHead, ih]
      rfl
    · have hbeq : (c == '/') = false := beq_false_of_ne hc
      rw [splitOn_append_of_notMem fun h => hc (slash_mem_utf8EncodeChar h), ih, hbeq, hd]
      rfl

end Tar

/-- The bytes of a portable path make up a path of names. -/
lemma IsPortable.isNamePath {path : String} (h : IsPortable path) :
    Tar.IsNamePath (Text.bytes path) := by
  have hinj : ∀ {c : List Char} {s : String}, c.flatMap String.utf8EncodeChar = Text.bytes s →
      c = s.toList := by
    intro c s hcs
    have hofList : Text.bytes (String.ofList c) = Text.bytes s := by
      rw [Text.bytes_eq_flatMap, String.toList_ofList, hcs]
    rw [← Text.bytes_injective hofList, String.toList_ofList]
  constructor
  · intro hzero
    rw [Text.bytes_eq_flatMap] at hzero
    obtain ⟨c, hc, hmem⟩ := List.mem_flatMap.mp hzero
    have hcode := Text.toNat_of_mem_utf8EncodeChar hmem (by decide)
    exact h.noZero ((Char.toNat_inj.mp hcode : c = '\x00') ▸ hc)
  · intro b hb
    rw [Text.bytes_eq_flatMap, Tar.splitOn_flatMap_utf8EncodeChar] at hb
    obtain ⟨c, hc, rfl⟩ := List.mem_map.mp hb
    obtain ⟨hne, hdot, hdots⟩ := h.components c hc
    refine ⟨fun hnil => hne (hinj (s := "") hnil), fun hhere => hdot (hinj (s := ".") ?_),
      fun habove => hdots ?_⟩
    · rw [hhere]
      decide
    · have hdd : c = "..".toList := hinj (by rw [habove]; decide)
      rw [hdd]
      decide

namespace Tar

/-- The parts of some bytes are split at slashes. -/
lemma splitSlashes_eq (current b : Bytes) :
    splitSlashes current b = (b.splitOn slash).modifyHead (current ++ ·) := by
  induction b generalizing current with
  | nil => simp [splitSlashes]
  | cons x b ih =>
    obtain ⟨c, cs, hc⟩ := List.exists_cons_of_ne_nil (List.splitOn_ne_nil slash b)
    rw [splitSlashes, ih, ih, List.splitOn_cons_eq_if_modifyHead, hc]
    by_cases hx : x = slash <;> simp [hx]

/-- The components of a path are the parts between its slashes that are not empty. -/
lemma components_eq (path : Bytes) :
    components path = (path.splitOn slash).filter (!·.isEmpty) := by
  obtain ⟨c, cs, hc⟩ := List.exists_cons_of_ne_nil (List.splitOn_ne_nil slash path)
  rw [components, splitSlashes_eq, hc]
  rfl

/-- What comes before a part is split on its own. -/
lemma components_append (a b : Bytes) :
    components (a ++ slash :: b) = components a ++ components b := by
  rw [components_eq, List.splitOn_append_cons_self, List.filter_append, ← components_eq,
    ← components_eq]

namespace IsNamePath

variable {path : Bytes} (h : IsNamePath path)

include h

/-- All components of a path of names are kept. -/
lemma components_eq_splitOn : components path = path.splitOn slash := by
  rw [components_eq, List.filter_eq_self]
  intro c hc
  simpa using (h.parts c hc).1

/-- No component of a path of names stands for the directory itself. -/
lemma filter_ne_here : (path.splitOn slash).filter (· ≠ here) = path.splitOn slash := by
  rw [List.filter_eq_self]
  intro c hc
  simpa using (h.parts c hc).2.1

/-- No component of a path of names leads upward. -/
lemma above_notMem : above ∉ path.splitOn slash :=
  fun hmem => (h.parts above hmem).2.2 rfl

/-- All components of a path of names are kept in its name. -/
lemma keptComponents_eq : keptComponents path = path.splitOn slash := by
  rw [keptComponents, h.components_eq_splitOn]
  simp only [h.filter_ne_here]
  exact if_neg (by simp)

/-- A path of names has no root. -/
lemma head?_ne_slash : path.head? ≠ some slash := by
  intro hhead
  obtain ⟨rest, rfl⟩ := List.head?_eq_some_iff.mp hhead
  have hnil : [] ∈ (slash :: rest).splitOn slash := by
    rw [List.splitOn_cons_eq_if_modifyHead, beq_self_eq_true, if_pos rfl]
    exact List.mem_cons_self
  exact (h.parts [] hnil).1 rfl

/-- A path of names does not end in a slash. -/
lemma getLast?_ne_slash : path.getLast? ≠ some slash := by
  intro hlast
  obtain ⟨front, rfl⟩ := List.getLast?_eq_some_iff.mp hlast
  have hnil : [] ∈ (front ++ [slash]).splitOn slash := by
    rw [List.splitOn_append_cons_self]
    exact List.mem_append_right _ List.mem_cons_self
  exact (h.parts [] hnil).1 rfl

/-- A path of names is its own name if it fits. -/
lemma entryName?_eq :
    entryName? false path = if path.length ≤ nameLimit then some path else none := by
  simp only [entryName?, h.keptComponents_eq, if_neg h.getLast?_ne_slash,
    List.intercalate_splitOn, List.append_nil, checkedComponents, h.head?_ne_slash,
    List.splitOn_ne_nil, h.above_notMem, h.noZero, false_or, Bool.false_eq_true, if_false]
  split_ifs <;> first | rfl | omega

end IsNamePath

/-! ### Beginnings -/

/-- The leading characters that are counted do not exceed the bytes they may take. -/
lemma wholeChars_le (path : Bytes) (n : Nat) : wholeChars path n ≤ n := by
  fun_induction wholeChars path n <;> omega

/-- No border before the limit is missed. -/
lemma le_wholeChars {path : Bytes} {n k : Nat} (hk : k ≤ n) {b : UInt8} (hb : path[k]? = some b)
    (hfirst : Text.isContinuation b = false) : k ≤ wholeChars path n := by
  fun_induction wholeChars path n with
  | case1 => exact hk
  | case2 n b' hb' hcont ih =>
    refine ih ?_
    by_contra hne
    obtain rfl : k = n + 1 := by omega
    rw [hb] at hb'
    cases hb'
    rw [hfirst] at hcont
    exact Bool.false_ne_true hcont
  | case3 => exact hk
  | case4 => exact hk

/-- The beginning of a text that does not fit is cut off close to the limit. -/
lemma length_beginning {s : String} (h : nameLimit < (Text.bytes s).length) :
    (beginning (Text.bytes s)).length ≤ nameLimit ∧
      nameLimit ≤ (beginning (Text.bytes s)).length + 3 := by
  have hlength : (beginning (Text.bytes s)).length = wholeChars (Text.bytes s) nameLimit := by
    have hle := wholeChars_le (Text.bytes s) nameLimit
    rw [beginning, List.length_take]
    omega
  have hborder := Text.exists_border s.toList (n := nameLimit)
    (by rwa [← Text.bytes_eq_flatMap])
  rw [← Text.bytes_eq_flatMap] at hborder
  obtain ⟨k, hk, hclose, b, hb, hfirst⟩ := hborder
  have hwhole := le_wholeChars hk hb hfirst
  exact ⟨hlength ▸ wholeChars_le _ _, by omega⟩

/-- A beginning has a name if something of it is kept, nothing but the last of it may lead upward,
and what is put together again is a part of it. -/
lemma exists_entryName? {b : Bytes} (hhead : b.head? ≠ some slash) (hzero : 0 ∉ b)
    (hfits : b.length ≤ nameLimit) (hkept : keptComponents b ≠ [])
    (habove : above ∉ (keptComponents b).dropLast)
    (hname : List.intercalate [slash] (keptComponents b) ++
      (if b.getLast? = some slash then [slash] else []) <+: b) :
    ∃ name, entryName? true b = some name ∧ name.length ≤ nameLimit := by
  have hlength := Nat.le_trans hname.length_le hfits
  refine ⟨_, if_neg ?_, hlength⟩
  rintro (h | h | h | h | h)
  · exact hhead h
  · exact hkept h
  · exact habove h
  · exact hzero (hname.subset h)
  · exact absurd h (Nat.not_lt.mpr hlength)

/-- A part without a slash is a component, unless it is empty. -/
lemma components_of_notMem {b : Bytes} (h : slash ∉ b) :
    components b = [b].filter (!·.isEmpty) := by
  rw [components_eq, List.splitOn_eq_singleton h]

namespace IsNamePath

/-- In front of a slash all components of a path of names are kept. -/
lemma keptComponents_append {front : Bytes} (h : IsNamePath front) (last : Bytes) :
    keptComponents (front ++ slash :: last) =
      front.splitOn slash ++ (components last).filter (· ≠ here) := by
  rw [keptComponents, components_append, h.components_eq_splitOn]
  simp only [List.filter_append, h.filter_ne_here]
  exact if_neg (by simp [List.splitOn_ne_nil])

/-- A path of names has a name whatever is added to it behind a slash, if it fits. -/
lemma exists_entryName?_append {front last : Bytes} (h : IsNamePath front) (hlast : slash ∉ last)
    (hzero : 0 ∉ front ++ slash :: last) (hfits : (front ++ slash :: last).length ≤ nameLimit) :
    ∃ name, entryName? true (front ++ slash :: last) = some name ∧ name.length ≤ nameLimit := by
  have hne : front ≠ [] := fun hnil => (h.parts [] (by simp [hnil])).1 rfl
  have hhead : (front ++ slash :: last).head? ≠ some slash := by
    rw [List.head?_append_of_ne_nil _ hne]
    exact h.head?_ne_slash
  have hkept := h.keptComponents_append last
  rw [components_of_notMem hlast] at hkept
  by_cases hdropped : last = [] ∨ last = here
  · -- nothing is kept behind the slash
    have hfilter : ([last].filter (!·.isEmpty)).filter (· ≠ here) = [] := by
      rcases hdropped with rfl | rfl <;> decide
    rw [hfilter, List.append_nil] at hkept
    refine exists_entryName? hhead hzero hfits ?_ ?_ ?_
    · rw [hkept]
      exact List.splitOn_ne_nil slash front
    · rw [hkept]
      exact fun hmem => h.above_notMem (List.dropLast_subset _ hmem)
    · rw [hkept, List.intercalate_splitOn, List.prefix_append_right_inj]
      split_ifs
      · exact ⟨last, rfl⟩
      · exact List.nil_prefix
  · -- what is behind the slash is kept as the last component
    obtain ⟨hnil, hhere⟩ := not_or.mp hdropped
    have hfilter : ([last].filter (!·.isEmpty)).filter (· ≠ here) = [last] := by
      simp [hnil, hhere]
    have hjoined : List.intercalate [slash] (front.splitOn slash ++ [last]) =
        front ++ slash :: last := by
      rw [← List.splitOn_eq_singleton hlast, ← List.splitOn_append_cons_self,
        List.intercalate_splitOn]
    have hend : (front ++ slash :: last).getLast? ≠ some slash := by
      rw [List.append_cons, List.getLast?_append_of_ne_nil _ hnil]
      exact fun hmem => hlast (List.mem_of_getLast? hmem)
    rw [hfilter] at hkept
    refine exists_entryName? hhead hzero hfits (by simp [hkept]) ?_ ?_
    · rw [hkept, List.dropLast_concat]
      exact h.above_notMem
    · simp only [hkept, hjoined, if_neg hend, List.append_nil, List.prefix_rfl]

/-- The beginning of a path of names has a name. -/
lemma exists_entryName?_prefix {b rest : Bytes} (h : IsNamePath (b ++ rest))
    (hlong : 1 < b.length) (hfits : b.length ≤ nameLimit) :
    ∃ name, entryName? true b = some name ∧ name.length ≤ nameLimit := by
  have hzero : 0 ∉ b := fun h0 => h.noZero (List.mem_append_left rest h0)
  by_cases hs : slash ∈ b
  · -- what is in front of the last slash is made of components of the path
    obtain ⟨last', front', hb, hlast⟩ := List.eq_append_cons_of_mem (List.mem_reverse.mpr hs)
    have hcut : b = front'.reverse ++ slash :: last'.reverse := by
      rw [← List.reverse_reverse b, hb]
      simp
    have hsplit : (b ++ rest).splitOn slash =
        front'.reverse.splitOn slash ++ (last'.reverse ++ rest).splitOn slash := by
      rw [hcut, List.append_assoc, List.cons_append, List.splitOn_append_cons_self]
    have hfront : IsNamePath front'.reverse :=
      ⟨fun h0 => hzero (hcut ▸ List.mem_append_left _ h0),
        fun c hc => h.parts c (hsplit ▸ List.mem_append_left _ hc)⟩
    rw [hcut] at hzero hfits ⊢
    exact hfront.exists_entryName?_append (by simpa using hlast) hzero hfits
  · have hne : b ≠ [] := List.ne_nil_of_length_pos (by omega)
    have hhere : b ≠ here := by
      rintro rfl
      exact absurd hlong (by decide)
    have hkept : keptComponents b = [b] := by
      rw [keptComponents, components_of_notMem hs]
      simp [hne, hhere]
    have hhead : b.head? ≠ some slash := fun hmem => hs (List.mem_of_head? hmem)
    have hend : b.getLast? ≠ some slash := fun hmem => hs (List.mem_of_getLast? hmem)
    refine exists_entryName? hhead hzero hfits (by simp [hkept]) (by simp [hkept]) ?_
    simp only [hkept, if_neg hend, List.append_nil, List.intercalate_singleton, List.prefix_rfl]

end IsNamePath

end Tar

end CrudScaffold
