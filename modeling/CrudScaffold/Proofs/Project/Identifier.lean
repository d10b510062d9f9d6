import CrudScaffold.Proofs.Entity.Key
import CrudScaffold.Proofs.Naming.NormalForm
import CrudScaffold.Proofs.Project.Injection

/-!
# Identifiers

The names of types and fields become identifiers of Java. All of them consist of ASCII letters and
digits, and none is empty, but that is not all that Java asks for: an identifier begins with a
letter and is not one of the words that Java keeps for itself. Nothing looks after these two. The
first letter or digit of a text stays in front, so a text that begins with a digit becomes a name
that does; and since reserved words are written in small letters throughout, a field has one for its
name exactly if the text is that one word, but for the case of its first letter.
-/

namespace CrudScaffold

namespace Naming

/-- The words that Java keeps for itself, as far as they consist of letters. -/
def reservedWords : List String :=
  ["abstract", "assert", "boolean", "break", "byte", "case", "catch", "char", "class", "const",
    "continue", "default", "do", "double", "else", "enum", "extends", "false", "final", "finally",
    "float", "for", "goto", "if", "implements", "import", "instanceof", "int", "interface", "long",
    "native", "new", "null", "package", "private", "protected", "public", "return", "short",
    "static", "strictfp", "super", "switch", "synchronized", "this", "throw", "throws", "transient",
    "true", "try", "void", "volatile", "while"]

/-- A name that Java accepts: ASCII letters and digits with a letter in front, and no reserved
word. -/
structure IsIdentifier (s : String) : Prop where
  wordText : IsWordText s
  letter : s.toList.head?.any Char.isAlpha
  free : s ∉ reservedWords

/-- Whether Java accepts a name can be decided. -/
instance : DecidablePred IsIdentifier := fun s =>
  decidable_of_iff (IsWordText s ∧ s.toList.head?.any Char.isAlpha ∧ s ∉ reservedWords)
    ⟨fun ⟨hword, hletter, hfree⟩ => ⟨hword, hletter, hfree⟩,
      fun ⟨hword, hletter, hfree⟩ => ⟨hword, hletter, hfree⟩⟩

/-- The first letter or digit of a text is a digit, once accents are folded. -/
def BeginsWithDigit (text : String) : Prop := (words text).head?.any (·.head?.any Char.isDigit)

/-- What a text begins with can be looked at. -/
instance : DecidablePred BeginsWithDigit := fun text =>
  inferInstanceAs (Decidable ((words text).head?.any _ = true))

/-- The only word of a text is reserved, if its first letter is written small. -/
def IsReserved (text : String) : Prop :=
  ∃ w, words text = [w] ∧ String.ofList (uncapitalize w) ∈ reservedWords

variable {s t text : String} {c : Char} {cs : List Char}

/-! ### First characters -/

/-- Of letters and digits, those that are no letters are the digits. -/
lemma isAlpha_iff_of_isWordChar (h : isWordChar c) : c.isAlpha ↔ ¬ c.isDigit := by
  have hnot : c.isDigit → ¬ c.isAlpha := by
    intro hdigit halpha
    simp only [Char.isDigit, Char.isAlpha, Char.isUpper, Char.isLower, Bool.or_eq_true,
      Bool.and_eq_true, decide_eq_true_eq, UInt32.le_iff_toNat_le] at hdigit halpha
    change 48 ≤ c.val.toNat ∧ c.val.toNat ≤ 57 at hdigit
    change 65 ≤ c.val.toNat ∧ c.val.toNat ≤ 90 ∨ 97 ≤ c.val.toNat ∧ c.val.toNat ≤ 122 at halpha
    omega
  unfold isWordChar Char.isAlphanum at h
  exact ⟨fun halpha hdigit => hnot hdigit halpha, (Bool.or_eq_true_iff.mp h).resolve_right⟩

/-- A text of letters and digits begins with a letter if it does not begin with a digit. -/
lemma any_isAlpha_iff (h : IsWordText s) (hne : s ≠ "") :
    s.toList.head?.any Char.isAlpha ↔ ¬ s.toList.head?.any Char.isDigit := by
  obtain ⟨c, cs, hcs⟩ := List.exists_cons_of_ne_nil (show s.toList ≠ [] by simpa using hne)
  rw [hcs, List.head?_cons, Option.any_some, Option.any_some]
  exact isAlpha_iff_of_isWordChar (h c (hcs ▸ List.mem_cons_self))

/-- A type name begins with a digit exactly if its text does. -/
lemma beginsWithDigit_iff_typeName :
    BeginsWithDigit t ↔ (typeName t).toList.head?.any Char.isDigit := by
  rw [BeginsWithDigit]
  cases hwords : words t with
  | nil =>
    rw [toList_typeName, hwords]
    rfl
  | cons w ws =>
    obtain ⟨c, r, hc, rfl, hlist⟩ := exists_typeName_eq_cons hwords
    have hiff : c.isDigit ↔ c.toUpper.isDigit := by
      rw [← not_iff_not, ← isAlpha_iff_of_isWordChar hc,
        ← isAlpha_iff_of_isWordChar (isWordChar_toUpper hc), Char.isAlpha_toUpper_eq_isAlpha]
    rw [hlist, List.head?_cons, Option.any_some, List.head?_cons, Option.any_some, List.head?_cons,
      Option.any_some]
    exact hiff

/-- A name with a small first letter begins with a letter exactly if the name does. -/
lemma any_isAlpha_lowerFirst_append (hne : s ≠ "") (t : String) :
    (lowerFirst s ++ t).toList.head?.any Char.isAlpha ↔ s.toList.head?.any Char.isAlpha := by
  obtain ⟨c, cs, hcs⟩ := List.exists_cons_of_ne_nil (show s.toList ≠ [] by simpa using hne)
  rw [lowerFirst, String.toList_append, String.toList_ofList, hcs, uncapitalize, List.cons_append,
    List.head?_cons, List.head?_cons, Option.any_some, Option.any_some,
    Char.isAlpha_toLower_eq_isAlpha]

/-! ### Reserved words -/

/-- Reserved words consist of small letters. -/
lemma isLower_of_mem_reservedWords (hs : s ∈ reservedWords) (hc : c ∈ s.toList) : c.isLower := by
  have hsmall : ∀ word ∈ reservedWords, word.toList.all Char.isLower := by decide +kernel
  exact List.all_eq_true.mp (hsmall s hs) c hc

/-- No name that does not begin with a small letter is reserved. -/
lemma notMem_reservedWords_of_isCapital (hne : s ≠ "") (h : IsCapital s) : s ∉ reservedWords := by
  intro hs
  obtain ⟨c, cs, hcs⟩ := List.exists_cons_of_ne_nil (show s.toList ≠ [] by simpa using hne)
  have hupper : c.toUpper = c := by
    have hlist := congrArg String.toList h
    rw [upperFirst, String.toList_ofList, hcs, capitalize] at hlist
    exact (List.cons.inj hlist).1
  have hlower := isLower_of_mem_reservedWords hs (hcs ▸ List.mem_cons_self)
  rw [← hupper, Char.isLower_toUpper_eq_false] at hlower
  cases hlower

/-- A field name is reserved exactly if its text is one word that is. -/
lemma fieldName_mem_reservedWords_iff : fieldName t ∈ reservedWords ↔ IsReserved t := by
  have hone : ∀ w, words t = [w] → fieldName t = String.ofList (uncapitalize w) := by
    intro w hw
    have hround := lowerFirst_upperFirst (String.ofList w)
    rw [upperFirst, String.toList_ofList] at hround
    rw [fieldName, typeName, hw, List.flatMap_singleton, hround, lowerFirst, String.toList_ofList]
  constructor
  · intro hmem
    have hlist : (fieldName t).toList = uncapitalize ((words t).flatMap capitalize) := by
      rw [fieldName, lowerFirst, toList_typeName, String.toList_ofList]
    rcases hwords : words t with _ | ⟨w, _ | ⟨v, ws⟩⟩
    · have hempty : fieldName t = "" := by
        rw [hwords] at hlist
        exact String.toList_eq_nil_iff.mp hlist
      rw [hempty] at hmem
      exact absurd hmem (by decide)
    · exact ⟨w, hwords, hone w hwords ▸ hmem⟩
    · -- a second word would leave a capital or a digit behind the first one
      exfalso
      have hisWord : ∀ u ∈ w :: v :: ws, IsWord u :=
        fun u hu => isWord_of_mem_words (hwords ▸ hu)
      have hw : IsWord w := hisWord w List.mem_cons_self
      have hv : IsWord v := hisWord v (List.mem_cons_of_mem w List.mem_cons_self)
      obtain ⟨c, r, rfl⟩ := List.exists_cons_of_ne_nil hw.ne_nil
      obtain ⟨d, q, rfl⟩ := List.exists_cons_of_ne_nil hv.ne_nil
      have hd : d.toUpper ∈ (fieldName t).toList := by
        rw [hlist, hwords]
        simp [capitalize, uncapitalize]
      have hlower := isLower_of_mem_reservedWords hmem hd
      rw [Char.isLower_toUpper_eq_false] at hlower
      cases hlower
  · rintro ⟨w, hw, hmem⟩
    exact hone w hw ▸ hmem

/-! ### Names of types and fields -/

/-- A field name, if there is one, is an identifier exactly if its text begins with a letter and is
no reserved word. -/
lemma isIdentifier_fieldName_iff (hne : fieldName t ≠ "") :
    IsIdentifier (fieldName t) ↔ ¬ BeginsWithDigit t ∧ ¬ IsReserved t := by
  have htype : typeName t ≠ "" := by
    rintro hempty
    rw [fieldName, hempty] at hne
    exact hne rfl
  have hletter : (fieldName t).toList.head?.any Char.isAlpha ↔ ¬ BeginsWithDigit t := by
    rw [beginsWithDigit_iff_typeName, ← any_isAlpha_iff (isWordText_typeName t) htype]
    have hfirst := any_isAlpha_lowerFirst_append htype ""
    rwa [String.append_empty] at hfirst
  rw [← hletter, ← fieldName_mem_reservedWords_iff]
  exact ⟨fun h => ⟨h.letter, h.free⟩, fun h => ⟨isWordText_fieldName t, h.1, h.2⟩⟩

end Naming

open Naming

namespace ClassDef

variable (c : ClassDef) (i : Nat)

/-- The name of a class begins with a digit exactly if the diagram's name for it does. -/
lemma beginsWithDigit_iff :
    BeginsWithDigit c.name ↔ (c.resolvedName i).toList.head?.any Char.isDigit := by
  rw [beginsWithDigit_iff_typeName, resolvedName]
  by_cases h : (Naming.typeName c.name).isEmpty
  · rw [if_pos h, String.isEmpty_iff.mp h, String.toList_append]
    exact iff_of_false (by decide) (by simp)
  · rw [if_neg h]

/-- The name of a class begins with a letter, unless the diagram's name for it begins with a
digit. -/
lemma any_isAlpha_resolvedName_iff :
    (c.resolvedName i).toList.head?.any Char.isAlpha ↔ ¬ BeginsWithDigit c.name := by
  have hname := c.isName_resolvedName i
  have hne : c.resolvedName i ≠ "" := fun hempty => hname.ne_nil (by rw [hempty]; rfl)
  rw [beginsWithDigit_iff c i, any_isAlpha_iff hname.isWordText hne]

/-- The name of a class is an identifier exactly if it begins with a letter. -/
lemma isIdentifier_resolvedName_iff :
    IsIdentifier (c.resolvedName i) ↔ ¬ BeginsWithDigit c.name := by
  have hname := c.isName_resolvedName i
  have hne : c.resolvedName i ≠ "" := fun hempty => hname.ne_nil (by rw [hempty]; rfl)
  rw [← any_isAlpha_resolvedName_iff c i]
  exact ⟨fun h => h.letter, fun h => ⟨hname.isWordText, h,
    notMem_reservedWords_of_isCapital hne (c.isCapital_resolvedName i)⟩⟩

/-- A field that is called after a class has a reserved word for its name exactly if the diagram
calls the class so. -/
lemma lowerFirst_resolvedName_mem_reservedWords_iff :
    lowerFirst (c.resolvedName i) ∈ reservedWords ↔ IsReserved c.name := by
  rw [← fieldName_mem_reservedWords_iff, fieldName, resolvedName]
  by_cases h : (Naming.typeName c.name).isEmpty
  · rw [if_pos h, String.isEmpty_iff.mp h]
    refine iff_of_false (fun hmem => ?_) (by decide)
    -- no reserved word begins like the name that stands in
    have hother : ∀ word ∈ reservedWords, ¬ "entity".toList <+: word.toList := by decide +kernel
    refine hother _ hmem ⟨(toString (i + 1)).toList, ?_⟩
    simp [lowerFirst, uncapitalize]
  · rw [if_neg h]

end ClassDef

namespace Link

variable {s : Snapshot} {l : Link} {f : RelationshipField}

/-- The number of a repeated relation is no small letter. -/
lemma eq_empty_of_forall_isLower (hl : l ∈ all s (.ofSnapshot s))
    (h : ∀ c ∈ l.suffix.toList, c.isLower) : l.suffix = "" := by
  obtain ⟨r, -, hr⟩ := List.mem_filterMap.mp hl
  obtain ⟨-, -, -, hsuffix⟩ := of?_eq_some_iff.mp hr
  rw [hsuffix, repeatSuffix] at h ⊢
  split_ifs at h ⊢ with hzero
  · rfl
  · exfalso
    obtain ⟨c, cs, hcs⟩ := List.exists_cons_of_ne_nil
      (show (toString (r.2 + 1)).toList ≠ [] by simp [Nat.toString_eq_repr])
    have hc : c ∈ (toString (r.2 + 1)).toList := hcs ▸ List.mem_cons_self
    have hlower := h c hc
    rw [Nat.toString_eq_repr, Nat.toList_repr] at hc
    have hdigit := Nat.isDigit_of_mem_toDigits (by decide) (by decide) hc
    have hword : isWordChar c := isWordChar_of_isLower_or_isDigit (.inl hlower)
    refine (isAlpha_iff_of_isWordChar hword).mp ?_ hdigit
    rw [Char.isAlpha, hlower, Bool.or_true]

/-- A relationship field has a reserved word for its name only if it has the name of the class that
it leads to, with nothing behind. -/
lemma fieldName_eq_of_mem_reservedWords (hl : l ∈ all s (.ofSnapshot s)) {side : Side}
    (h : l.field (.ofSnapshot s) side = some f) (hmem : f.fieldName ∈ reservedWords) :
    f.fieldName = lowerFirst f.relatedType := by
  obtain ⟨-, -, -, -, -, hname⟩ := field_eq_some h
  have hlower : ∀ c ∈ (lowerFirst f.relatedType ++ f.kind.ending ++ l.suffix).toList, c.isLower :=
    fun c hc => isLower_of_mem_reservedWords hmem (hname ▸ hc)
  simp only [String.toList_append, List.forall_mem_append] at hlower
  have hsuffix := eq_empty_of_forall_isLower hl hlower.2
  have hending : f.kind.ending = "" := by
    cases hkind : f.kind with
    | manyToOne => rfl
    | oneToMany =>
      rw [hkind] at hlower
      exact absurd (hlower.1.2 'L' List.mem_cons_self) (by decide)
    | manyToMany =>
      rw [hkind] at hlower
      exact absurd (hlower.1.2 'S' List.mem_cons_self) (by decide)
  rw [hname, hsuffix, hending, String.append_empty, String.append_empty]

end Link

/-- **Identifiers.** Every class, attribute and relationship field of a diagram has a name of
letters and digits, and Java accepts it but in two cases: the name of a class begins with a digit if
the diagram's name for the class does, and so do the names of attributes, and of the fields that are
called after the class; and an attribute has a reserved word for its name if the diagram calls it
so, as has a field with the name of a class that the diagram calls so. -/
theorem Snapshot.isIdentifier_iff (s : Snapshot) (package : String) :
    ∀ c ∈ s.classes, ∃ (i : Nat) (d : ClassDef), s.classes[i]? = some d ∧ d.id = c.id ∧
      (ClassNames.ofSnapshot s).typeName? c.id = some (d.resolvedName i) ∧
      (IsIdentifier (d.resolvedName i) ↔ ¬ BeginsWithDigit d.name) ∧
      let e := s.entity package c (d.resolvedName i)
      (∀ a ∈ e.attributes, ∃ b ∈ c.attributes, a.fieldName = fieldName b.name ∧
        (IsIdentifier a.fieldName ↔ ¬ BeginsWithDigit b.name ∧ ¬ IsReserved b.name)) ∧
      ∀ f ∈ e.relationships, ∃ (j : Nat) (r : ClassDef), s.classes[j]? = some r ∧
        r.id = f.relatedClassId ∧ f.relatedType = r.resolvedName j ∧
        (IsIdentifier f.fieldName ↔ ¬ BeginsWithDigit r.name ∧
          ¬ (f.fieldName = lowerFirst f.relatedType ∧ IsReserved r.name)) := by
  intro c hc
  obtain ⟨n, hn⟩ := exists_typeName? hc
  obtain ⟨i, d, hd, hid, rfl⟩ := ClassNames.exists_getElem?_of_typeName? hn
  refine ⟨i, d, hd, hid, hn, d.isIdentifier_resolvedName_iff i, fun a ha => ?_, fun f hf => ?_⟩
  · obtain ⟨b, hb, hab⟩ := Entity.exists_fieldName_eq ha
    refine ⟨b, hb, hab, ?_⟩
    rw [hab]
    refine isIdentifier_fieldName_iff fun hempty => ?_
    exact Entity.fieldName_ne_empty_of_mem_attributes ha (hab.trans hempty)
  · rw [entity_eq] at hf
    obtain ⟨l, hl, hf⟩ := mem_relationshipFields.mp hf
    obtain ⟨side, -, hfield⟩ := Link.mem_fieldsOf.mp hf
    obtain ⟨-, -, hrelated, htype, -, hname⟩ := Link.field_eq_some hfield
    have hend := Link.typeName?_endId hl side.opposite
    obtain ⟨j, r, hr, hrid, hrn⟩ := ClassNames.exists_getElem?_of_typeName? hend
    refine ⟨j, r, hr, hrid.trans hrelated.symm, htype.trans hrn, ?_⟩
    have hne : f.relatedType ≠ "" := fun hempty =>
      (r.isName_resolvedName j).ne_nil (by rw [← hrn, ← htype, hempty]; rfl)
    have hletter : f.fieldName.toList.head?.any Char.isAlpha ↔ ¬ BeginsWithDigit r.name := by
      rw [← r.any_isAlpha_resolvedName_iff j, ← hrn, ← htype, hname, String.append_assoc,
        any_isAlpha_lowerFirst_append hne]
    have hreserved : f.fieldName ∈ reservedWords ↔
        f.fieldName = lowerFirst f.relatedType ∧ IsReserved r.name := by
      rw [← r.lowerFirst_resolvedName_mem_reservedWords_iff j, ← hrn, ← htype]
      refine ⟨fun hmem => ?_, fun ⟨heq, hmem⟩ => heq ▸ hmem⟩
      have heq := Link.fieldName_eq_of_mem_reservedWords hl hfield hmem
      exact ⟨heq, heq ▸ hmem⟩
    rw [← hletter, ← hreserved]
    exact ⟨fun h => ⟨h.letter, h.free⟩,
      fun h => ⟨Link.isWordText_fieldName hl hfield, h.1, h.2⟩⟩

namespace Snapshot

/-- Flights with their crews. What the diagram says has digits and reserved words in it, but not
where they would matter. -/
def flights : Snapshot where
  classes := [
    { id := "f", name := "Flight 2", attributes := [{ name := "Default gate" }] },
    { id := "c", name := "Class" }]
  relations := [⟨"r", "c", "f", .association, none⟩]

/-- All names of flights are identifiers, and so are those of classes. -/
theorem isIdentifier_flights :
    ∃ f ∈ flights.classes, ∃ n, (ClassNames.ofSnapshot flights).typeName? f.id = some n ∧
      IsIdentifier n ∧ (∀ a ∈ (flights.entity "air" f n).attributes, IsIdentifier a.fieldName) ∧
      (flights.entity "air" f n).relationships.map RelationshipField.fieldName = ["classList"] ∧
      ∀ r ∈ (flights.entity "air" f n).relationships, IsIdentifier r.fieldName := by
  have hf : flights.classes[0] ∈ flights.classes := List.mem_cons_self
  have hclear : ∀ c ∈ flights.classes, ¬ BeginsWithDigit c.name :=
    List.all_iff_forall_prop.mp (by decide +kernel)
  have hwords : ¬ IsReserved "Default gate" := by
    rintro ⟨w, hw, -⟩
    have htwo : (words "Default gate").length = 2 := by decide +kernel
    rw [hw] at htwo
    cases htwo
  obtain ⟨i, d, hd, hid, hn, htype, hattributes, hfields⟩ :=
    isIdentifier_iff flights "air" flights.classes[0] hf
  have hname : d.resolvedName i = "Flight2" := by
    have htypeName : (ClassNames.ofSnapshot flights).typeName? "f" = some "Flight2" := by
      decide +kernel
    exact Option.some.inj (hn.symm.trans htypeName)
  have hnames : (flights.entity "air" flights.classes[0] "Flight2").relationships.map
      RelationshipField.fieldName = ["classList"] := by decide +kernel
  refine ⟨flights.classes[0], hf, d.resolvedName i, hn,
    htype.mpr (hclear d (List.mem_of_getElem? hd)), fun a ha => ?_, hname ▸ hnames, fun r hr => ?_⟩
  · obtain ⟨b, hb, -, hiff⟩ := hattributes a ha
    obtain rfl : b = { name := "Default gate" } := List.mem_singleton.mp hb
    exact hiff.mpr ⟨by decide +kernel, hwords⟩
  · obtain ⟨j, q, hq, -, hrelated, hiff⟩ := hfields r hr
    refine hiff.mpr ⟨hclear q (List.mem_of_getElem? hq), ?_⟩
    rintro ⟨hplain, -⟩
    have hlist : r.fieldName = "classList" := by
      have hmem := List.mem_map_of_mem (f := RelationshipField.fieldName) hr
      rw [hname, hnames] at hmem
      exact List.mem_singleton.mp hmem
    have hrelatedType : ∀ f ∈ (flights.entity "air" flights.classes[0] "Flight2").relationships,
        f.fieldName ≠ lowerFirst f.relatedType := by decide +kernel
    exact hrelatedType r (hname ▸ hr) hplain

/-- A report on a year, with an attribute and a class that are called like reserved words. -/
def yearReport : Snapshot where
  classes := [
    { id := "r", name := "2024 Report", attributes := [{ name := "class" }] },
    { id := "n", name := "New" }]
  relations := [⟨"m", "r", "n", .association, none⟩]

/-- None of the names of this report is an identifier. -/
theorem not_isIdentifier_yearReport :
    (ClassNames.ofSnapshot yearReport).typeName? "r" = some "2024Report" ∧
    ¬ IsIdentifier "2024Report" ∧
    ∃ r ∈ yearReport.classes, r.id = "r" ∧
      (yearReport.entity "year" r "2024Report").attributes.map Attribute.fieldName = ["class"] ∧
      ¬ IsIdentifier "class" ∧
      (yearReport.entity "year" r "2024Report").relationships.map RelationshipField.fieldName =
        ["new"] ∧
      ¬ IsIdentifier "new" := by
  refine ⟨by decide +kernel, by decide, yearReport.classes[0], List.mem_cons_self, rfl, ?_⟩
  decide +kernel

end Snapshot

end CrudScaffold
