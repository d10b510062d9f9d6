import Mathlib.Logic.Relation
import CrudScaffold.Proofs.Json.Number
import CrudScaffold.Proofs.Json.Place
import CrudScaffold.Proofs.List
import CrudScaffold.Proofs.Snapshot.Leniency

/-!
# Limits of lengths in documents

What happens to a diagram when a number is put into its document as the `maxLength` of an attribute.
The attribute may be an object, with or without the member, or an array, whose last item the limit
is then; where an array ends before, the fields between are written out with the values that they
have anyway. The document with the number is read exactly if the number is a length, and as the same
diagram but for the limit of this one attribute (`Snapshot.PutsMaxLength.read_iff`).
-/

namespace CrudScaffold

open Json

/-! ### Lengths -/

/-- A length is read from a literal of digits alone, and is written as this literal. -/
lemma readLength_eq_ok_iff {literal : String} {n : Numeral}
    (h : IsLexeme literal.toList (.number n none)) {m : UInt32} :
    readLength (.number n none) = .ok m ↔ IsNat32 literal ∧ toString m = literal := by
  have hwritten : toString m = toString m.toNat := rfl
  unfold readLength
  rw [map_eq_ok_iff, hwritten]
  constructor
  · rintro ⟨k, hk, rfl⟩
    obtain ⟨-, -, -, hvalue, hle⟩ := readNat32_number_eq_ok_iff.mp hk
    rw [UInt32.toNat_ofNat_of_lt' (by change k < 2 ^ 32; omega)]
    exact (readNat32_eq_ok_iff h).mp hk
  · intro hm
    exact ⟨m.toNat, (readNat32_eq_ok_iff h).mpr hm, UInt32.ofNat_toNat⟩

/-- A literal of digits alone is a length if 32 bits hold the number. -/
lemma exists_readLength {literal : String} {n : Numeral}
    (h : IsLexeme literal.toList (.number n none)) (hliteral : IsNat32 literal) :
    ∃ m, readLength (.number n none) = .ok m := by
  obtain ⟨m, hm⟩ := hliteral.exists_readNat32 h
  exact ⟨UInt32.ofNat m, map_eq_ok_iff.mpr ⟨m, hm, rfl⟩⟩

/-! ### Attributes -/

namespace AttributeDef

/-- The fields of an attribute that may be left out, with the values that they have then. -/
def defaults : List (String × Tree) :=
  [("typeTag", .string (.ofString "string")), ("isPrimaryKey", .bool false),
    ("isRequired", .bool false)]

/-- Writes out one field that the array of an attribute leaves out, with the value that it has. -/
inductive WritesDefault : Tree → Tree → Prop
  | intro {items : List Tree} {name : String} {v : Tree} (hv : (name, v) ∈ defaults)
      (hname : record.fields[items.length]? = some name) :
      WritesDefault (.array items none) (.array (items ++ [v]) none)

/-- Puts a number into the tree of an attribute as its limit. -/
def PutsMaxLength (n : Numeral) (t t' : Tree) : Prop :=
  ∃ u, Relation.ReflTransGen WritesDefault t u ∧
    PutsField record.fields "maxLength" (.number n none) u t'

/-- The slot of the limit. -/
def maxLengthSlot : Slot AttributeDraft :=
  ⟨"maxLength", Option UInt32, (·.maxLength), fun d x => { d with maxLength := x },
    readOption readLength⟩

/-- An attribute has the limit that its draft has, whatever the rest of the draft is. -/
lemma finish_maxLength {d : AttributeDraft} {a : AttributeDef} (h : record.finish d = .ok a)
    (o : Option UInt32) :
    record.finish { d with maxLength := some o } = .ok { a with maxLength := o } := by
  obtain ⟨name, hname, ha⟩ := bind_eq_ok_iff.mp h
  cases ha
  exact bind_eq_ok_iff.mpr ⟨name, hname, rfl⟩

/-- A field that is written out with the value that it has changes nothing. -/
lemma WritesDefault.read_eq {t t' : Tree} (h : WritesDefault t t') {a : AttributeDef}
    (ha : record.read t = .ok a) : record.read t' = .ok a := by
  obtain @⟨items, name, v, hv, hname⟩ := h
  have hdefault : ∀ s ∈ Part.attributeSlots, s.get record.blank = none → s.name = name →
      ∀ x, s.read v = .ok x →
        (∀ d, s.get d = none → record.finish (s.set d (some x)) = record.finish d) →
          record.read (.array (items ++ [v]) none) = .ok a := by
    rintro s hs hblank rfl x hx hfinish
    obtain ⟨d, hget, hd, hread⟩ := Part.slotted_attributeDef.read_newItem hs hblank hname ha
    exact (hread v a).mpr ⟨x, hx, (hfinish d hget).trans hd⟩
  simp only [Part.attributeSlots, List.forall_mem_cons] at hdefault
  obtain ⟨-, htag, hkey, hrequired, -, -⟩ := hdefault
  simp only [defaults, List.mem_cons, List.not_mem_nil, or_false, Prod.mk.injEq] at hv
  rcases hv with ⟨rfl, rfl⟩ | ⟨rfl, rfl⟩ | ⟨rfl, rfl⟩
  · refine htag rfl rfl .string (readName_tree TypeTag.ofName "string") ?_
    rintro ⟨name, tag, key, required, limit⟩ rfl
    rfl
  · refine hkey rfl rfl false rfl ?_
    rintro ⟨name, tag, key, required, limit⟩ rfl
    rfl
  · refine hrequired rfl rfl false rfl ?_
    rintro ⟨name, tag, key, required, limit⟩ rfl
    rfl

/-- A number that is put into an attribute is read if it is a length, and then it is the limit of
the attribute. -/
lemma PutsMaxLength.read_iff {n : Numeral} {t t' : Tree} (h : PutsMaxLength n t t')
    {a : AttributeDef} (ha : record.read t = .ok a) (a' : AttributeDef) :
    record.read t' = .ok a' ↔
      ∃ m, readLength (.number n none) = .ok m ∧ a' = { a with maxLength := some m } := by
  obtain ⟨u, hdefaults, hput⟩ := h
  have hu : record.read u = .ok a := by
    clear hput
    induction hdefaults with
    | refl => exact ha
    | tail _ hlast ih => exact hlast.read_eq ih
  have hslot : maxLengthSlot ∈ Part.attributeSlots := by simp [maxLengthSlot, Part.attributeSlots]
  obtain ⟨d, hfinish, hread⟩ :=
    Part.slotted_attributeDef.read_putsField hslot rfl hput hu
  have hlimit : ∀ o : Option UInt32, record.finish (maxLengthSlot.set d (some o)) =
      .ok { a with maxLength := o } := by
    intro o
    rcases hfinish with hfinish | ⟨x, hfinish⟩
    · exact finish_maxLength hfinish o
    · exact finish_maxLength hfinish o
  rw [hread]
  constructor
  · rintro ⟨o, ho, ha'⟩
    obtain ⟨m, hm, rfl⟩ := map_eq_ok_iff.mp (ho : (readLength _).map some = .ok o)
    exact ⟨m, hm, (Except.ok.inj ((hlimit _).symm.trans ha')).symm⟩
  · rintro ⟨m, hm, rfl⟩
    exact ⟨some m, map_eq_ok_iff.mpr ⟨m, hm, rfl⟩, hlimit _⟩

end AttributeDef

/-! ### Classes and diagrams -/

namespace ClassDef

/-- The class with another limit for one attribute. -/
def withMaxLength (c : ClassDef) (j : Nat) (m : UInt32) : ClassDef :=
  { c with attributes := c.attributes.modify j fun a => { a with maxLength := some m } }

/-- Puts a number into the tree of a class as the limit of one attribute. -/
def PutsMaxLength (j : Nat) (n : Numeral) : Tree → Tree → Prop :=
  AtField record.fields "attributes" (AtIndex j (AttributeDef.PutsMaxLength n))

/-- A class has the attributes that its draft has, whatever the rest of the draft is. -/
lemma finish_attributes {d : ClassDraft} {l : List AttributeDef} {c : ClassDef}
    (h : record.finish { d with attributes := some l } = .ok c) :
    c.attributes = l ∧ ∀ l', record.finish { d with attributes := some l' } =
      .ok { c with attributes := l' } := by
  obtain ⟨id, hid, hrest⟩ := bind_eq_ok_iff.mp h
  obtain ⟨name, hname, hc⟩ := bind_eq_ok_iff.mp hrest
  cases hc
  refine ⟨rfl, fun l' => ?_⟩
  exact bind_eq_ok_iff.mpr ⟨id, hid, bind_eq_ok_iff.mpr ⟨name, hname, rfl⟩⟩

/-- A class into which a number has been put is read if the number is a length, and then it is the
same class but for this limit. -/
lemma PutsMaxLength.read_iff {j : Nat} {n : Numeral} {t t' : Tree} (h : PutsMaxLength j n t t')
    {c : ClassDef} (hc : record.read t = .ok c) :
    ∃ a, c.attributes[j]? = some a ∧ ∀ c', record.read t' = .ok c' ↔
      ∃ m, readLength (.number n none) = .ok m ∧ c' = c.withMaxLength j m := by
  have hslot : ⟨"attributes", List AttributeDef, (·.attributes),
      fun d x => { d with attributes := x }, readList AttributeDef.record.read⟩ ∈
        Part.classSlots := by simp [Part.classSlots]
  obtain ⟨u, u', a, hput, ha, hu, hread⟩ :=
    Part.slotted_classDef.read_atItem hslot finish_attributes h hc
  refine ⟨a, ha, fun c' => (hread c').trans ?_⟩
  unfold withMaxLength
  simp only [modify_eq_set ha]
  constructor
  · rintro ⟨a', ha', rfl⟩
    obtain ⟨m, hm, rfl⟩ := (hput.read_iff hu a').mp ha'
    exact ⟨m, hm, rfl⟩
  · rintro ⟨m, hm, rfl⟩
    exact ⟨_, (hput.read_iff hu _).mpr ⟨m, hm, rfl⟩, rfl⟩

end ClassDef

namespace Snapshot

/-- The diagram with another limit for one attribute of one class. -/
def withMaxLength (s : Snapshot) (i j : Nat) (m : UInt32) : Snapshot :=
  { s with classes := s.classes.modify i fun c => c.withMaxLength j m }

/-- Puts a number into the tree of a diagram as the limit of one attribute of one class. -/
def PutsMaxLength (i j : Nat) (n : Numeral) : Tree → Tree → Prop :=
  AtField record.fields "classes" (AtIndex i (ClassDef.PutsMaxLength j n))

/-- A diagram has the classes that its draft has. -/
lemma finish_classes {d : SnapshotDraft} {l : List ClassDef} {s : Snapshot}
    (h : record.finish { d with classes := some l } = .ok s) :
    s.classes = l ∧ ∀ l', record.finish { d with classes := some l' } =
      .ok { s with classes := l' } := by
  cases h
  exact ⟨rfl, fun _ => rfl⟩

/-- A diagram into which a number has been put is read if the number is a length, and then it is the
same diagram but for this limit. -/
lemma PutsMaxLength.read_iff {i j : Nat} {n : Numeral} {t t' : Tree} (h : PutsMaxLength i j n t t')
    {s : Snapshot} (hs : record.read t = .ok s) :
    ∃ c a, s.classes[i]? = some c ∧ c.attributes[j]? = some a ∧ ∀ s', record.read t' = .ok s' ↔
      ∃ m, readLength (.number n none) = .ok m ∧ s' = s.withMaxLength i j m := by
  have hslot : ⟨"classes", List ClassDef, (·.classes), fun d x => { d with classes := x },
      readList ClassDef.record.read⟩ ∈ Part.diagramSlots := by
    simp [Part.diagramSlots]
  obtain ⟨u, u', c, hput, hc, hu, hread⟩ :=
    Part.slotted_diagram.read_atItem hslot finish_classes h hs
  obtain ⟨a, ha, hclass⟩ := hput.read_iff hu
  refine ⟨c, a, hc, ha, fun s' => (hread s').trans ?_⟩
  unfold withMaxLength
  simp only [modify_eq_set hc]
  constructor
  · rintro ⟨c', hc', rfl⟩
    obtain ⟨m, hm, rfl⟩ := (hclass c').mp hc'
    exact ⟨m, hm, rfl⟩
  · rintro ⟨m, hm, rfl⟩
    exact ⟨_, (hclass _).mpr ⟨m, hm, rfl⟩, rfl⟩

end Snapshot

end CrudScaffold
