import Mathlib
import CrudScaffold.Proofs.Naming

/-!
# Names of accessors

The method that reads a field and the one that writes it are called after the field with a capital
first letter. So two fields that differ in the case of their first letter only would share their
methods. Names of fields do not begin with capitals, and among such names every field has methods of
its own (`Naming.getter_inj`, `Naming.setter_inj`). The other way round, the names of types do not
begin with small letters, and such names can be told apart when their first letter has been made
small (`Naming.lowerFirst_inj`).
-/

namespace CrudScaffold.Naming

variable {s t : String}

/-- A capital first letter does not matter where the first letter is made small. -/
lemma lowerFirst_upperFirst (s : String) : lowerFirst (upperFirst s) = lowerFirst s := by
  rw [lowerFirst, upperFirst, String.toList_ofList, lowerFirst]
  cases s.toList with
  | nil => rfl
  | cons c cs => rw [capitalize, uncapitalize, uncapitalize, Char.toLower_toUpper_eq_toLower]

/-- A small first letter does not matter where the first letter is made a capital. -/
lemma upperFirst_lowerFirst (s : String) : upperFirst (lowerFirst s) = upperFirst s := by
  rw [upperFirst, lowerFirst, String.toList_ofList, upperFirst]
  cases s.toList with
  | nil => rfl
  | cons c cs => rw [uncapitalize, capitalize, capitalize, Char.toUpper_toLower_eq_toUpper]

/-- A name does not begin with a capital. -/
def IsSmall (s : String) : Prop := lowerFirst s = s

/-- Whether a name begins with a capital is seen from it. -/
instance : DecidablePred IsSmall := fun s => inferInstanceAs (Decidable (lowerFirst s = s))

/-- A name with a small first letter does not begin with a capital, whatever is put behind it. -/
lemma isSmall_lowerFirst_append (hs : s ≠ "") (t : String) : IsSmall (lowerFirst s ++ t) := by
  have hne : s.toList ≠ [] := fun hnil => hs (String.toList_eq_nil_iff.mp hnil)
  obtain ⟨c, cs, hcs⟩ := List.exists_cons_of_ne_nil hne
  refine String.toList_injective ?_
  simp [lowerFirst, hcs, uncapitalize]

/-- A name with a small first letter does not begin with a capital. -/
lemma isSmall_lowerFirst (s : String) : IsSmall (lowerFirst s) := by
  rw [IsSmall, lowerFirst, lowerFirst, String.toList_ofList]
  cases s.toList with
  | nil => rfl
  | cons c cs => rw [uncapitalize, uncapitalize, Char.toLower_toLower_eq_toLower]

/-- Names that do not begin with capitals are told apart with capitals, too. -/
lemma upperFirst_inj (hs : IsSmall s) (ht : IsSmall t) : upperFirst s = upperFirst t ↔ s = t := by
  constructor
  · intro h
    have hlower := congrArg lowerFirst h
    rwa [lowerFirst_upperFirst, lowerFirst_upperFirst, hs, ht] at hlower
  · rintro rfl
    rfl

/-- The first letter of a name is not a small one. -/
def IsCapital (s : String) : Prop := upperFirst s = s

/-- Names that do not begin with small letters are told apart with small letters, too. -/
lemma lowerFirst_inj (hs : IsCapital s) (ht : IsCapital t) :
    lowerFirst s = lowerFirst t ↔ s = t := by
  constructor
  · intro h
    have hupper := congrArg upperFirst h
    rwa [upperFirst_lowerFirst, upperFirst_lowerFirst, hs, ht] at hupper
  · rintro rfl
    rfl

/-- Fields are told apart by the methods that read them. -/
lemma getter_inj (hs : IsSmall s) (ht : IsSmall t) : getter s = getter t ↔ s = t := by
  rw [getter, getter, String.append_right_inj, upperFirst_inj hs ht]

/-- Fields are told apart by the methods that write them. -/
lemma setter_inj (hs : IsSmall s) (ht : IsSmall t) : setter s = setter t ↔ s = t := by
  rw [setter, setter, String.append_right_inj, upperFirst_inj hs ht]

/-- No method both reads and writes. -/
lemma getter_ne_setter (s t : String) : getter s ≠ setter t := by
  intro h
  have hfirst := congrArg (fun name => name.toList.head?) h
  simp [getter, setter] at hfirst

end CrudScaffold.Naming
