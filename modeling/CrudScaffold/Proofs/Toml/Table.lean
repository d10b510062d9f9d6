import CrudScaffold.Proofs.List
import CrudScaffold.Toml.Document

/-!
# Laws of tables

A table is searched for the first entry of a name. These laws say what is found after an item has
been put under a name or entries have been added at the end, and relate the entries of a table to
the values that they stand for. `Toml.Document.value?` is the value of a key in a section, however
the section is written.
-/

namespace CrudScaffold.Toml

namespace Entries

variable {name : String} {item : Item}

/-- What an item is put under is found under its name, and everything else is found as before. -/
lemma get?_set (entries : Entries) (key : Key) (item : Item) (name : String) :
    (entries.set key item).get? name =
      if key.name = name then some item else entries.get? name := by
  induction entries with
  | nil => rfl
  | cons e entries ih =>
    obtain ⟨known, old⟩ := e
    rw [set]
    split_ifs with hknown hname hname
    · rw [get?, if_pos (hknown.trans hname)]
    · rw [get?, if_neg (fun h => hname (hknown.symm.trans h)), get?,
        if_neg (fun h => hname (hknown.symm.trans h))]
    · rw [get?, ih, if_pos hname, if_neg (fun h => hknown (h.trans hname.symm))]
    · rw [get?, ih, if_neg hname, get?]

/-- Putting back what is there changes nothing. -/
lemma set_eq_self {entries : Entries} {key : Key} (h : entries.get? key.name = some item) :
    entries.set key item = entries := by
  induction entries with
  | nil => cases h
  | cons e entries ih =>
    obtain ⟨known, old⟩ := e
    rw [get?] at h
    rw [set]
    split_ifs at h ⊢ with hknown
    · rw [Option.some.inj h]
    · rw [ih h]

@[simp] lemma get?_append (entries more : Entries) (name : String) :
    get? name (entries ++ more) = (entries.get? name).or (more.get? name) := by
  induction entries with
  | nil => rfl
  | cons e entries ih =>
    obtain ⟨known, old⟩ := e
    rw [List.cons_append, get?, get?, ih]
    split_ifs <;> rfl

/-- The values of a table are those of its entries. -/
lemma lookup_toValues (entries : Entries) (name : String) :
    (toValues entries).lookup name = (entries.get? name).map Item.toValue := by
  induction entries with
  | nil => rfl
  | cons e entries ih =>
    obtain ⟨known, old⟩ := e
    rw [toValues, lookup_cons_ite, get?, ih]
    by_cases h : known.name = name
    · rw [if_pos h, if_pos h.symm, Option.map_some]
    · rw [if_neg h, if_neg (Ne.symm h)]

/-- The value of a key in a section, if the section is a table of any kind. -/
def value? (entries : Entries) (name key : String) : Option Value :=
  match (toValues entries).lookup name with
  | some (.table values) => values.lookup key
  | _ => none

/-- A name stands for a table between braces with something in it. Nothing can be added to such a
table later. -/
def isClosed (entries : Entries) (name : String) : Bool :=
  match entries.get? name with
  | some (.value ⟨.table (_ :: _), _⟩ _) => true
  | _ => false

/-- The value of a key in a table that is no value itself. -/
lemma value?_of_get?_eq_table {entries inner : Entries} {head : Head}
    (h : entries.get? name = some (.table head inner)) (key : String) :
    entries.value? name key = (inner.get? key).map Item.toValue := by
  rw [value?, lookup_toValues, h, Option.map_some, Item.toValue]
  exact lookup_toValues inner key

/-- What is found under a name decides the values of its keys. -/
lemma value?_congr {entries entries' : Entries} (h : entries'.get? name = entries.get? name)
    (key : String) : entries'.value? name key = entries.value? name key := by
  rw [value?, value?, lookup_toValues, lookup_toValues, h]

/-- No key has a value where there is neither a table with entries nor one between braces. -/
lemma value?_eq_none {entries : Entries} (hclosed : entries.isClosed name = false)
    (htable : ∀ head inner, entries.get? name ≠ some (.table head inner)) (key : String) :
    entries.value? name key = none := by
  rw [value?, lookup_toValues]
  rw [isClosed] at hclosed
  rcases hget : entries.get? name with _ | ⟨literal, around⟩ | ⟨head, inner⟩ | members
  · rfl
  · rw [hget] at hclosed
    obtain ⟨value, text⟩ := literal
    rw [Option.map_some, Item.toValue]
    rcases value with _ | _ | _ | _ | _ | _ | (_ | ⟨first, rest⟩)
    all_goals first | rfl | cases hclosed
  · exact absurd hget (htable head inner)
  · rfl

/-- A table between braces with something in it has a key with a value. -/
lemma exists_value?_of_isClosed {entries : Entries} (h : entries.isClosed name) :
    ∃ key v, entries.value? name key = some v := by
  rw [isClosed] at h
  split at h
  · rename_i first rest text around hget
    obtain ⟨key, v⟩ := first
    refine ⟨key, v, ?_⟩
    rw [value?, lookup_toValues, hget]
    exact List.lookup_cons_self
  · cases h

end Entries

/-- The value of a key in a section of a document. -/
def Document.value? (d : Document) (name key : String) : Option Value := d.entries.value? name key

/-- The values that a document has decide the values of its keys. -/
lemma Document.value?_of_values {d : Document} {values : List (String × Value)}
    (h : d.values = values) (name key : String) :
    d.value? name key = match values.lookup name with
      | some (.table inner) => inner.lookup key
      | _ => none := by
  rw [← h]
  rfl

end CrudScaffold.Toml
