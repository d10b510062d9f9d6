import CrudScaffold.Proofs.Toml.Distinct

/-!
# Where entries are put

An alteration changes the entry of a name where it stands, or puts a new one at the end. An entry
under a path is put into the table of the first key, under the rest of the path.
-/

namespace CrudScaffold.Toml.Entries

variable {entries left right inner : Entries} {key known : Key} {item old : Item} {head : Head}
  {f : Option Item → Option Item}

/-- The names of entries. -/
def names (entries : Entries) : List String := entries.map (·.1.name)

@[simp] lemma names_nil : names [] = [] := rfl

lemma nodup_names_nil : (names []).Nodup := List.nodup_nil

@[simp] lemma names_cons (e : Key × Item) (entries : Entries) :
    names (e :: entries) = e.1.name :: names entries := rfl

@[simp] lemma names_append (entries more : Entries) :
    names (entries ++ more) = names entries ++ names more := List.map_append

/-- A name stands for an entry with others in front of it that have other names. -/
lemma exists_split {name : String} (h : name ∈ names entries) :
    ∃ left known item right, entries = left ++ (known, item) :: right ∧ known.name = name ∧
      name ∉ names left := by
  induction entries with
  | nil => cases h
  | cons e entries ih =>
    by_cases he : e.1.name = name
    · exact ⟨[], e.1, e.2, entries, rfl, he, nofun⟩
    · rw [names_cons, List.mem_cons] at h
      obtain ⟨left, known, item, right, rfl, hname, hleft⟩ := ih (h.resolve_left (Ne.symm he))
      refine ⟨e :: left, known, item, right, rfl, hname, ?_⟩
      rw [names_cons, List.mem_cons, not_or]
      exact ⟨Ne.symm he, hleft⟩

/-- A name that is not there is put at the end. -/
lemma alter?_of_notMem (h : key.name ∉ names entries) :
    entries.alter? key f = (f none).map fun item => entries ++ [(key, item)] := by
  induction entries with
  | nil =>
    rw [alter?]
    cases f none <;> rfl
  | cons e entries ih =>
    obtain ⟨known, item⟩ := e
    rw [names_cons, List.mem_cons, not_or] at h
    rw [alter?, if_neg (Ne.symm h.1), ih h.2]
    cases f none <;> rfl

/-- An entry is altered where it stands. -/
lemma alter?_of_split (hleft : key.name ∉ names left) (hknown : known.name = key.name) :
    alter? key f (left ++ (known, old) :: right) =
      (f (some old)).map fun new => left ++ (known, new) :: right := by
  induction left with
  | nil =>
    rw [List.nil_append, alter?, if_pos hknown]
    cases f (some old) <;> rfl
  | cons e left ih =>
    obtain ⟨k, i⟩ := e
    rw [names_cons, List.mem_cons, not_or] at hleft
    rw [List.cons_append, alter?, if_neg (Ne.symm hleft.1), ih hleft.2]
    cases f (some old) <;> rfl

lemma add?_of_notMem (h : key.name ∉ names entries) :
    entries.add? key item = some (entries ++ [(key, item)]) := by
  rw [add?, alter?_of_notMem h]
  rfl

lemma add?_eq_some_iff {entries' : Entries} :
    entries.add? key item = some entries' ↔
      key.name ∉ names entries ∧ entries' = entries ++ [(key, item)] := by
  by_cases h : key.name ∈ names entries
  · obtain ⟨left, known, old, right, rfl, hknown, hleft⟩ := exists_split h
    rw [add?, alter?_of_split hleft hknown]
    exact iff_of_false nofun fun hno => hno.1 h
  · rw [add?_of_notMem h, Option.some_inj, eq_comm, and_iff_right h]

/-! ### Paths -/

variable {path : List Key}

/-- An entry with a path of one key is put beside the others. -/
lemma put?_single : entries.put? ⟨[], key⟩ item = entries.add? key item := rfl

/-- Behind a key of a path the rest of the path is followed in the table of that key. -/
lemma within?_put (first : Key) (hdotted : head.dotted) :
    within? true path (fun head inner =>
      if head.dotted = (first :: path).isEmpty then none else inner.add? key item) head inner =
    inner.put? ⟨path, key⟩ item := by
  cases path with
  | nil =>
    rw [put?_single, within?, List.isEmpty_cons, if_neg (by simp [hdotted])]
  | cons second path => rfl

/-- The table that keys of a path have made. -/
def dottedHead : Head := { implicit := true, dotted := true }

lemma put?_cons_of_notMem {first : Key} (h : first.name ∉ names entries) :
    entries.put? ⟨first :: path, key⟩ item =
      (put? ⟨path, key⟩ item []).map fun inner =>
        entries ++ [(first, .table dottedHead inner)] := by
  have hput : within? true path (fun head inner => if head.dotted = (first :: path).isEmpty
      then none else inner.add? key item) dottedHead [] = put? ⟨path, key⟩ item [] :=
    within?_put first rfl
  rw [put?, within?, alter?_of_notMem h, ← hput]
  dsimp only [dottedHead]
  cases within? true path _ _ _ <;> rfl

lemma put?_cons_of_split {first : Key} (hleft : first.name ∉ names left)
    (hknown : known.name = first.name) (hdotted : head.dotted) (himplicit : head.implicit) :
    put? ⟨first :: path, key⟩ item (left ++ (known, .table head inner) :: right) =
      (inner.put? ⟨path, key⟩ item).map fun inner' =>
        left ++ (known, .table head inner') :: right := by
  have hput : within? true path (fun head inner => if head.dotted = (first :: path).isEmpty
      then none else inner.add? key item) head inner = inner.put? ⟨path, key⟩ item :=
    within?_put first hdotted
  rw [put?, within?, alter?_of_split hleft hknown, ← hput]
  dsimp only
  rw [himplicit]
  cases within? true path _ _ _ <;> rfl

/-- No path leads through a value. -/
lemma put?_cons_of_value {first : Key} {l : Literal} {around : Option Around}
    (hleft : first.name ∉ names left) (hknown : known.name = first.name) :
    put? ⟨first :: path, key⟩ item (left ++ (known, .value l around) :: right) = none := by
  rw [put?, within?, alter?_of_split hleft hknown]
  rfl

end CrudScaffold.Toml.Entries
