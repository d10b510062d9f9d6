import Mathlib.Data.List.Perm.Basic
import CrudScaffold.Proofs.Json.Record

/-!
# Places in documents

Two documents that are the same but for one place: a field of a record, which may stand anywhere
among the members of an object or at its position in an array (`AtField`), or one item of a list
(`AtIndex`). What is read from the one and from the other differs in what stands at that place and
in nothing else. So the reader can be followed to a place that lies deep in a document, one step at
a time, and what the value there is read as says whether the whole is read, and as what. The same
holds where a record gets a field that it has not got (`PutsField`).
-/

namespace CrudScaffold.Json

/-! ### Fields of arrays -/

/-- The items of an array as the members of an object, under the names of the fields. -/
def labelled (names : List String) (items : List Tree) : List (StringLiteral × Tree) :=
  List.zipWith (fun name t => (.ofString name, t)) names items

/-- The item at the position of a field is the member of its name. -/
lemma labelled_append_cons {names : List String} {name : String} {front back : List Tree}
    (hname : names[front.length]? = some name) (v : Tree) :
    labelled names (front ++ v :: back) =
      labelled names front ++
        (.ofString name, v) :: labelled (names.drop (front.length + 1)) back := by
  induction front generalizing names with
  | nil =>
    cases names with
    | nil => cases hname
    | cons n names =>
      obtain rfl : n = name := Option.some.inj hname
      rfl
  | cons t front ih =>
    cases names with
    | nil => cases hname
    | cons n names =>
      have hrest : labelled names (front ++ v :: back) = labelled names front ++
          (.ofString name, v) :: labelled (names.drop (front.length + 1)) back := ih hname
      unfold labelled at hrest ⊢
      rw [List.cons_append, List.zipWith_cons_cons, hrest]
      rfl

/-- The names of members that come from an array are those of the first fields. -/
lemma decode_ne_of_mem_labelled {names : List String} (hnames : names.Nodup) {name : String}
    {items : List Tree} (hname : names[items.length]? = some name) :
    ∀ m ∈ labelled names items, m.1.decode ≠ .ok name := by
  induction items generalizing names with
  | nil =>
    intro m hm
    unfold labelled at hm
    rw [List.zipWith_nil_right] at hm
    exact absurd hm List.not_mem_nil
  | cons t items ih =>
    cases names with
    | nil => cases hname
    | cons n names =>
      obtain ⟨hn, hnames⟩ := List.nodup_cons.mp hnames
      refine List.forall_mem_cons.mpr ⟨fun he => ?_, ih hnames hname⟩
      rw [StringLiteral.decode_ofString] at he
      obtain rfl := Except.ok.inj he
      exact hn (List.mem_of_getElem? hname)

namespace Record

variable {δ α : Type} {r : Record δ α} {slots : List (Slot δ)}

/-- Members are taken one after the other. -/
lemma readMembers_append_eq_ok_iff {d d' : δ} {ms ms' : List (StringLiteral × Tree)} :
    r.readMembers d (ms ++ ms') = .ok d' ↔
      ∃ d₁, r.readMembers d ms = .ok d₁ ∧ r.readMembers d₁ ms' = .ok d' := by
  induction ms generalizing d with
  | nil => simp [readMembers]
  | cons m ms ih =>
    rw [List.cons_append]
    simp only [r.readMembers_cons_eq_ok_iff, ih]
    constructor
    · rintro ⟨name, d₁, hname, hd₁, d₂, hd₂, hrest⟩
      exact ⟨d₂, ⟨name, d₁, hname, hd₁, hd₂⟩, hrest⟩
    · rintro ⟨d₂, ⟨name, d₁, hname, hd₁, hd₂⟩, hrest⟩
      exact ⟨name, d₁, hname, hd₁, d₂, hd₂, hrest⟩

/-- The items of an array are taken like the members that they stand for, if there are enough of
them and not too many. -/
lemma readItems_eq_ok_iff {i : Nat} {d d' : δ} {names : List String} {items : List Tree} :
    r.readItems none i d names items = .ok d' ↔
      r.readMembers d (labelled names items) = .ok d' ∧ items.length ≤ names.length ∧
        (items.length < names.length → r.needed ≤ i + items.length) := by
  induction items generalizing names i d with
  | nil =>
    cases names with
    | nil => exact ⟨fun h => ⟨h, Nat.le_refl 0, fun hlt => absurd hlt (Nat.lt_irrefl 0)⟩, And.left⟩
    | cons n names =>
      have hstop : r.readItems none i d (n :: names) [] =
          if i < r.needed then .error (.mismatch (.wrongLength i r.expectedLength)) else .ok d := by
        unfold readItems
        split_ifs <;> rfl
      rw [hstop]
      unfold labelled readMembers
      split_ifs with hneeded
      · refine ⟨fun h => (by cases h), fun h => ?_⟩
        have := h.2.2 (Nat.succ_pos _)
        exact absurd hneeded (by simpa using this)
      · refine ⟨fun h => ⟨h, Nat.zero_le _, fun _ => ?_⟩, And.left⟩
        rw [List.length_nil]
        omega
  | cons t items ih =>
    cases names with
    | nil => exact ⟨fun h => (by cases h), fun h => absurd h.2.1 (Nat.not_succ_le_zero _)⟩
    | cons n names =>
      have hstep : r.readItems none i d (n :: names) (t :: items) = .ok d' ↔
          ∃ d₁, r.member d n t = .ok d₁ ∧ r.readItems none (i + 1) d₁ names items = .ok d' :=
        bind_eq_ok_iff
      have hmembers : r.readMembers d (labelled (n :: names) (t :: items)) = .ok d' ↔
          ∃ d₁, r.member d n t = .ok d₁ ∧ r.readMembers d₁ (labelled names items) = .ok d' := by
        have hcons : labelled (n :: names) (t :: items) =
            (.ofString n, t) :: labelled names items := rfl
        rw [hcons, readMembers, StringLiteral.decode_ofString]
        change r.member d n t >>= (fun d => r.readMembers d (labelled names items)) = .ok d' ↔ _
        exact bind_eq_ok_iff
      have hsum : i + 1 + items.length = i + (items.length + 1) := by omega
      rw [hstep, hmembers]
      simp only [ih, List.length_cons, Nat.add_le_add_iff_right, Nat.add_lt_add_iff_right, hsum]
      constructor
      · rintro ⟨d₁, hd₁, hrest, hlength⟩
        exact ⟨⟨d₁, hd₁, hrest⟩, hlength⟩
      · rintro ⟨⟨d₁, hd₁, hrest⟩, hlength⟩
        exact ⟨d₁, hd₁, hrest, hlength⟩

/-- A record may be given as an array if it may be given as the object with the same fields. -/
lemma read_array_iff_object {items : List Tree} {a : α} :
    r.read (.array items none) = .ok a ↔
      r.read (.object (labelled r.fields items) none) = .ok a ∧ items.length ≤ r.fields.length ∧
        (items.length < r.fields.length → r.needed ≤ items.length) := by
  rw [r.read_array_eq_ok_iff, r.read_object_eq_ok_iff]
  simp only [readItems_eq_ok_iff, Nat.zero_add]
  constructor
  · rintro ⟨d, ⟨hd, hlength⟩, hfinish⟩
    exact ⟨⟨d, hd, trivial, hfinish⟩, hlength⟩
  · rintro ⟨⟨d, hd, -, hfinish⟩, hlength⟩
    exact ⟨d, ⟨hd, hlength⟩, hfinish⟩

end Record

/-! ### One field -/

/-- Two trees of a record that are the same but for the value of one field. The values are related
as they are told to be. -/
inductive AtField (fields : List String) (name : String) (R : Tree → Tree → Prop) :
    Tree → Tree → Prop
  | member {front back : List (StringLiteral × Tree)} {key : StringLiteral} {v v' : Tree}
      (hkey : key.decode = .ok name) (h : R v v') :
      AtField fields name R (.object (front ++ (key, v) :: back) none)
        (.object (front ++ (key, v') :: back) none)
  | item {front back : List Tree} {v v' : Tree} (hname : fields[front.length]? = some name)
      (h : R v v') :
      AtField fields name R (.array (front ++ v :: back) none) (.array (front ++ v' :: back) none)

/-- Puts a value as one field of a record: in the place of the value that the field has, as one more
member of an object, or as the next item of an array. -/
inductive PutsField (fields : List String) (name : String) (v : Tree) : Tree → Tree → Prop
  | replace {t t' : Tree} (h : AtField fields name (fun _ w => w = v) t t') :
      PutsField fields name v t t'
  | member {front back : List (StringLiteral × Tree)} {key : StringLiteral}
      (hkey : key.decode = .ok name) (hnew : ∀ m ∈ front ++ back, m.1.decode ≠ .ok name) :
      PutsField fields name v (.object (front ++ back) none)
        (.object (front ++ (key, v) :: back) none)
  | item {items : List Tree} (hname : fields[items.length]? = some name) :
      PutsField fields name v (.array items none) (.array (items ++ [v]) none)

namespace Record.Slotted

variable {δ α : Type} {r : Record δ α} {slots : List (Slot δ)} {s : Slot δ} {a : α}

/-- Of a field that no member names nothing becomes known. -/
lemma get_of_readMembers (h : r.Slotted slots) (hs : s ∈ slots)
    {ms : List (StringLiteral × Tree)} (hms : ∀ m ∈ ms, m.1.decode ≠ .ok s.name) {d d' : δ}
    (hd : r.readMembers d ms = .ok d') : s.get d' = s.get d := by
  induction ms generalizing d with
  | nil =>
    cases hd
    rfl
  | cons m ms ih =>
    obtain ⟨hm, hms⟩ := List.forall_mem_cons.mp hms
    obtain ⟨name, d₁, hname, hmember, hrest⟩ := r.readMembers_cons_eq_ok_iff.mp hd
    rw [ih hms hrest]
    by_cases hfield : name ∈ r.fields
    · obtain ⟨s', hs', rfl⟩ := h.exists_slot hfield
      obtain ⟨-, x, -, rfl⟩ := (h.member_eq_ok_iff hs').mp hmember
      have hne : s ≠ s' := by
        rintro rfl
        exact hm (liftFault_eq_ok_iff.mp hname)
      obtain ⟨hget, -, -⟩ : s.Apart s' := h.apart.forall hs hs' hne
      exact hget d (some x)
    · obtain ⟨-, rfl⟩ := (h.skipped_eq_ok_iff hfield).mp hmember
      rfl

/-- A field may stand anywhere among the members of an object: everything else can be read before
it, and the field has to be empty then. -/
lemma read_member_iff (h : r.Slotted slots) (hs : s ∈ slots)
    {front back : List (StringLiteral × Tree)} {key : StringLiteral}
    (hkey : key.decode = .ok s.name) {v : Tree} :
    r.read (.object (front ++ (key, v) :: back) none) = .ok a ↔
      ∃ d x, r.readMembers r.blank (front ++ back) = .ok d ∧ s.get d = none ∧
        s.read v = .ok x ∧ r.finish (s.set d (some x)) = .ok a := by
  have hperm : (front ++ (key, v) :: back).Perm (front ++ back ++ [(key, v)]) :=
    List.perm_middle.trans (List.perm_append_singleton _ _).symm
  have hlast : ∀ d d', r.readMembers d [(key, v)] = .ok d' ↔
      s.get d = none ∧ ∃ x, s.read v = .ok x ∧ s.set d (some x) = d' := by
    intro d d'
    rw [← h.member_eq_ok_iff hs, r.readMembers_cons_eq_ok_iff]
    constructor
    · rintro ⟨name, d₁, hname, hmember, hnil⟩
      rw [liftFault_eq_ok_iff, hkey] at hname
      cases hname
      cases hnil
      exact hmember
    · intro hmember
      exact ⟨s.name, d', liftFault_eq_ok_iff.mpr hkey, hmember, rfl⟩
  rw [r.read_object_eq_ok_iff]
  constructor
  · rintro ⟨d', hd', -, hfinish⟩
    obtain ⟨d, hd, hfield⟩ := readMembers_append_eq_ok_iff.mp (h.readMembers_perm hperm hd')
    obtain ⟨hget, x, hx, rfl⟩ := (hlast d d').mp hfield
    exact ⟨d, x, hd, hget, hx, hfinish⟩
  · rintro ⟨d, x, hd, hget, hx, hfinish⟩
    have hfield := (hlast d _).mpr ⟨hget, x, hx, rfl⟩
    refine ⟨_, h.readMembers_perm hperm.symm ?_, rfl, hfinish⟩
    exact readMembers_append_eq_ok_iff.mpr ⟨d, hd, hfield⟩

/-- An object that differs in the value of one member is read if this value is, and the draft is the
same but for the field. -/
lemma read_otherValue (h : r.Slotted slots) (hs : s ∈ slots)
    {front back : List (StringLiteral × Tree)} {key : StringLiteral}
    (hkey : key.decode = .ok s.name) {v : Tree}
    (ha : r.read (.object (front ++ (key, v) :: back) none) = .ok a) (v' : Tree) :
    ∃ d x, s.read v = .ok x ∧ r.finish (s.set d (some x)) = .ok a ∧
      ∀ a', r.read (.object (front ++ (key, v') :: back) none) = .ok a' ↔
        ∃ x', s.read v' = .ok x' ∧ r.finish (s.set d (some x')) = .ok a' := by
  obtain ⟨d, x, hd, hget, hx, hfinish⟩ := (h.read_member_iff hs hkey).mp ha
  refine ⟨d, x, hx, hfinish, fun a' => ?_⟩
  rw [h.read_member_iff hs hkey]
  constructor
  · rintro ⟨d', x', hd', -, hx', hfinish'⟩
    obtain rfl : d = d' := Except.ok.inj (hd.symm.trans hd')
    exact ⟨x', hx', hfinish'⟩
  · rintro ⟨x', hx', hfinish'⟩
    exact ⟨d, x', hd, hget, hx', hfinish'⟩

/-- A record that differs in one field is read if the value of this field is, and the draft is the
same but for the field. -/
lemma read_atField (h : r.Slotted slots) (hs : s ∈ slots) {R : Tree → Tree → Prop} {t t' : Tree}
    (ht : AtField r.fields s.name R t t') (ha : r.read t = .ok a) :
    ∃ v v' d x, R v v' ∧ s.read v = .ok x ∧ r.finish (s.set d (some x)) = .ok a ∧
      ∀ a', r.read t' = .ok a' ↔
        ∃ x', s.read v' = .ok x' ∧ r.finish (s.set d (some x')) = .ok a' := by
  cases ht with
  | @member front back key v v' hkey hR =>
    obtain ⟨d, x, hx, hfinish, hread⟩ := h.read_otherValue hs hkey ha v'
    exact ⟨v, v', d, x, hR, hx, hfinish, hread⟩
  | @item front back v v' hname hR =>
    -- the items are members under the names of the fields
    obtain ⟨hmembers, hlength⟩ := r.read_array_iff_object.mp ha
    rw [labelled_append_cons hname] at hmembers
    obtain ⟨d, x, hx, hfinish, hread⟩ :=
      h.read_otherValue hs (StringLiteral.decode_ofString s.name) hmembers v'
    refine ⟨v, v', d, x, hR, hx, hfinish, fun a' => ?_⟩
    rw [← hread, r.read_array_iff_object, labelled_append_cons hname]
    rw [List.length_append, List.length_cons] at hlength ⊢
    exact and_iff_left hlength

/-- A record that has not got a field is read with the field if the value of the field is. -/
lemma read_newMember (h : r.Slotted slots) (hs : s ∈ slots) (hblank : s.get r.blank = none)
    {front back : List (StringLiteral × Tree)} {key : StringLiteral}
    (hkey : key.decode = .ok s.name) (hnew : ∀ m ∈ front ++ back, m.1.decode ≠ .ok s.name)
    (ha : r.read (.object (front ++ back) none) = .ok a) :
    ∃ d, s.get d = none ∧ r.finish d = .ok a ∧
      ∀ v a', r.read (.object (front ++ (key, v) :: back) none) = .ok a' ↔
        ∃ x, s.read v = .ok x ∧ r.finish (s.set d (some x)) = .ok a' := by
  obtain ⟨d, hd, -, hfinish⟩ := r.read_object_eq_ok_iff.mp ha
  have hget : s.get d = none := (h.get_of_readMembers hs hnew hd).trans hblank
  refine ⟨d, hget, hfinish, fun v a' => ?_⟩
  rw [h.read_member_iff hs hkey]
  constructor
  · rintro ⟨d', x, hd', -, hx, hfinish'⟩
    obtain rfl : d = d' := Except.ok.inj (hd.symm.trans hd')
    exact ⟨x, hx, hfinish'⟩
  · rintro ⟨x, hx, hfinish'⟩
    exact ⟨d, x, hd, hget, hx, hfinish'⟩

/-- So is an array with one more item. -/
lemma read_newItem (h : r.Slotted slots) (hs : s ∈ slots) (hblank : s.get r.blank = none)
    {items : List Tree} (hname : r.fields[items.length]? = some s.name)
    (ha : r.read (.array items none) = .ok a) :
    ∃ d, s.get d = none ∧ r.finish d = .ok a ∧
      ∀ v a', r.read (.array (items ++ [v]) none) = .ok a' ↔
        ∃ x, s.read v = .ok x ∧ r.finish (s.set d (some x)) = .ok a' := by
  obtain ⟨hmembers, -, hneeded⟩ := r.read_array_iff_object.mp ha
  have hlt : items.length < r.fields.length := (List.getElem?_eq_some_iff.mp hname).1
  have hlabelled : ∀ v, labelled r.fields (items ++ [v]) =
      labelled r.fields items ++ [(.ofString s.name, v)] := by
    intro v
    rw [labelled_append_cons hname, labelled, labelled, List.zipWith_nil_right]
  have hnew := decode_ne_of_mem_labelled h.nodup hname
  rw [← List.append_nil (labelled r.fields items)] at hmembers hnew
  obtain ⟨d, hget, hfinish, hread⟩ :=
    h.read_newMember hs hblank (StringLiteral.decode_ofString s.name) hnew hmembers
  refine ⟨d, hget, hfinish, fun v a' => ?_⟩
  rw [← hread, r.read_array_iff_object, hlabelled, List.length_append, List.length_singleton]
  refine and_iff_left ⟨by omega, fun _ => ?_⟩
  have := hneeded hlt
  omega

/-- A record into which a field has been put is read if the value of the field is. -/
lemma read_putsField (h : r.Slotted slots) (hs : s ∈ slots) (hblank : s.get r.blank = none)
    {v t t' : Tree} (ht : PutsField r.fields s.name v t t') (ha : r.read t = .ok a) :
    ∃ d, (r.finish d = .ok a ∨ ∃ x, r.finish (s.set d (some x)) = .ok a) ∧
      ∀ a', r.read t' = .ok a' ↔
        ∃ x, s.read v = .ok x ∧ r.finish (s.set d (some x)) = .ok a' := by
  cases ht with
  | replace hput =>
    obtain ⟨_, w, d, x, rfl, -, hfinish, hread⟩ := h.read_atField hs hput ha
    exact ⟨d, .inr ⟨x, hfinish⟩, hread⟩
  | member hkey hnew =>
    obtain ⟨d, -, hfinish, hread⟩ := h.read_newMember hs hblank hkey hnew ha
    exact ⟨d, .inl hfinish, hread v⟩
  | item hname =>
    obtain ⟨d, -, hfinish, hread⟩ := h.read_newItem hs hblank hname ha
    exact ⟨d, .inl hfinish, hread v⟩

end Record.Slotted

/-! ### One item -/

/-- Two lists that are the same but for the item at one position. The items are related as they are
told to be. -/
inductive AtIndex (i : Nat) (R : Tree → Tree → Prop) : Tree → Tree → Prop
  | intro {before after : List Tree} {v v' : Tree} (hi : before.length = i) (h : R v v') :
      AtIndex i R (.array (before ++ v :: after) none) (.array (before ++ v' :: after) none)

/-- As many values are read as there are items. -/
lemma length_of_mapM_eq_ok {α : Type} {read : Tree → Except Error α} {items : List Tree}
    {l : List α} (h : items.mapM read = .ok l) : l.length = items.length := by
  induction items generalizing l with
  | nil =>
    cases h
    rfl
  | cons t items ih =>
    rw [List.mapM_cons] at h
    obtain ⟨a, -, hrest⟩ := bind_eq_ok_iff.mp h
    obtain ⟨more, hmore, hl⟩ := bind_eq_ok_iff.mp hrest
    cases hl
    rw [List.length_cons, List.length_cons, ih hmore]

/-- A list is read if what stands before an item is, the item, and what stands behind it. -/
lemma readList_append_cons_iff {α : Type} {read : Tree → Except Error α} {before after : List Tree}
    {v : Tree} {l : List α} :
    readList read (.array (before ++ v :: after) none) = .ok l ↔
      ∃ xs x ys, before.mapM read = .ok xs ∧ read v = .ok x ∧ after.mapM read = .ok ys ∧
        l = xs ++ x :: ys := by
  have hlist : readList read (.array (before ++ v :: after) none) = .ok l ↔
      (before ++ v :: after).mapM read = .ok l := by
    refine bind_eq_ok_iff.trans ⟨?_, fun h => ⟨l, h, rfl⟩⟩
    rintro ⟨values, hvalues, h⟩
    cases h
    exact hvalues
  rw [hlist, List.mapM_append, List.mapM_cons]
  simp only [bind_eq_ok_iff]
  constructor
  · rintro ⟨xs, hxs, _, ⟨x, hx, ys, hys, hcons⟩, hl⟩
    cases hcons
    cases hl
    exact ⟨xs, x, ys, hxs, hx, hys, rfl⟩
  · rintro ⟨xs, x, ys, hxs, hx, hys, rfl⟩
    exact ⟨xs, hxs, x :: ys, ⟨x, hx, ys, hys, rfl⟩, rfl⟩

/-- A list that differs in one item is read if this item is, and differs in it. -/
lemma readList_atIndex {α : Type} {read : Tree → Except Error α} {i : Nat}
    {R : Tree → Tree → Prop} {t t' : Tree} (ht : AtIndex i R t t') {l : List α}
    (hl : readList read t = .ok l) :
    ∃ v v' x, R v v' ∧ l[i]? = some x ∧ read v = .ok x ∧
      ∀ l', readList read t' = .ok l' ↔ ∃ x', read v' = .ok x' ∧ l' = l.set i x' := by
  obtain ⟨hi, hR⟩ := ht
  obtain ⟨xs, x, ys, hxs, hx, hys, rfl⟩ := readList_append_cons_iff.mp hl
  have hlength : xs.length = i := (length_of_mapM_eq_ok hxs).trans hi
  have hset : ∀ x', (xs ++ x :: ys).set i x' = xs ++ x' :: ys := by
    intro x'
    rw [← hlength, List.set_append_right _ _ (Nat.le_refl _), Nat.sub_self, List.set_cons_zero]
  refine ⟨_, _, x, hR, ?_, hx, fun l' => ?_⟩
  · rw [← hlength, List.getElem?_append_right (Nat.le_refl _), Nat.sub_self]
    rfl
  · rw [readList_append_cons_iff]
    constructor
    · rintro ⟨xs', x', ys', hxs', hx', hys', rfl⟩
      obtain rfl : xs = xs' := Except.ok.inj (hxs.symm.trans hxs')
      obtain rfl : ys = ys' := Except.ok.inj (hys.symm.trans hys')
      exact ⟨x', hx', (hset x').symm⟩
    · rintro ⟨x', hx', rfl⟩
      exact ⟨xs, x', ys, hxs, hx', hys, hset x'⟩

/-- A record that differs in one item of a list among its fields is read if this item is, and
differs in it. Which list of the record this is, and how another is put in its place, says
`hfinish`. -/
lemma Record.Slotted.read_atItem {δ α β : Type} {r : Record δ α} {slots : List (Slot δ)}
    (h : r.Slotted slots) {name : String} {get : δ → Option (List β)}
    {set : δ → Option (List β) → δ} {read : Tree → Except Error β}
    (hs : ⟨name, List β, get, set, readList read⟩ ∈ slots) {list : α → List β}
    {withList : α → List β → α}
    (hfinish : ∀ {d l a}, r.finish (set d (some l)) = .ok a →
      list a = l ∧ ∀ l', r.finish (set d (some l')) = .ok (withList a l'))
    {i : Nat} {R : Tree → Tree → Prop} {t t' : Tree}
    (ht : AtField r.fields name (AtIndex i R) t t') {a : α} (ha : r.read t = .ok a) :
    ∃ v v' x, R v v' ∧ (list a)[i]? = some x ∧ read v = .ok x ∧
      ∀ a', r.read t' = .ok a' ↔ ∃ x', read v' = .ok x' ∧ a' = withList a ((list a).set i x') := by
  obtain ⟨u, u', d, l, hlist, hl, hd, hread⟩ := h.read_atField hs ht ha
  obtain ⟨v, v', x, hR, hx, hv, hitems⟩ := readList_atIndex hlist hl
  obtain ⟨rfl, hwith⟩ := hfinish hd
  refine ⟨v, v', x, hR, hx, hv, fun a' => (hread a').trans ?_⟩
  constructor
  · rintro ⟨l', hl', ha'⟩
    obtain ⟨x', hx', rfl⟩ := (hitems l').mp hl'
    exact ⟨x', hx', Except.ok.inj (ha'.symm.trans (hwith _))⟩
  · rintro ⟨x', hx', rfl⟩
    exact ⟨_, (hitems _).mpr ⟨x', hx', rfl⟩, hwith _⟩

end CrudScaffold.Json
