import Mathlib.Data.List.Pairwise
import Mathlib.Tactic.Lemma
import CrudScaffold.Json.Reader
import CrudScaffold.Proofs.Json.Parser

/-!
# Records and the order of their members

Every field of a record goes into a slot of the draft that belongs to this field alone, and members
that are no field are skipped (`Record.Slotted`). From this follows what the reader of a record does
not see: the order of the members (`readMembers_perm`), members that it does not know
(`readMembers_insert`), and whether the fields come as members or as the items of an array in their
declared order (`readItems_of_readMembers`). A value that has been read is well formed to its end,
so nothing is accepted that the grammar of documents does not have.
-/

namespace CrudScaffold.Json

/-! ### Success of a step -/

/-- Two steps after each other succeed if both do. -/
lemma bind_eq_ok_iff {α β : Type} {x : Except Error α} {f : α → Except Error β} {b : β} :
    x >>= f = .ok b ↔ ∃ a, x = .ok a ∧ f a = .ok b := by
  cases x with
  | error e => simp [bind, Except.bind]
  | ok a => simp [bind, Except.bind]

/-- A step whose result is changed succeeds if the step does. -/
lemma map_eq_ok_iff {α β : Type} {x : Except Error α} {f : α → β} {b : β} :
    x.map f = .ok b ↔ ∃ a, x = .ok a ∧ f a = b := by
  cases x with
  | error e => simp [Except.map]
  | ok a => simp [Except.map]

/-- A lexical step succeeds as it does by itself. -/
lemma liftFault_eq_ok_iff {α : Type} {x : Except Fault α} {a : α} :
    liftFault x = .ok a ↔ x = .ok a := by
  unfold liftFault
  cases x <;> simp [Except.mapError]

/-- No fault is raised where there is none. -/
lemma raise_eq_ok_iff {fault : Option Fault} {u : Unit} :
    Fault.raise fault = .ok u ↔ fault = none := by
  cases fault <;> simp [Fault.raise]

@[simp] lemma skip_eq_ok_iff {t : Tree} {u : Unit} : skip t = .ok u ↔ t.Complete := raise_eq_ok_iff

/-! ### What has been read is complete -/

/-- A literal that has not been closed has no text. -/
lemma decodePieces_some (f : Fault) (pieces : List Piece) :
    ∃ e, StringLiteral.decodePieces (some f) pieces = .error e := by
  generalize hfault : some f = fault
  fun_induction StringLiteral.decodePieces fault pieces with
  | case1 hnone =>
    cases hfault
    cases hnone
  | case3 c rest ih | case4 high low rest _ ih =>
    obtain ⟨e, he⟩ := ih
    exact ⟨e, by rw [he]; rfl⟩
  | _ => exact ⟨_, rfl⟩

/-- A literal that has a text has been closed. -/
lemma fault_eq_none_of_decode {s : StringLiteral} {text : String}
    (h : liftFault s.decode = .ok text) : s.fault = none := by
  cases hfault : s.fault with
  | none => rfl
  | some f =>
    obtain ⟨e, he⟩ := decodePieces_some f s.pieces
    rw [liftFault, StringLiteral.decode, hfault, he] at h
    cases h

/-- A text that has been read is complete. -/
lemma complete_of_readString {t : Tree} {s : String} (h : readString t = .ok s) : t.Complete := by
  unfold readString at h
  split at h
  · exact fault_eq_none_of_decode h
  · cases h

/-- A truth value that has been read is complete. -/
lemma complete_of_readBool {t : Tree} {b : Bool} (h : readBool t = .ok b) : t.Complete := by
  unfold readBool at h
  split at h
  · rfl
  · cases h

/-- A number that has been read is complete. -/
lemma complete_of_readNat32 {t : Tree} {n : Nat} (h : readNat32 t = .ok n) : t.Complete := by
  unfold readNat32 at h
  split at h
  · obtain ⟨value, hvalue, -⟩ := bind_eq_ok_iff.mp h
    unfold numberValue at hvalue
    split at hvalue
    · cases hvalue
    · rfl
  · cases h

/-- An option that has been read is complete if what may be missing is. -/
lemma complete_of_readOption {α : Type} {read : Tree → Except Error α} {t : Tree} {o : Option α}
    (hread : ∀ a, read t = .ok a → t.Complete) (h : readOption read t = .ok o) : t.Complete := by
  unfold readOption at h
  split at h
  · rfl
  · obtain ⟨a, ha, -⟩ := map_eq_ok_iff.mp h
    exact hread a ha

/-- A name that has been read is complete. -/
lemma complete_of_readName {α : Type} {ofName : String → α} {t : Tree} {a : α}
    (h : readName ofName t = .ok a) : t.Complete := by
  unfold readName at h
  split at h
  · obtain ⟨name, hname, -⟩ := bind_eq_ok_iff.mp h
    exact fault_eq_none_of_decode hname
  · cases h
  · rename_i key value more fault
    obtain ⟨name, hname, h⟩ := bind_eq_ok_iff.mp h
    have hkey := fault_eq_none_of_decode hname
    cases more with
    | cons m more => cases value <;> cases h
    | nil =>
      cases value with
      | null =>
        obtain ⟨u, hfault, -⟩ := bind_eq_ok_iff.mp h
        refine Tree.complete_object.mpr ⟨?_, raise_eq_ok_iff.mp hfault⟩
        exact List.forall_mem_singleton.mpr ⟨hkey, rfl⟩
      | _ => cases h
  · cases h
  · cases h
  · cases h

/-- Items that have been read are complete if each of them is. -/
lemma complete_of_readList {α : Type} {read : Tree → Except Error α} {t : Tree} {l : List α}
    (hread : ∀ t a, read t = .ok a → t.Complete) (h : readList read t = .ok l) : t.Complete := by
  have hitems : ∀ (items : List Tree) (values : List α), items.mapM read = .ok values →
      ∀ t ∈ items, t.Complete := by
    intro items
    induction items with
    | nil => exact fun _ _ => nofun
    | cons t items ih =>
      intro values hvalues
      rw [List.mapM_cons] at hvalues
      obtain ⟨a, ha, hrest⟩ := bind_eq_ok_iff.mp hvalues
      obtain ⟨more, hmore, -⟩ := bind_eq_ok_iff.mp hrest
      exact List.forall_mem_cons.mpr ⟨hread t a ha, ih more hmore⟩
  unfold readList at h
  split at h
  · obtain ⟨values, hvalues, hrest⟩ := bind_eq_ok_iff.mp h
    obtain ⟨u, hfault, -⟩ := bind_eq_ok_iff.mp hrest
    exact Tree.complete_array.mpr ⟨hitems _ values hvalues, raise_eq_ok_iff.mp hfault⟩
  · cases h

/-! ### Slots -/

/-- A field of a record: its name, where it stands in a draft, and how it is read. -/
structure Slot (δ : Type) where
  name : String
  Content : Type
  get : δ → Option Content
  set : δ → Option Content → δ
  read : Tree → Except Error Content

/-- Two slots do not share anything. -/
def Slot.Apart {δ : Type} (s s' : Slot δ) : Prop :=
  (∀ d x, s.get (s'.set d x) = s.get d) ∧ (∀ d x, s'.get (s.set d x) = s'.get d) ∧
    ∀ d x x', s.set (s'.set d x') x = s'.set (s.set d x) x'

instance Slot.symm_apart {δ : Type} : Std.Symm (Slot.Apart (δ := δ)) where
  symm _ _ h := ⟨h.2.1, h.1, fun d x x' => (h.2.2 d x' x).symm⟩

namespace Record

variable {δ α : Type} (r : Record δ α)

/-- The fields of a record have slots of their own, in the declared order, and other members are
skipped. -/
structure Slotted (slots : List (Slot δ)) : Prop where
  fields : r.fields = slots.map (·.name)
  nodup : r.fields.Nodup
  apart : slots.Pairwise Slot.Apart
  get_set : ∀ s ∈ slots, ∀ d x, s.get (s.set d x) = x
  complete : ∀ s ∈ slots, ∀ t x, s.read t = .ok x → t.Complete
  member : ∀ s ∈ slots, ∀ d t,
    r.member d s.name t = (once s.name (s.get d) (s.read t)).map (s.set d)
  skipped : ∀ d name t, name ∉ r.fields → r.member d name t = (skip t).map fun _ => d

/-- Members are taken into the draft one by one. -/
lemma readMembers_cons_eq_ok_iff {d d' : δ} {key : StringLiteral} {t : Tree}
    {ms : List (StringLiteral × Tree)} :
    r.readMembers d ((key, t) :: ms) = .ok d' ↔
      ∃ name d₁, liftFault key.decode = .ok name ∧ r.member d name t = .ok d₁ ∧
        r.readMembers d₁ ms = .ok d' := by
  simp only [readMembers, bind_eq_ok_iff]
  constructor
  · rintro ⟨name, hname, d₁, hmember, hrest⟩
    exact ⟨name, d₁, hname, hmember, hrest⟩
  · rintro ⟨name, d₁, hname, hmember, hrest⟩
    exact ⟨name, hname, d₁, hmember, hrest⟩

/-- A record is what its draft becomes if its object has been closed. -/
lemma read_object_eq_ok_iff {ms : List (StringLiteral × Tree)} {fault : Option Fault} {a : α} :
    r.read (.object ms fault) = .ok a ↔
      ∃ d, r.readMembers r.blank ms = .ok d ∧ fault = none ∧ r.finish d = .ok a := by
  simp only [read, bind_eq_ok_iff, raise_eq_ok_iff]
  constructor
  · rintro ⟨d, hd, u, hfault, hfinish⟩
    exact ⟨d, hd, hfault, hfinish⟩
  · rintro ⟨d, hd, hfault, hfinish⟩
    exact ⟨d, hd, (), hfault, hfinish⟩

@[simp] lemma read_array_eq_ok_iff {items : List Tree} {fault : Option Fault} {a : α} :
    r.read (.array items fault) = .ok a ↔
      ∃ d, r.readItems fault 0 r.blank r.fields items = .ok d ∧ r.finish d = .ok a :=
  bind_eq_ok_iff

variable {r} {slots : List (Slot δ)}

namespace Slotted

/-- A member that is a field goes into the slot of the field, which has to be empty. -/
lemma member_eq_ok_iff (h : r.Slotted slots) {s : Slot δ} (hs : s ∈ slots) {d d' : δ} {t : Tree} :
    r.member d s.name t = .ok d' ↔
      s.get d = none ∧ ∃ x, s.read t = .ok x ∧ s.set d (some x) = d' := by
  rw [h.member s hs, map_eq_ok_iff, once]
  cases hget : s.get d with
  | none =>
    simp only [Option.isSome_none, Bool.false_eq_true, if_false, map_eq_ok_iff, true_and]
    constructor
    · rintro ⟨_, ⟨x, hx, rfl⟩, hset⟩
      exact ⟨x, hx, hset⟩
    · rintro ⟨x, hx, hset⟩
      exact ⟨_, ⟨x, hx, rfl⟩, hset⟩
  | some y => simp

/-- A member that is no field is skipped. -/
lemma skipped_eq_ok_iff (h : r.Slotted slots) {name : String} (hname : name ∉ r.fields) {d d' : δ}
    {t : Tree} : r.member d name t = .ok d' ↔ t.Complete ∧ d = d' := by
  rw [h.skipped d name t hname, map_eq_ok_iff]
  simp only [skip_eq_ok_iff, exists_const]

/-- Every field has a slot. -/
lemma exists_slot (h : r.Slotted slots) {name : String} (hname : name ∈ r.fields) :
    ∃ s ∈ slots, s.name = name := by
  rw [h.fields] at hname
  exact List.mem_map.mp hname

/-- A member is complete if it has been taken. -/
lemma complete_of_member (h : r.Slotted slots) {name : String} {d d' : δ} {t : Tree}
    (hmember : r.member d name t = .ok d') : t.Complete := by
  by_cases hname : name ∈ r.fields
  · obtain ⟨s, hs, rfl⟩ := h.exists_slot hname
    obtain ⟨-, x, hx, -⟩ := (h.member_eq_ok_iff hs).mp hmember
    exact h.complete s hs t x hx
  · exact ((h.skipped_eq_ok_iff hname).mp hmember).1

/-- Two members can be taken in the other order. -/
lemma member_swap (h : r.Slotted slots) {a b : String} {t u : Tree} {d d₁ d₂ : δ}
    (ha : r.member d a t = .ok d₁) (hb : r.member d₁ b u = .ok d₂) :
    ∃ d₁', r.member d b u = .ok d₁' ∧ r.member d₁' a t = .ok d₂ := by
  by_cases hafield : a ∈ r.fields
  · by_cases hbfield : b ∈ r.fields
    · obtain ⟨s, hs, rfl⟩ := h.exists_slot hafield
      obtain ⟨s', hs', rfl⟩ := h.exists_slot hbfield
      obtain ⟨hempty, x, hx, rfl⟩ := (h.member_eq_ok_iff hs).mp ha
      obtain ⟨hempty', y, hy, rfl⟩ := (h.member_eq_ok_iff hs').mp hb
      have hne : s ≠ s' := by
        rintro rfl
        rw [h.get_set s hs] at hempty'
        cases hempty'
      obtain ⟨hget, hget', hset⟩ : s.Apart s' :=
        h.apart.forall hs hs' hne
      rw [hget'] at hempty'
      refine ⟨s'.set d (some y), (h.member_eq_ok_iff hs').mpr ⟨hempty', y, hy, rfl⟩, ?_⟩
      exact (h.member_eq_ok_iff hs).mpr ⟨by rw [hget]; exact hempty, x, hx, hset _ _ _⟩
    · obtain ⟨hu, rfl⟩ := (h.skipped_eq_ok_iff hbfield).mp hb
      exact ⟨d, (h.skipped_eq_ok_iff hbfield).mpr ⟨hu, rfl⟩, ha⟩
  · obtain ⟨ht, rfl⟩ := (h.skipped_eq_ok_iff hafield).mp ha
    exact ⟨d₂, hb, (h.skipped_eq_ok_iff hafield).mpr ⟨ht, rfl⟩⟩

/-- The order of members does not matter. -/
lemma readMembers_perm (h : r.Slotted slots) {ms ms' : List (StringLiteral × Tree)}
    (hperm : ms.Perm ms') : ∀ {d d' : δ}, r.readMembers d ms = .ok d' →
      r.readMembers d ms' = .ok d' := by
  induction hperm with
  | nil => exact id
  | cons m _ ih =>
    intro d d' hd
    obtain ⟨name, d₁, hname, hmember, hrest⟩ := r.readMembers_cons_eq_ok_iff.mp hd
    exact r.readMembers_cons_eq_ok_iff.mpr ⟨name, d₁, hname, hmember, ih hrest⟩
  | swap m m' ms =>
    intro d d' hd
    obtain ⟨b, d₁, hb, hmember, hd⟩ := r.readMembers_cons_eq_ok_iff.mp hd
    obtain ⟨a, d₂, ha, hmember', hd⟩ := r.readMembers_cons_eq_ok_iff.mp hd
    obtain ⟨d₁', hswap, hswap'⟩ := h.member_swap hmember hmember'
    refine r.readMembers_cons_eq_ok_iff.mpr ⟨a, d₁', ha, hswap, ?_⟩
    exact r.readMembers_cons_eq_ok_iff.mpr ⟨b, d₂, hb, hswap', hd⟩
  | trans _ _ ih ih' => exact fun hd => ih' (ih hd)

/-- A complete member that is no field may be added anywhere. -/
lemma readMembers_insert (h : r.Slotted slots) {front back : List (StringLiteral × Tree)}
    {key : StringLiteral} {name : String} {t : Tree} {d d' : δ}
    (hkey : liftFault key.decode = .ok name) (hname : name ∉ r.fields) (ht : t.Complete)
    (hd : r.readMembers d (front ++ back) = .ok d') :
    r.readMembers d (front ++ (key, t) :: back) = .ok d' := by
  refine h.readMembers_perm List.perm_middle.symm ?_
  refine r.readMembers_cons_eq_ok_iff.mpr ⟨name, d, hkey, ?_, hd⟩
  exact (h.skipped_eq_ok_iff hname).mpr ⟨ht, rfl⟩

/-- A member may be replaced by one that is taken in the same way. -/
lemma readMembers_replace (h : r.Slotted slots) {front back : List (StringLiteral × Tree)}
    {key : StringLiteral} {name : String} {t t' : Tree} {d d' : δ}
    (hkey : liftFault key.decode = .ok name)
    (hmember : ∀ d d', r.member d name t = .ok d' → r.member d name t' = .ok d')
    (hd : r.readMembers d (front ++ (key, t) :: back) = .ok d') :
    r.readMembers d (front ++ (key, t') :: back) = .ok d' := by
  refine h.readMembers_perm List.perm_middle.symm ?_
  obtain ⟨name', d₁, hname', hd₁, hrest⟩ :=
    r.readMembers_cons_eq_ok_iff.mp (h.readMembers_perm List.perm_middle hd)
  obtain rfl : name = name' := Except.ok.inj (hkey.symm.trans hname')
  exact r.readMembers_cons_eq_ok_iff.mpr ⟨name, d₁, hkey, hmember _ _ hd₁, hrest⟩

end Slotted

/-- Members that are the fields in their declared order may be given as an array. -/
lemma readItems_of_readMembers {ms : List (StringLiteral × Tree)} {names : List String} {i : Nat}
    {d d' : δ} (hnames : List.Forall₂ (fun m name => liftFault m.1.decode = .ok name) ms names)
    (hd : r.readMembers d ms = .ok d') :
    r.readItems none i d names (ms.map (·.2)) = .ok d' := by
  induction hnames generalizing i d with
  | nil => exact hd
  | @cons m name ms names hname _ ih =>
    obtain ⟨name', d₁, hname', hmember, hrest⟩ := r.readMembers_cons_eq_ok_iff.mp hd
    obtain rfl : name = name' := Except.ok.inj (hname.symm.trans hname')
    exact bind_eq_ok_iff.mpr ⟨d₁, hmember, ih hrest⟩

/-- An item of an array may be replaced by one that is taken in the same way. -/
lemma readItems_replace {fault : Option Fault} {names : List String} {name : String} {t t' : Tree}
    (hmember : ∀ d d', r.member d name t = .ok d' → r.member d name t' = .ok d')
    {front back : List Tree} (hname : names[front.length]? = some name) {i : Nat} {d d' : δ}
    (hd : r.readItems fault i d names (front ++ t :: back) = .ok d') :
    r.readItems fault i d names (front ++ t' :: back) = .ok d' := by
  induction front generalizing names i d with
  | nil =>
    cases names with
    | nil => cases hname
    | cons n names =>
      obtain rfl : n = name := Option.some.inj hname
      obtain ⟨d₁, hd₁, hrest⟩ := bind_eq_ok_iff.mp hd
      exact bind_eq_ok_iff.mpr ⟨d₁, hmember _ _ hd₁, hrest⟩
  | cons u front ih =>
    cases names with
    | nil => cases hd
    | cons n names =>
      obtain ⟨d₁, hd₁, hrest⟩ := bind_eq_ok_iff.mp hd
      exact bind_eq_ok_iff.mpr ⟨d₁, hd₁, ih hname hrest⟩

/-- A record that has been read is complete. -/
lemma Slotted.complete_of_read (h : r.Slotted slots) {t : Tree} {a : α} (ha : r.read t = .ok a) :
    t.Complete := by
  have hmembers : ∀ {ms : List (StringLiteral × Tree)} {d d' : δ}, r.readMembers d ms = .ok d' →
      ∀ m ∈ ms, m.1.fault = none ∧ m.2.Complete := by
    intro ms
    induction ms with
    | nil => exact fun _ => nofun
    | cons m ms ih =>
      intro d d' hd
      obtain ⟨name, d₁, hname, hmember, hrest⟩ := r.readMembers_cons_eq_ok_iff.mp hd
      exact List.forall_mem_cons.mpr
        ⟨⟨fault_eq_none_of_decode hname, h.complete_of_member hmember⟩, ih hrest⟩
  have hitems : ∀ {items : List Tree} {names : List String} {i : Nat} {fault : Option Fault}
      {d d' : δ}, r.readItems fault i d names items = .ok d' →
        (∀ t ∈ items, t.Complete) ∧ fault = none := by
    intro items
    induction items with
    | nil =>
      intro names i fault d d' hd
      refine ⟨nofun, ?_⟩
      cases names with
      | nil =>
        obtain ⟨u, hfault, -⟩ := bind_eq_ok_iff.mp hd
        exact raise_eq_ok_iff.mp hfault
      | cons name names =>
        obtain ⟨u, hfault, -⟩ := bind_eq_ok_iff.mp hd
        exact raise_eq_ok_iff.mp hfault
    | cons t items ih =>
      intro names i fault d d' hd
      cases names with
      | nil => cases hd
      | cons name names =>
        obtain ⟨d₁, hmember, hrest⟩ := bind_eq_ok_iff.mp hd
        obtain ⟨hitems, hfault⟩ := ih hrest
        exact ⟨List.forall_mem_cons.mpr ⟨h.complete_of_member hmember, hitems⟩, hfault⟩
  unfold read at ha
  split at ha
  · obtain ⟨d, hd, hfault, -⟩ := r.read_object_eq_ok_iff.mp ha
    exact Tree.complete_object.mpr ⟨hmembers hd, hfault⟩
  · obtain ⟨d, hd, -⟩ := r.read_array_eq_ok_iff.mp ha
    exact Tree.complete_array.mpr (hitems hd)
  · cases ha
  · cases ha

end Record

end CrudScaffold.Json
