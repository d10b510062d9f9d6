import Mathlib.Data.List.Nodup
import CrudScaffold.FileSystem.Basic
import CrudScaffold.Proofs.FileSystem.Path
import CrudScaffold.Proofs.Text.Utf8

/-!
# Laws of file systems

What stands at a place after a node has been put somewhere or taken away, and where a row of names
leads. `FileSystem.Sound` says what every tree of files has: each place is listed once, whatever
exists is in a directory, under a name that a directory can hold, and relative paths start at a
directory. `FileSystem.Leads` is the success of a walk. It depends on the directories alone, and a
walk that ends at a directory can do without empty names, so it is known from the route of a path.
-/

namespace CrudScaffold

/-- A name that something can have in a directory. -/
structure IsEntryName (x : String) : Prop where
  ne_empty : x ≠ ""
  ne_dot : x ≠ "."
  ne_dots : x ≠ ".."
  short : x.utf8ByteSize ≤ FileSystem.longestName

namespace FileSystem

variable {fs fs' : FileSystem} {p q r : Place} {n m : Node} {x : String} {names : List String}

/-- What comes of two operations in a row comes of the second one on the result of the first. -/
lemma bind_eq_ok_iff {α β : Type} {a : Except FileError α} {f : α → Except FileError β} {b : β} :
    (a >>= f) = .ok b ↔ ∃ c, a = .ok c ∧ f c = .ok b := by
  cases a <;> simp [bind, Except.bind]

/-! ### Nodes and places -/

/-- A node that is put at a place is found there, and the others are where they were. -/
lemma lookup_placeNode (p : Place) (n : Node) (nodes : List (Place × Node)) (q : Place) :
    (placeNode p n nodes).lookup q = if q = p then some n else nodes.lookup q := by
  induction nodes with
  | nil => rw [placeNode, lookup_cons_ite]
  | cons e nodes ih =>
    obtain ⟨r, m⟩ := e
    rw [placeNode]
    split_ifs with hr hq hq
    · rw [lookup_cons_ite, if_pos hq]
    · rw [lookup_cons_ite, if_neg hq, lookup_cons_ite, if_neg (hr ▸ hq)]
    · rw [lookup_cons_ite, ih, if_pos hq, if_neg (fun h : q = r => hr (h.symm.trans hq))]
    · rw [lookup_cons_ite, ih, if_neg hq, lookup_cons_ite]

/-- A place that is put in is listed once. -/
lemma nodup_placeNode (p : Place) (n : Node) {nodes : List (Place × Node)}
    (h : (nodes.map Prod.fst).Nodup) : ((placeNode p n nodes).map Prod.fst).Nodup := by
  have hplaces : ∀ nodes : List (Place × Node), ∀ q ∈ (placeNode p n nodes).map Prod.fst,
      q = p ∨ q ∈ nodes.map Prod.fst := by
    intro nodes
    induction nodes with
    | nil => intro q hq; exact .inl (List.mem_singleton.mp hq)
    | cons e nodes ih =>
      obtain ⟨r, m⟩ := e
      intro q hq
      rw [placeNode] at hq
      split_ifs at hq with hr
      · exact (List.mem_cons.mp hq).imp_right (List.mem_cons_of_mem _)
      · rcases List.mem_cons.mp hq with rfl | hq
        · exact .inr List.mem_cons_self
        · exact (ih q hq).imp_right (List.mem_cons_of_mem _)
  induction nodes with
  | nil => exact List.nodup_singleton p
  | cons e nodes ih =>
    obtain ⟨r, m⟩ := e
    obtain ⟨hr, hnodes⟩ := List.nodup_cons.mp h
    rw [placeNode]
    split_ifs with hrp
    · exact List.nodup_cons.mpr ⟨hrp ▸ hr, hnodes⟩
    · refine List.nodup_cons.mpr ⟨fun hmem => ?_, ih hnodes⟩
      rcases hplaces nodes r hmem with he | hmem
      · exact hrp he
      · exact hr hmem

/-- The root is a directory. -/
@[simp] lemma get?_nil (fs : FileSystem) : fs.get? [] = some .directory := rfl

/-- What stands at a place after a node has been put somewhere. -/
lemma get?_put (hp : p ≠ []) (n : Node) (q : Place) :
    (fs.put p n).get? q = if q = p then some n else fs.get? q := by
  by_cases hq : q = []
  · rw [hq, get?_nil, get?_nil, if_neg (Ne.symm hp)]
  · rw [get?, if_neg hq, put, lookup_placeNode, get?, if_neg hq]

/-- What stands at a place after something has been taken away. -/
lemma get?_erase (hp : p ≠ []) (q : Place) :
    (fs.erase p).get? q = if q = p then none else fs.get? q := by
  have hlookup : ∀ nodes : List (Place × Node),
      (nodes.filter fun (e : Place × Node) => e.1 ≠ p).lookup q =
        if q = p then none else nodes.lookup q := by
    intro nodes
    induction nodes with
    | nil => simp
    | cons e nodes ih =>
      obtain ⟨r, m⟩ := e
      by_cases hr : r = p
      · rw [List.filter_cons_of_neg (by simpa using hr), ih, lookup_cons_ite, hr]
        split_ifs <;> rfl
      · rw [List.filter_cons_of_pos (by simpa using hr), lookup_cons_ite, ih, lookup_cons_ite]
        by_cases hq : q = r
        · rw [if_pos hq, if_neg (fun h => hr (hq ▸ h)), if_pos hq]
        · rw [if_neg hq, if_neg hq]
  by_cases hq : q = []
  · rw [hq, get?_nil, get?_nil, if_neg (Ne.symm hp)]
  · rw [get?, if_neg hq, get?, if_neg hq]
    exact hlookup fs.nodes

/-- The name that a place has in a directory, if it is there. -/
def nameIn (p q : Place) : Option String :=
  match q.getLast? with
  | some name => if q.dropLast = p then some name else none
  | none => none

/-- The name of a place in a directory is what it has in addition. -/
lemma nameIn_eq_some_iff : nameIn p q = some x ↔ q = p ++ [x] := by
  rw [nameIn]
  cases hlast : q.getLast? with
  | none =>
    rw [List.getLast?_eq_none_iff] at hlast
    simp [hlast]
  | some y =>
    obtain ⟨front, rfl⟩ := List.getLast?_eq_some_iff.mp hlast
    simp only [List.dropLast_concat]
    split_ifs with hfront
    · simp [hfront]
    · simp [hfront]

/-- The names in a directory are those of the places there. -/
lemma children_eq (fs : FileSystem) (p : Place) :
    fs.children p = (fs.nodes.map Prod.fst).filterMap (nameIn p) := by
  rw [List.filterMap_map]
  rfl

/-- The names in a directory are those with which something stands there. -/
lemma mem_children : x ∈ fs.children p ↔ (fs.get? (p ++ [x])).isSome := by
  have hne : p ++ [x] ≠ [] := List.append_ne_nil_of_right_ne_nil p (List.cons_ne_nil x [])
  rw [get?, if_neg hne, List.lookup_isSome_iff, children_eq, List.mem_filterMap]
  simp only [nameIn_eq_some_iff, List.mem_map]
  constructor
  · rintro ⟨q, ⟨e, he, rfl⟩, hq⟩
    exact ⟨e, he, beq_iff_eq.mpr hq.symm⟩
  · rintro ⟨e, he, hq⟩
    exact ⟨_, ⟨e, he, rfl⟩, (beq_iff_eq.mp hq).symm⟩

/-! ### Sound file systems -/

/-- What every tree of files has. -/
structure Sound (fs : FileSystem) : Prop where
  nodup : (fs.nodes.map Prod.fst).Nodup
  parent : ∀ {p x n}, fs.get? (p ++ [x]) = some n → fs.get? p = some .directory
  entry : ∀ {p x n}, fs.get? (p ++ [x]) = some n → IsEntryName x
  here : fs.get? fs.here = some .directory

@[simp] lemma sound_empty : ({} : FileSystem).Sound := by
  refine ⟨List.nodup_nil, fun h => ?_, fun h => ?_, rfl⟩ <;> simp [get?] at h

/-- A tree can be checked entry by entry. -/
lemma sound_of_forall_mem (hnodup : (fs.nodes.map Prod.fst).Nodup)
    (hparents : ∀ e ∈ fs.nodes, fs.get? e.1.dropLast = some .directory)
    (hnames : ∀ e ∈ fs.nodes, ∀ x, e.1.getLast? = some x →
      x ≠ "" ∧ x ≠ "." ∧ x ≠ ".." ∧ x.utf8ByteSize ≤ longestName)
    (hhere : fs.get? fs.here = some .directory) : fs.Sound := by
  have hmem : ∀ {p x n}, fs.get? (p ++ [x]) = some n → (p ++ [x], n) ∈ fs.nodes := by
    intro p x n h
    rw [get?, if_neg (List.append_ne_nil_of_right_ne_nil p (List.cons_ne_nil x [])),
      List.lookup_eq_some_iff] at h
    obtain ⟨before, after, hnodes, -⟩ := h
    rw [hnodes]
    exact List.mem_append_right before List.mem_cons_self
  refine ⟨hnodup, fun {p x n} h => ?_, fun {p x n} h => ?_, hhere⟩
  · have hparent := hparents _ (hmem h)
    rwa [List.dropLast_concat] at hparent
  · obtain ⟨hempty, hdot, hdots, hshort⟩ := hnames _ (hmem h) x List.getLast?_concat
    exact ⟨hempty, hdot, hdots, hshort⟩

/-- Where there is nothing, there is not the root. -/
lemma ne_nil_of_get?_eq_none (h : fs.get? p = none) : p ≠ [] := by
  rintro rfl
  cases h

namespace Sound

variable (h : fs.Sound)

include h

/-- Whatever is below something is below a directory. -/
lemma eq_directory_of_prefix (hp : p <+: q) (hne : p ≠ q) (hq : fs.get? q = some n) :
    fs.get? p = some .directory := by
  obtain ⟨rest, rfl⟩ := hp
  induction rest using List.reverseRecOn generalizing n with
  | nil => exact absurd (List.append_nil p).symm hne
  | append_singleton rest x ih =>
    rw [← List.append_assoc] at hq
    have hparent := h.parent hq
    by_cases hrest : rest = []
    · rwa [hrest, List.append_nil] at hparent
    · exact ih (fun he => hrest (List.append_right_eq_self.mp he.symm)) hparent

/-- There is nothing below a place that is not a directory. -/
lemma get?_eq_none_of_prefix (hp : fs.get? p ≠ some .directory) (hpq : p <+: q) (hne : p ≠ q) :
    fs.get? q = none := by
  cases hq : fs.get? q with
  | none => rfl
  | some n => exact absurd (h.eq_directory_of_prefix hpq hne hq) hp

/-- The names in a directory are different. -/
lemma nodup_children (p : Place) : (fs.children p).Nodup := by
  rw [children_eq]
  refine h.nodup.filterMap fun q q' x hq hq' => ?_
  rw [nameIn_eq_some_iff.mp hq, nameIn_eq_some_iff.mp hq']

/-- What is put at a place in a directory keeps the tree sound, unless it takes the place of a
directory. -/
lemma put (hp : fs.get? p = some .directory) (hx : IsEntryName x)
    (hn : fs.get? (p ++ [x]) = some .directory → n = .directory) : (fs.put (p ++ [x]) n).Sound := by
  have hne : p ++ [x] ≠ [] := List.append_ne_nil_of_right_ne_nil p (List.cons_ne_nil x [])
  have hdirectory : ∀ {q}, fs.get? q = some .directory →
      (fs.put (p ++ [x]) n).get? q = some .directory := by
    intro q hq
    rw [get?_put hne]
    split_ifs with he
    · rw [he] at hq
      rw [hn hq]
    · exact hq
  constructor
  · exact nodup_placeNode _ _ h.nodup
  · intro q y m hm
    rw [get?_put hne] at hm
    split_ifs at hm with he
    · rw [(List.append_inj' he rfl).1]
      exact hdirectory hp
    · exact hdirectory (h.parent hm)
  · intro q y m hm
    rw [get?_put hne] at hm
    split_ifs at hm with he
    · rw [List.singleton_inj.mp (List.append_inj' he rfl).2]
      exact hx
    · exact h.entry hm
  · exact hdirectory h.here

/-- Taking away a file keeps the tree sound. -/
lemma erase (hp : fs.get? p ≠ some .directory) : (fs.erase p).Sound := by
  have hne : p ≠ [] := fun he => hp (he ▸ rfl)
  have hdirectory : ∀ {q}, fs.get? q = some .directory → (fs.erase p).get? q = some .directory := by
    intro q hq
    rw [get?_erase hne, if_neg (fun he : q = p => hp (he ▸ hq)), hq]
  have hold : ∀ {q m}, (fs.erase p).get? q = some m → fs.get? q = some m := by
    intro q m hm
    rw [get?_erase hne] at hm
    split_ifs at hm
    exact hm
  constructor
  · exact h.nodup.sublist (List.filter_sublist.map _)
  · exact fun hm => hdirectory (h.parent (hold hm))
  · exact fun hm => h.entry (hold hm)
  · exact hdirectory h.here

end Sound

/-! ### Walks -/

/-- A row of names leads from one place to another. -/
def Leads (fs : FileSystem) (p : Place) (names : List String) (q : Place) : Prop :=
  names.foldlM fs.step p = .ok q

/-- Every name needs a directory. An empty one and a dot stay there, two dots lead back, and an
entry name leads on. -/
lemma step_eq_ok_iff : fs.step p x = .ok q ↔ fs.get? p = some .directory ∧
    ((x = "" ∨ x = ".") ∧ q = p ∨ x = ".." ∧ q = p.dropLast ∨ IsEntryName x ∧ q = p ++ [x]) := by
  constructor
  · intro h
    unfold step at h
    split at h
    · cases h
    · cases h
    · rename_i hp
      refine ⟨hp, ?_⟩
      split_ifs at h with hstay hdots hlong
      · exact .inl ⟨hstay, (Except.ok.inj h).symm⟩
      · exact .inr (.inl ⟨hdots, (Except.ok.inj h).symm⟩)
      · obtain ⟨hempty, hdot⟩ := not_or.mp hstay
        exact .inr (.inr ⟨⟨hempty, hdot, hdots, Nat.not_lt.mp hlong⟩, (Except.ok.inj h).symm⟩)
  · rintro ⟨hp, ⟨hx, rfl⟩ | ⟨rfl, rfl⟩ | ⟨hx, rfl⟩⟩
    · simp [step, hp, hx]
    · simp [step, hp]
    · simp [step, hp, hx.ne_empty, hx.ne_dot, hx.ne_dots, Nat.not_lt.mpr hx.short]

@[simp] lemma leads_nil : fs.Leads p [] q ↔ q = p := by
  simp [Leads, List.foldlM, pure, Except.pure, eq_comm]

@[simp] lemma leads_cons :
    fs.Leads p (x :: names) r ↔ ∃ q, fs.step p x = .ok q ∧ fs.Leads q names r := by
  rw [Leads, List.foldlM_cons]
  cases fs.step p x with
  | error e => simp [bind, Except.bind]
  | ok q => simp [bind, Except.bind, Leads]

@[simp] lemma leads_append {more : List String} :
    fs.Leads p (names ++ more) r ↔ ∃ q, fs.Leads p names q ∧ fs.Leads q more r := by
  induction names generalizing p with
  | nil => simp [leads_nil]
  | cons x names ih =>
    rw [List.cons_append, leads_cons]
    simp only [ih, leads_cons]
    constructor
    · rintro ⟨p', hstep, q, hq, hr⟩
      exact ⟨q, ⟨p', hstep, hq⟩, hr⟩
    · rintro ⟨q, ⟨p', hstep, hq⟩, hr⟩
      exact ⟨p', hstep, q, hq, hr⟩

/-- Names lead to one place. -/
lemma Leads.unique (h : fs.Leads p names q) (h' : fs.Leads p names r) : q = r :=
  Except.ok.inj (h.symm.trans h')

/-- Names that lead somewhere begin at a directory, if there are any. -/
lemma Leads.eq_or_directory (h : fs.Leads p names q) : p = q ∨ fs.get? p = some .directory := by
  cases names with
  | nil => exact .inl (leads_nil.mp h).symm
  | cons x names =>
    obtain ⟨r, hstep, -⟩ := leads_cons.mp h
    exact .inr (step_eq_ok_iff.mp hstep).1

/-- Where names lead depends on the directories alone. -/
lemma Leads.mono (h : fs.Leads p names q)
    (hd : ∀ r, fs.get? r = some .directory → fs'.get? r = some .directory) :
    fs'.Leads p names q := by
  induction names generalizing p with
  | nil => exact leads_nil.mpr (leads_nil.mp h)
  | cons x names ih =>
    obtain ⟨r, hstep, hr⟩ := leads_cons.mp h
    obtain ⟨hp, hx⟩ := step_eq_ok_iff.mp hstep
    exact leads_cons.mpr ⟨r, step_eq_ok_iff.mpr ⟨hd p hp, hx⟩, ih hr⟩

/-- Empty names can be left out. -/
lemma Leads.filter (h : fs.Leads p names q) : fs.Leads p (names.filter (· ≠ "")) q := by
  induction names generalizing p with
  | nil => exact h
  | cons x names ih =>
    obtain ⟨r, hstep, hr⟩ := leads_cons.mp h
    by_cases hx : x = ""
    · obtain rfl : r = p := by
        obtain ⟨-, ⟨-, hr⟩ | ⟨hdots, -⟩ | ⟨hentry, -⟩⟩ := step_eq_ok_iff.mp hstep
        · exact hr
        · exact absurd (hx.symm.trans hdots) (by decide)
        · exact absurd hx hentry.ne_empty
      rw [List.filter_cons_of_neg (by simpa using hx)]
      exact ih hr
    · rw [List.filter_cons_of_pos (by simpa using hx)]
      exact leads_cons.mpr ⟨r, hstep, ih hr⟩

/-- On the way to a directory, empty names and dots do no harm. -/
lemma Leads.of_filter {keep : String → Bool} (h : fs.Leads p (names.filter keep) q)
    (hkeep : ∀ x, keep x = false → x = "" ∨ x = ".") (hq : fs.get? q = some .directory) :
    fs.Leads p names q := by
  induction names generalizing p with
  | nil => exact h
  | cons x names ih =>
    cases hx : keep x with
    | false =>
      rw [List.filter_cons_of_neg (by simp [hx])] at h
      have hp : fs.get? p = some .directory := by
        rcases h.eq_or_directory with rfl | hp
        · exact hq
        · exact hp
      exact leads_cons.mpr ⟨p, step_eq_ok_iff.mpr ⟨hp, .inl ⟨hkeep x hx, rfl⟩⟩, ih h⟩
    | true =>
      rw [List.filter_cons_of_pos hx] at h
      obtain ⟨r, hstep, hr⟩ := leads_cons.mp h
      exact leads_cons.mpr ⟨r, hstep, ih hr⟩

/-- On the way to a directory, empty names can be put back. -/
lemma Leads.of_filter_ne_empty (h : fs.Leads p (names.filter (· ≠ "")) q)
    (hq : fs.get? q = some .directory) : fs.Leads p names q := by
  refine h.of_filter (fun x hx => .inl ?_) hq
  simpa using hx

/-- In a sound file system names lead from a directory to another one, or to a name in one. -/
lemma Sound.leads_cases (h : fs.Sound) (hp : fs.get? p = some .directory)
    (hq : fs.Leads p names q) :
    fs.get? q = some .directory ∨
      ∃ d x, fs.get? d = some .directory ∧ IsEntryName x ∧ q = d ++ [x] := by
  induction names using List.reverseRecOn generalizing q with
  | nil => exact .inl (leads_nil.mp hq ▸ hp)
  | append_singleton names x ih =>
    obtain ⟨r, hr, hlast⟩ := leads_append.mp hq
    obtain ⟨q', hstep, hq'⟩ := leads_cons.mp hlast
    obtain rfl := leads_nil.mp hq'
    obtain ⟨hrd, ⟨-, rfl⟩ | ⟨-, rfl⟩ | ⟨hx, rfl⟩⟩ := step_eq_ok_iff.mp hstep
    · exact .inl hrd
    · refine .inl ?_
      by_cases hr : r = []
      · rw [hr]
        rfl
      · rw [← List.dropLast_append_getLast hr] at hrd
        exact h.parent hrd
    · exact .inr ⟨r, x, hrd, hx, rfl⟩

/-! ### Paths -/

/-- A path leads to a directory. -/
def Opens (fs : FileSystem) (path : String) (d : Place) : Prop :=
  '\x00' ∉ path.toList ∧ fs.Leads (fs.start path) (Path.route path) d ∧
    fs.get? d = some .directory

/-- Every path starts at a directory. -/
lemma Sound.get?_start (h : fs.Sound) (path : String) :
    fs.get? (fs.start path) = some .directory := by
  rw [start]
  split_ifs
  · rfl
  · exact h.here

/-- Where a path starts depends on the current directory alone. -/
lemma start_congr (h : fs'.here = fs.here) (path : String) : fs'.start path = fs.start path := by
  rw [start, start, h]

/-- The path of a name in a directory starts where that of the directory does. -/
lemma start_join (hx : Path.IsSegment x) (dir : String) :
    fs.start (Path.join dir x) = fs.start dir := by
  rw [start, start, hx.isAbsolute_join]

/-- A path leads to a directory in one place. -/
lemma Opens.unique {path : String} (h : fs.Opens path p) (h' : fs.Opens path q) : p = q :=
  h.2.1.unique h'.2.1

/-- A path that leads to a directory keeps doing so as long as all directories stay. -/
lemma Opens.mono {path : String} (h : fs.Opens path p) (hhere : fs'.here = fs.here)
    (hd : ∀ r, fs.get? r = some .directory → fs'.get? r = some .directory) : fs'.Opens path p := by
  obtain ⟨hzero, hleads, hp⟩ := h
  refine ⟨hzero, ?_, hd p hp⟩
  rw [start_congr hhere]
  exact hleads.mono hd

/-- Where a path leads, name by name. -/
lemma locate_eq_ok_iff {path : String} : fs.locate path = .ok p ↔
    '\x00' ∉ path.toList ∧ path ≠ "" ∧ fs.Leads (fs.start path) (Path.names path) p := by
  unfold locate
  split_ifs with hzero hempty
  · simp [List.contains_iff_mem.mp hzero]
  · simp [hempty]
  · simp [hempty, List.contains_iff_mem.not.mp hzero, Leads]

/-- A path leads to something if there is something where it leads. -/
lemma has_iff {path : String} : fs.has path ↔ ∃ p, fs.locate path = .ok p ∧ (fs.get? p).isSome := by
  unfold has find
  cases fs.locate path with
  | error e => simp [bind, Except.bind, Except.isOk, Except.toBool]
  | ok p => cases hp : fs.get? p <;> simp [bind, Except.bind, Except.isOk, Except.toBool, hp]

/-- Where a name in a directory leads is known from the route to the directory. -/
lemma leads_join_iff (hx : Path.IsSegment x) (dir : String) :
    fs.Leads p (Path.names (Path.join dir x)) q ↔
      ∃ d, fs.Leads p (Path.route dir) d ∧ fs.step d x = .ok q := by
  obtain ⟨front, hnames, hfront⟩ := hx.exists_names_join dir
  have hlast : ∀ d, fs.Leads d [x] q ↔ fs.step d x = .ok q := by
    intro d
    simp [leads_cons, leads_nil]
  rw [hnames, leads_append]
  simp only [hlast]
  constructor
  · rintro ⟨d, hd, hstep⟩
    exact ⟨d, hfront ▸ hd.filter, hstep⟩
  · rintro ⟨d, hd, hstep⟩
    rw [← hfront] at hd
    exact ⟨d, hd.of_filter_ne_empty (step_eq_ok_iff.mp hstep).1, hstep⟩

/-- A file name in a directory leads there exactly if the path to the directory does and the name
can stand in it. -/
lemma locate_join_eq_ok_iff {dir : String} (hx : Path.IsFileName x) :
    fs.locate (Path.join dir x) = .ok p ↔ ∃ d, fs.Opens dir d ∧ IsEntryName x ∧ p = d ++ [x] := by
  rw [locate_eq_ok_iff, leads_join_iff hx.toIsSegment, start_join hx.toIsSegment,
    hx.mem_join dir (by decide)]
  simp only [hx.zero, or_false, hx.join_ne_empty dir, ne_eq, not_false_eq_true, true_and, Opens,
    step_eq_ok_iff, hx.ne_empty, hx.ne_dot, hx.ne_dots, or_self, false_and, false_or]
  constructor
  · rintro ⟨hdir, d, hleads, hd, hentry, hp⟩
    exact ⟨d, ⟨hdir, hleads, hd⟩, hentry, hp⟩
  · rintro ⟨d, ⟨hdir, hleads, hd⟩, hentry, hp⟩
    exact ⟨hdir, d, hleads, hd, hentry, hp⟩

/-- There is something at a path that leads to a directory. -/
lemma Opens.has {path : String} (h : fs.Opens path p) (hne : path ≠ "") : fs.has path := by
  obtain ⟨hzero, hleads, hp⟩ := h
  have hlocate := locate_eq_ok_iff.mpr ⟨hzero, hne, hleads.of_filter_ne_empty hp⟩
  exact has_iff.mpr ⟨p, hlocate, by rw [hp]; rfl⟩

/-- There is something under a file name in a directory if the path to the directory leads there and
the name is listed. -/
lemma has_join_iff {dir : String} (h : fs.Sound) (hx : Path.IsFileName x) :
    fs.has (Path.join dir x) ↔ ∃ d, fs.Opens dir d ∧ (fs.get? (d ++ [x])).isSome := by
  rw [has_iff]
  simp only [locate_join_eq_ok_iff hx]
  constructor
  · rintro ⟨_, ⟨d, hd, -, rfl⟩, hsome⟩
    exact ⟨d, hd, hsome⟩
  · rintro ⟨d, hd, hsome⟩
    obtain ⟨n, hn⟩ := Option.isSome_iff_exists.mp hsome
    exact ⟨_, ⟨d, hd, h.entry hn, rfl⟩, hsome⟩

/-- A file is read where a path leads to it. -/
lemma read_of_locate {path : String} {content : Bytes} (hp : fs.locate path = .ok p)
    (hfile : fs.get? p = some (.file content)) : fs.read path = .ok content := by
  simp [read, find, hp, hfile, bind, Except.bind]

/-- A file is read as text where a path leads to it, if it holds text. -/
lemma readText_of_locate {path text : String} (hp : fs.locate path = .ok p)
    (hfile : fs.get? p = some (.file (Text.bytes text))) : fs.readText path = .ok text := by
  have hread := read_of_locate hp hfile
  simp [readText, hread, bind, Except.bind, Text.ofBytes?_bytes]

/-- A name in a directory leads there if there is something. -/
lemma Sound.locate_join {dir : String} (h : fs.Sound) (hx : Path.IsFileName x)
    (hp : fs.Opens dir p) (hn : fs.get? (p ++ [x]) = some n) :
    fs.locate (Path.join dir x) = .ok (p ++ [x]) :=
  (locate_join_eq_ok_iff hx).mpr ⟨p, hp, h.entry hn, rfl⟩

/-- A file in a directory is read. -/
lemma read_join {dir : String} {content : Bytes} (h : fs.Sound) (hx : Path.IsFileName x)
    (hp : fs.Opens dir p) (hfile : fs.get? (p ++ [x]) = some (.file content)) :
    fs.read (Path.join dir x) = .ok content :=
  read_of_locate (h.locate_join hx hp hfile) hfile

/-- A file in a directory is read as text if it holds text. -/
lemma readText_join {dir text : String} (h : fs.Sound) (hx : Path.IsFileName x)
    (hp : fs.Opens dir p) (hfile : fs.get? (p ++ [x]) = some (.file (Text.bytes text))) :
    fs.readText (Path.join dir x) = .ok text :=
  readText_of_locate (h.locate_join hx hp hfile) hfile

/-! ### Files in a directory -/

/-- All directories are the same, and nothing but files of some names in one of them has changed. -/
structure Rewrites (fs fs' : FileSystem) (d : Place) (files : List String) : Prop where
  here : fs'.here = fs.here
  directory : ∀ r, fs'.get? r = some .directory ↔ fs.get? r = some .directory
  kept : ∀ r, (∀ x ∈ files, r ≠ d ++ [x]) → fs'.get? r = fs.get? r

namespace Rewrites

variable {fs₁ : FileSystem} {files files' : List String}

/-- Files are changed one time after another. -/
lemma trans (h : Rewrites fs fs₁ p files) (h' : Rewrites fs₁ fs' p files) :
    Rewrites fs fs' p files :=
  ⟨h'.here.trans h.here, fun r => (h'.directory r).trans (h.directory r),
    fun r hr => (h'.kept r hr).trans (h.kept r hr)⟩

/-- More files could have been changed. -/
lemma mono (h : Rewrites fs fs' p files) (hfiles : files ⊆ files') : Rewrites fs fs' p files' :=
  ⟨h.here, h.directory, fun r hr => h.kept r fun x hx => hr x (hfiles hx)⟩

/-- Paths lead to the directories that they led to. -/
lemma opens {path : String} (h : Rewrites fs fs' p files) (hq : fs.Opens path q) :
    fs'.Opens path q :=
  hq.mono h.here fun r => (h.directory r).mpr

end Rewrites

/-- A file can be put into a directory under a name that no directory has. -/
lemma Sound.putFile {path : String} (h : fs.Sound) (hp : fs.Opens path p) (hx : IsEntryName x)
    (hfree : fs.get? (p ++ [x]) ≠ some .directory) (content : Bytes) :
    (fs.put (p ++ [x]) (.file content)).Sound ∧
      Rewrites fs (fs.put (p ++ [x]) (.file content)) p [x] ∧
      ∀ r, (fs.put (p ++ [x]) (.file content)).get? r =
        if r = p ++ [x] then some (.file content) else fs.get? r := by
  have hget : ∀ r, (fs.put (p ++ [x]) (.file content)).get? r =
      if r = p ++ [x] then some (.file content) else fs.get? r :=
    get?_put (List.append_ne_nil_of_right_ne_nil p (List.cons_ne_nil x [])) _
  refine ⟨h.put hp.2.2 hx fun hd => absurd hd hfree, ⟨rfl, fun r => ?_, fun r hr => ?_⟩, hget⟩
  · rw [hget]
    split_ifs with hr
    · simp [hr, hfree]
    · exact Iff.rfl
  · rw [hget, if_neg (hr x List.mem_cons_self)]

/-- A file can be taken out of a directory. -/
lemma Sound.eraseFile (h : fs.Sound) (hfile : fs.get? (p ++ [x]) ≠ some .directory) :
    (fs.erase (p ++ [x])).Sound ∧ Rewrites fs (fs.erase (p ++ [x])) p [x] ∧
      ∀ r, (fs.erase (p ++ [x])).get? r = if r = p ++ [x] then none else fs.get? r := by
  have hget : ∀ r, (fs.erase (p ++ [x])).get? r = if r = p ++ [x] then none else fs.get? r :=
    get?_erase (List.append_ne_nil_of_right_ne_nil p (List.cons_ne_nil x []))
  refine ⟨h.erase hfile, ⟨rfl, fun r => ?_, fun r hr => ?_⟩, hget⟩
  · rw [hget]
    split_ifs with hr
    · simp [hr, hfile]
    · exact Iff.rfl
  · rw [hget, if_neg (hr x List.mem_cons_self)]

end FileSystem

end CrudScaffold
