import CrudScaffold.FileSystem.Action
import CrudScaffold.Proofs.FileSystem.Basic

/-!
# What steps do to files

Each step is described by what it did if it succeeded. Making directories is the only one that does
several things: it adds directories and changes nothing that is there (`FileSystem.Grows`), and
where it adds them is known from the ways that it tries. A directory that was not there before has
nothing in it afterwards, provided that the way to it does not lead back through directories that
are made on the way, which only two dots can do. Publishing a file is put together from its steps.
-/

namespace CrudScaffold

namespace FileSystem

variable {fs fs' fs₁ : FileSystem} {p q r d : Place} {n : Node} {x : String} {names : List String}

/-! ### Growth -/

/-- Directories are added at some places, and nothing else happens. -/
structure Grows (fs fs' : FileSystem) (new : Place → Prop) : Prop where
  here : fs'.here = fs.here
  kept : ∀ {r n}, fs.get? r = some n → fs'.get? r = some n
  added : ∀ {r n}, fs'.get? r = some n → fs.get? r = some n ∨ n = .directory ∧ new r

/-- Nothing happens. -/
lemma Grows.refl (fs : FileSystem) (new : Place → Prop) : Grows fs fs new :=
  ⟨rfl, id, .inl⟩

/-- Directories are added twice. -/
lemma Grows.trans {new : Place → Prop} (h : Grows fs fs₁ new) (h' : Grows fs₁ fs' new) :
    Grows fs fs' new := by
  refine ⟨h'.here.trans h.here, fun hr => h'.kept (h.kept hr), fun hr => ?_⟩
  rcases h'.added hr with hr | hr
  · exact h.added hr
  · exact .inr hr

/-- More places could have been used. -/
lemma Grows.weaken {new new' : Place → Prop} (h : Grows fs fs' new) (hnew : ∀ r, new r → new' r) :
    Grows fs fs' new' :=
  ⟨h.here, h.kept, fun hr => (h.added hr).imp_right fun ⟨hn, hr⟩ => ⟨hn, hnew _ hr⟩⟩

/-! ### Making one directory -/

/-- A directory is made where there is nothing, and left alone where it is there. -/
lemma opened_eq_ok_iff : fs.opened p names = .ok fs' ↔ ∃ q, fs.Leads p names q ∧
    (fs.get? q = none ∧ fs' = fs.put q .directory ∨
      fs.get? q = some .directory ∧ fs' = fs) := by
  unfold opened
  rw [bind_eq_ok_iff]
  refine exists_congr fun q => and_congr Iff.rfl ?_
  cases hq : fs.get? q with
  | none => simp [eq_comm]
  | some n => cases n <;> simp [eq_comm]

/-- If there is something above a directory, that is not what its making fails of. -/
lemma opened_ne_missing (h : fs.Leads p names q) (hq : fs.get? q ≠ none) (x : String) :
    fs.opened p (names ++ [x]) ≠ .error .missing := by
  have hstep : fs.step q x ≠ .error .missing := by
    unfold step
    split
    · exact absurd ‹_› hq
    · simp
    · split_ifs <;> simp
  have hwalk : (names ++ [x]).foldlM fs.step p = fs.step q x := by
    rw [List.foldlM_append, show names.foldlM fs.step p = .ok q from h]
    cases hx : fs.step q x <;> simp [bind, Except.bind, hx, pure, Except.pure]
  unfold opened
  rw [hwalk]
  cases hx : fs.step q x with
  | error e =>
    intro he
    obtain rfl : e = .missing := Except.error.inj he
    exact hstep hx
  | ok r => cases hr : fs.get? r with
    | none => simp [bind, Except.bind, hr]
    | some n => cases n <;> simp [bind, Except.bind, hr]

/-- Making a directory adds at most the one that its names lead to. -/
lemma grows_opened (hfs : fs.Sound) (hp : fs.get? p = some .directory)
    (h : fs.opened p names = .ok fs') :
    fs'.Sound ∧ Grows fs fs' fun r => fs.Leads p names r := by
  obtain ⟨q, hq, ⟨hnone, rfl⟩ | ⟨-, rfl⟩⟩ := opened_eq_ok_iff.mp h
  · rcases hfs.leads_cases hp hq with hd | ⟨d, x, hd, hx, rfl⟩
    · rw [hnone] at hd
      cases hd
    · have hne : d ++ [x] ≠ [] := List.append_ne_nil_of_right_ne_nil d (List.cons_ne_nil x [])
      refine ⟨hfs.put hd hx fun _ => rfl, rfl, fun {r n} hr => ?_, fun {r n} hr => ?_⟩
      · rw [get?_put hne, if_neg fun he => ?_, hr]
        rw [he, hnone] at hr
        cases hr
      · rw [get?_put hne] at hr
        split_ifs at hr with he
        · exact .inr ⟨(Option.some.inj hr).symm, he ▸ hq⟩
        · exact .inl hr
  · exact ⟨hfs, Grows.refl fs' _⟩

/-- A directory that has been made is where its names lead. -/
lemma leads_of_opened (h : fs.opened p names = .ok fs') :
    ∃ q, fs'.Leads p names q ∧ fs'.get? q = some .directory := by
  obtain ⟨q, hq, ⟨hnone, rfl⟩ | ⟨hd, rfl⟩⟩ := opened_eq_ok_iff.mp h
  · have hne : q ≠ [] := ne_nil_of_get?_eq_none hnone
    refine ⟨q, hq.mono fun r hr => ?_, by rw [get?_put hne, if_pos rfl]⟩
    rw [get?_put hne]
    split_ifs
    · rfl
    · exact hr
  · exact ⟨q, hq, hd⟩

/-! ### Making directories -/

/-- The first way is tried once, and a second time only if the others have been made because
something was missing. -/
lemma makeDirectories_cases {above : List (List String)} {e : Option FileError}
    (h : fs.makeDirectories p (names :: above) = (fs', e)) :
    (fs.opened p names = .ok fs' ∧ e = none) ∨ (fs' = fs ∧ e ≠ none) ∨
      (fs.opened p names = .error .missing ∧
        ∃ fs₁ e₁, fs.makeDirectories p above = (fs₁, e₁) ∧
          (e₁ = none ∧ fs₁.opened p names = .ok fs' ∧ e = none ∨ fs' = fs₁ ∧ e ≠ none)) := by
  rw [makeDirectories] at h
  split at h
  · rename_i hmissing
    refine .inr (.inr ⟨hmissing, ?_⟩)
    split at h
    · rename_i fs₁ hmade
      refine ⟨fs₁, none, hmade, ?_⟩
      cases hopened : fs₁.opened p names with
      | ok fs₂ =>
        rw [hopened] at h
        cases h
        exact .inl ⟨rfl, rfl, rfl⟩
      | error e' =>
        rw [hopened] at h
        cases h
        exact .inr ⟨rfl, nofun⟩
    · rename_i hfailed
      refine ⟨fs', e, h, .inr ⟨rfl, fun he => ?_⟩⟩
      exact hfailed fs' (he ▸ h)
  · cases hopened : fs.opened p names with
    | ok fs₂ =>
      rw [hopened] at h
      cases h
      exact .inl ⟨rfl, rfl⟩
    | error e' =>
      rw [hopened] at h
      cases h
      exact .inr (.inl ⟨rfl, nofun⟩)

/-- Names lead where they led after directories have been added. -/
lemma Grows.leads {new : Place → Prop} (h : Grows fs fs' new) (hq : fs.Leads p names q) :
    fs'.Leads p names q :=
  hq.mono fun _ => h.kept

/-- Whether or not making directories succeeds, it adds directories where the ways that it tries
lead. -/
lemma grows_makeDirectories (hfs : fs.Sound) (hp : fs.get? p = some .directory)
    {ways : List (List String)} {e : Option FileError} (h : fs.makeDirectories p ways = (fs', e)) :
    fs'.Sound ∧ Grows fs fs' fun r => ∃ way ∈ ways, fs'.Leads p way r := by
  induction ways generalizing fs' e with
  | nil =>
    cases h
    exact ⟨hfs, Grows.refl fs _⟩
  | cons names above ih =>
    have hfirst : ∀ {fs₁ : FileSystem}, fs₁.Sound → fs₁.get? p = some .directory →
        fs₁.opened p names = .ok fs' → fs'.Sound ∧
          Grows fs₁ fs' fun r => ∃ way ∈ names :: above, fs'.Leads p way r := by
      intro fs₁ hfs₁ hp₁ hopened
      obtain ⟨hsound, hgrows⟩ := grows_opened hfs₁ hp₁ hopened
      exact ⟨hsound, hgrows.weaken fun r hr => ⟨names, List.mem_cons_self, hgrows.leads hr⟩⟩
    rcases makeDirectories_cases h with ⟨hopened, -⟩ | ⟨rfl, -⟩ | ⟨-, fs₁, e₁, hmade, hlast⟩
    · exact hfirst hfs hp hopened
    · exact ⟨hfs, Grows.refl fs' _⟩
    · obtain ⟨hsound, habove⟩ := ih hmade
      rcases hlast with ⟨-, hopened, -⟩ | ⟨rfl, -⟩
      · obtain ⟨hsound', hgrows'⟩ := hfirst hsound (habove.kept hp) hopened
        refine ⟨hsound', Grows.trans (habove.weaken fun r ⟨way, hway, hr⟩ => ?_) hgrows'⟩
        exact ⟨way, List.mem_cons_of_mem names hway, hgrows'.leads hr⟩
      · refine ⟨hsound, habove.weaken fun r ⟨way, hway, hr⟩ => ?_⟩
        exact ⟨way, List.mem_cons_of_mem names hway, hr⟩

/-- Directories that have been made are where the first way leads. -/
lemma leads_of_makeDirectories {above : List (List String)}
    (h : fs.makeDirectories p (names :: above) = (fs', none)) :
    ∃ q, fs'.Leads p names q ∧ fs'.get? q = some .directory := by
  rcases makeDirectories_cases h with ⟨hopened, -⟩ | ⟨-, hne⟩ | ⟨-, fs₁, e₁, -, hlast⟩
  · exact leads_of_opened hopened
  · exact absurd rfl hne
  · rcases hlast with ⟨-, hopened, -⟩ | ⟨-, hne⟩
    · exact leads_of_opened hopened
    · exact absurd rfl hne

/-! ### The way to a directory -/

/-- Without two dots names lead down. -/
lemma Leads.eq_descent (h : fs.Leads p names q) (hempty : "" ∉ names) (hdots : ".." ∉ names) :
    q = p ++ Path.descent names := by
  induction names generalizing p with
  | nil => simpa [Path.descent] using leads_nil.mp h
  | cons x names ih =>
    obtain ⟨r, hstep, hr⟩ := leads_cons.mp h
    have hq := ih hr (fun hm => hempty (List.mem_cons_of_mem x hm))
      fun hm => hdots (List.mem_cons_of_mem x hm)
    obtain ⟨-, ⟨hstay, rfl⟩ | ⟨rfl, -⟩ | ⟨hx, rfl⟩⟩ := step_eq_ok_iff.mp hstep
    · have hdot : x = "." := hstay.resolve_left fun he => hempty (he ▸ List.mem_cons_self)
      rw [hq, Path.descent, Path.descent, List.filter_cons_of_neg (by simpa using hdot)]
    · exact absurd List.mem_cons_self hdots
    · rw [hq, Path.descent, Path.descent, List.filter_cons_of_pos (by simpa using hx.ne_dot),
        List.append_assoc, List.singleton_append]

/-- Names without two dots lead down to a directory that is there. -/
lemma Sound.leads_descent (hfs : fs.Sound) (hempty : "" ∉ names) (hdots : ".." ∉ names)
    (h : fs.get? (p ++ Path.descent names) = some .directory) :
    fs.Leads p names (p ++ Path.descent names) := by
  induction names using List.reverseRecOn with
  | nil => exact leads_nil.mpr (List.append_nil p)
  | append_singleton names x ih =>
    have hempty' : "" ∉ names := fun hm => hempty (List.mem_append_left _ hm)
    have hdots' : ".." ∉ names := fun hm => hdots (List.mem_append_left _ hm)
    have hlast : Path.descent (names ++ [x]) = Path.descent names ++ Path.descent [x] :=
      List.filter_append ..
    by_cases hdot : x = "."
    · have hnone : Path.descent [x] = [] := by simp [Path.descent, hdot]
      rw [hlast, hnone, List.append_nil] at h ⊢
      refine leads_append.mpr ⟨_, ih hempty' hdots' h, leads_cons.mpr ⟨_, ?_, leads_nil.mpr rfl⟩⟩
      exact step_eq_ok_iff.mpr ⟨h, .inl ⟨.inr hdot, rfl⟩⟩
    · have hone : Path.descent [x] = [x] := by simp [Path.descent, hdot]
      rw [hlast, hone, ← List.append_assoc] at h ⊢
      have hparent := hfs.parent h
      refine leads_append.mpr
        ⟨_, ih hempty' hdots' hparent, leads_cons.mpr ⟨_, ?_, leads_nil.mpr rfl⟩⟩
      exact step_eq_ok_iff.mpr ⟨hparent, .inr (.inr ⟨hfs.entry h, rfl⟩)⟩

/-- Without two dots every way to a directory leads above it. -/
lemma prefix_of_leads_way {dir : String} {way : List String} (hdots : ".." ∉ Path.route dir)
    (hway : way ∈ Path.ways dir) (h : fs.Leads p way r) :
    r <+: p ++ Path.descent (Path.route dir) := by
  have hempty : "" ∉ Path.route dir := Path.empty_notMem_route dir
  have hdescent : ∀ k, Path.descent ((Path.descent (Path.route dir)).take k) =
      (Path.descent (Path.route dir)).take k := by
    intro k
    refine List.filter_eq_self.mpr fun x hx => ?_
    exact (List.mem_filter.mp (List.mem_of_mem_take hx)).2
  rcases Path.of_mem_ways hway with rfl | ⟨k, -, rfl⟩
  · exact h.eq_descent hempty hdots ▸ List.prefix_rfl
  · have hsub : ∀ x ∈ (Path.descent (Path.route dir)).take k, x ∈ Path.route dir :=
      fun x hx => (List.mem_filter.mp (List.mem_of_mem_take hx)).1
    rw [h.eq_descent (fun hm => hempty (hsub _ hm)) fun hm => hdots (hsub _ hm), hdescent]
    exact List.prefix_append_right_inj p |>.mpr (List.take_prefix k _)

/-- The way to a directory does not lead back, or nothing but the directory is missing on it. -/
def IsStraight (fs : FileSystem) (dir : String) : Prop :=
  ".." ∉ Path.route dir ∨ fs.opened (fs.start dir) (Path.route dir) ≠ .error .missing

end FileSystem

open FileSystem

namespace Action

variable {fs fs' : FileSystem} {d r : Place} {dir : String}

/-! ### Making the directory of a path -/

/-- Making the directory of a path tries its ways. -/
lemma run_makeDirectory (fs : FileSystem) (hzero : '\x00' ∉ dir.toList) :
    (makeDirectory dir).run fs = fs.makeDirectories (fs.start dir) (Path.ways dir) := by
  rw [run, if_neg (fun h => hzero (List.contains_iff_mem.mp h))]

/-- No directory is made at a path with a zero in it. -/
lemma zero_notMem_of_run_makeDirectory (h : (makeDirectory dir).run fs = (fs', none)) :
    '\x00' ∉ dir.toList := by
  intro hzero
  rw [run, if_pos (List.contains_iff_mem.mpr hzero)] at h
  cases h

/-- Making the directory of a path adds directories on the ways to it. -/
lemma grows_of_run_makeDirectory {e : Option FileError} (hfs : fs.Sound)
    (h : (makeDirectory dir).run fs = (fs', e)) :
    fs'.Sound ∧ Grows fs fs' fun r => ∃ way ∈ Path.ways dir, fs'.Leads (fs.start dir) way r := by
  by_cases hzero : '\x00' ∈ dir.toList
  · rw [run, if_pos (List.contains_iff_mem.mpr hzero)] at h
    cases h
    exact ⟨hfs, Grows.refl fs _⟩
  · rw [run_makeDirectory fs hzero] at h
    exact grows_makeDirectories hfs (hfs.get?_start dir) h

/-- A path leads to its directory after that has been made. -/
lemma opens_of_run_makeDirectory (hfs : fs.Sound) (h : (makeDirectory dir).run fs = (fs', none)) :
    ∃ d, fs'.Opens dir d := by
  have hzero := zero_notMem_of_run_makeDirectory h
  obtain ⟨-, hgrows⟩ := grows_of_run_makeDirectory hfs h
  have hstart : fs'.start dir = fs.start dir := start_congr hgrows.here dir
  rw [run_makeDirectory fs hzero, Path.ways_eq] at h
  obtain ⟨d, hleads, hd⟩ := leads_of_makeDirectories h
  exact ⟨d, hzero, hstart ▸ hleads, hd⟩

/-- Making a directory that is there changes nothing. -/
lemma run_makeDirectory_of_opens (hd : fs.Opens dir d) :
    (makeDirectory dir).run fs = (fs, none) := by
  have hopened : fs.opened (fs.start dir) (Path.route dir) = .ok fs :=
    opened_eq_ok_iff.mpr ⟨d, hd.2.1, .inr ⟨hd.2.2, rfl⟩⟩
  rw [run_makeDirectory fs hd.1, Path.ways_eq, makeDirectories, hopened]
  rfl

/-- There is nothing in a directory that is new after directories have been made on a straight way
to it. -/
lemma get?_eq_none_of_run_makeDirectory {e : Option FileError} (hfs : fs.Sound)
    (h : (makeDirectory dir).run fs = (fs', e)) (hnew : ∀ d, ¬ fs.Opens dir d)
    (hway : fs.IsStraight dir) (hd : fs'.Opens dir d) (x : String) :
    fs'.get? (d ++ [x]) = none := by
  have hzero := hd.1
  obtain ⟨-, hgrows⟩ := grows_of_run_makeDirectory hfs h
  have hstart : fs'.start dir = fs.start dir := start_congr hgrows.here dir
  have hleads : fs'.Leads (fs.start dir) (Path.route dir) d := hstart ▸ hd.2.1
  rcases hway with hdots | hmissing
  · have hempty : "" ∉ Path.route dir := Path.empty_notMem_route dir
    have hplace := hleads.eq_descent hempty hdots
    cases hx : fs'.get? (d ++ [x]) with
    | none => rfl
    | some n =>
      exfalso
      rcases hgrows.added hx with hold | ⟨-, way, hmem, hr⟩
      · refine hnew d ⟨hzero, ?_, hfs.parent hold⟩
        rw [hplace]
        exact hfs.leads_descent hempty hdots (hplace ▸ hfs.parent hold)
      · have hprefix := prefix_of_leads_way hdots hmem hr
        rw [← hplace] at hprefix
        have hlength := hprefix.length_le
        rw [List.length_append, List.length_singleton] at hlength
        omega
  · rw [run_makeDirectory fs hzero, Path.ways_eq] at h
    rcases makeDirectories_cases h with ⟨hopened, -⟩ | ⟨rfl, -⟩ | ⟨he, -⟩
    · obtain ⟨q, hq, ⟨hnone, rfl⟩ | ⟨hqd, -⟩⟩ := opened_eq_ok_iff.mp hopened
      · have hne : q ≠ [] := ne_nil_of_get?_eq_none hnone
        obtain rfl : d = q := by
          refine hleads.unique (hq.mono fun r hr => ?_)
          exact hgrows.kept hr
        rw [get?_put hne, if_neg (by simp)]
        have hfile : fs.get? d ≠ some .directory := hnone ▸ (Option.some_ne_none _).symm
        exact hfs.get?_eq_none_of_prefix hfile (List.prefix_append d [x]) (by simp)
      · exact absurd ⟨hzero, hq, hqd⟩ (hnew q)
    · exact absurd hd (hnew d)
    · exact absurd he hmissing

/-! ### Files -/

variable {source target path : String} {content : Bytes}

/-- A step on its own has no error exactly if it succeeds. -/
lemma after_eq_none_iff {fs : FileSystem} {a : Except FileError FileSystem} :
    fs.after a = (fs', none) ↔ a = .ok fs' := by
  cases a <;> simp [after]

/-- A step on its own changes nothing if it fails. -/
lemma after_eq_some {e : FileError} {a : Except FileError FileSystem}
    (h : fs.after a = (fs', some e)) : fs' = fs := by
  cases a with
  | ok fs₁ => cases h
  | error e' =>
    cases h
    rfl

/-- Steps succeed if the first one and the others do. -/
lemma runAll_cons_eq_none_iff {a : Action} {rest : List Action} :
    runAll fs (a :: rest) = (fs', none) ↔
      ∃ fs₁, a.run fs = (fs₁, none) ∧ runAll fs₁ rest = (fs', none) := by
  rw [runAll]
  split
  · rename_i fs₁ hrun
    simp [hrun]
  · rename_i fs₁ e hrun
    simp [hrun]

@[simp] lemma runAll_nil_eq_none_iff : runAll fs [] = (fs', none) ↔ fs' = fs := by
  simp [runAll, eq_comm]

/-- A file is created at a place without a directory. -/
lemma run_create_eq_none_iff : (create path).run fs = (fs', none) ↔
    ∃ p, fs.locate path = .ok p ∧ fs.get? p ≠ some .directory ∧ fs' = fs.put p (.file []) := by
  rw [run, after_eq_none_iff, emptied, bind_eq_ok_iff]
  refine exists_congr fun p => and_congr Iff.rfl ?_
  rcases hp : fs.get? p with _ | _ | old <;> simp [eq_comm]

/-- A file is filled if it is there. -/
lemma run_fill_eq_none_iff : (fill path content).run fs = (fs', none) ↔
    ∃ p old, fs.locate path = .ok p ∧ fs.get? p = some (.file old) ∧
      fs' = fs.put p (.file content) := by
  rw [run, after_eq_none_iff, filled, bind_eq_ok_iff]
  refine exists_congr fun p => ?_
  rcases hp : fs.get? p with _ | _ | old <;> simp [eq_comm]

/-- A file is removed if it is there. -/
lemma run_remove_eq_none_iff : (remove path).run fs = (fs', none) ↔
    ∃ p old, fs.locate path = .ok p ∧ fs.get? p = some (.file old) ∧ fs' = fs.erase p := by
  rw [run, after_eq_none_iff, removed, bind_eq_ok_iff]
  refine exists_congr fun p => ?_
  rcases hp : fs.get? p with _ | _ | old <;> simp [eq_comm]

/-- A file is moved to a file name in a directory if there is no directory of that name. -/
lemma run_move_eq_none_iff {name : String} (hname : Path.IsFileName name) :
    (move source (Path.join dir name)).run fs = (fs', none) ↔
      ∃ p q old, fs.locate source = .ok p ∧ fs.locate (Path.join dir name) = .ok q ∧
        fs.get? p = some (.file old) ∧ fs.get? q ≠ some .directory ∧
        fs' = (fs.erase p).put q (.file old) := by
  rw [run, after_eq_none_iff, moved, bind_eq_ok_iff, hname.unslashed_join]
  refine exists_congr fun p => ?_
  rw [bind_eq_ok_iff, ← exists_and_left]
  refine exists_congr fun q => ?_
  rw [hname.endsInName_join]
  rcases hp : fs.get? p with _ | _ | old <;> by_cases hq : fs.get? q = some .directory <;>
    simp [hq, eq_comm]

/-- **Writing a file.** A file can be written where its path leads unless there is a directory. It
has the content then, and everything else is as it was, the working directory too. -/
lemma runAll_write {p : Place} (hp : fs.locate path = .ok p) (hfree : fs.get? p ≠ some .directory)
    (content : Bytes) :
    ∃ fs', runAll fs (write path content) = (fs', none) ∧ fs'.here = fs.here ∧
      fs'.locate path = .ok p ∧
      ∀ q, fs'.get? q = if q = p then some (.file content) else fs.get? q := by
  have hne : p ≠ [] := by
    rintro rfl
    exact hfree rfl
  -- directories are the same with the file as without it, so the path leads to the same place
  have hlocate : ∀ fs₁ : FileSystem, fs₁.here = fs.here →
      (∀ q, q ≠ p → fs₁.get? q = fs.get? q) → fs₁.locate path = .ok p := by
    intro fs₁ hhere hkept
    obtain ⟨hzero, hempty, hleads⟩ := locate_eq_ok_iff.mp hp
    refine locate_eq_ok_iff.mpr ⟨hzero, hempty, ?_⟩
    rw [start_congr hhere]
    refine hleads.mono fun r hr => ?_
    rw [hkept r (fun he => hfree (he ▸ hr)), hr]
  have hcreated := hlocate (fs.put p (.file [])) rfl fun q hq => by
    rw [get?_put hne, if_neg hq]
  have hcreate : (create path).run fs = (fs.put p (.file []), none) :=
    run_create_eq_none_iff.mpr ⟨p, hp, hfree, rfl⟩
  have hfill : (fill path content).run (fs.put p (.file [])) =
      ((fs.put p (.file [])).put p (.file content), none) :=
    run_fill_eq_none_iff.mpr ⟨p, [], hcreated, by rw [get?_put hne, if_pos rfl], rfl⟩
  have hget : ∀ q, ((fs.put p (.file [])).put p (.file content)).get? q =
      if q = p then some (.file content) else fs.get? q := by
    intro q
    rw [get?_put hne, get?_put hne]
    split_ifs <;> rfl
  refine ⟨(fs.put p (.file [])).put p (.file content), ?_, rfl, hlocate _ rfl fun q hq => ?_, hget⟩
  · exact runAll_cons_eq_none_iff.mpr ⟨_, hcreate, runAll_cons_eq_none_iff.mpr
      ⟨_, hfill, runAll_nil_eq_none_iff.mpr rfl⟩⟩
  · rw [hget, if_neg hq]

/-- Writing a file fails and changes nothing, or its path leads to a place without a directory. -/
lemma runAll_write_cases (fs : FileSystem) (path : String) (content : Bytes) :
    (∃ e, runAll fs (write path content) = (fs, some e)) ∨
      ∃ p, fs.locate path = .ok p ∧ fs.get? p ≠ some .directory := by
  rcases hcreate : (create path).run fs with ⟨fs₁, _ | e⟩
  · obtain ⟨p, hp, hfree, -⟩ := run_create_eq_none_iff.mp hcreate
    exact .inr ⟨p, hp, hfree⟩
  · obtain rfl := after_eq_some hcreate
    refine .inl ⟨e, ?_⟩
    rw [write, runAll, hcreate]

/-! ### Files in a directory -/

section Directory

variable {x name : String} {old : Bytes} (hfs : fs.Sound) (hd : fs.Opens dir d)

include hfs hd

/-- Creating a file in a directory. -/
lemma of_run_create (hx : Path.IsFileName x)
    (h : (create (Path.join dir x)).run fs = (fs', none)) :
    fs'.Sound ∧ Rewrites fs fs' d [x] ∧
      ∀ r, fs'.get? r = if r = d ++ [x] then some (.file []) else fs.get? r := by
  obtain ⟨p, hp, hfree, rfl⟩ := run_create_eq_none_iff.mp h
  obtain ⟨d', hd', hentry, rfl⟩ := (locate_join_eq_ok_iff hx).mp hp
  obtain rfl := hd'.unique hd
  exact hfs.putFile hd hentry hfree []

/-- Filling a file in a directory. -/
lemma of_run_fill (hx : Path.IsFileName x)
    (h : (fill (Path.join dir x) content).run fs = (fs', none)) :
    fs'.Sound ∧ Rewrites fs fs' d [x] ∧
      ∀ r, fs'.get? r = if r = d ++ [x] then some (.file content) else fs.get? r := by
  obtain ⟨p, old, hp, hold, rfl⟩ := run_fill_eq_none_iff.mp h
  obtain ⟨d', hd', hentry, rfl⟩ := (locate_join_eq_ok_iff hx).mp hp
  obtain rfl := hd'.unique hd
  exact hfs.putFile hd hentry (by rw [hold]; nofun) content

/-- Removing a file from a directory. -/
lemma of_run_remove (hx : Path.IsFileName x)
    (h : (remove (Path.join dir x)).run fs = (fs', none)) :
    fs'.Sound ∧ Rewrites fs fs' d [x] ∧
      ∀ r, fs'.get? r = if r = d ++ [x] then none else fs.get? r := by
  obtain ⟨p, old, hp, hold, rfl⟩ := run_remove_eq_none_iff.mp h
  obtain ⟨d', hd', -, rfl⟩ := (locate_join_eq_ok_iff hx).mp hp
  obtain rfl := hd'.unique hd
  exact hfs.eraseFile (by rw [hold]; nofun)

/-- Giving a file in a directory another name there. -/
lemma of_run_move (hx : Path.IsFileName x) (hname : Path.IsFileName name) (hne : name ≠ x)
    (h : (move (Path.join dir x) (Path.join dir name)).run fs = (fs', none)) :
    fs'.Sound ∧ Rewrites fs fs' d [x, name] ∧ ∃ content, fs.get? (d ++ [x]) = some (.file content) ∧
      ∀ r, fs'.get? r =
        if r = d ++ [name] then some (.file content)
        else if r = d ++ [x] then none else fs.get? r := by
  obtain ⟨p, q, old, hp, hq, hfile, hfree, rfl⟩ := (run_move_eq_none_iff hname).mp h
  obtain ⟨d', hd', -, rfl⟩ := (locate_join_eq_ok_iff hx).mp hp
  obtain rfl := hd'.unique hd
  obtain ⟨d'', hd'', hentry, rfl⟩ := (locate_join_eq_ok_iff hname).mp hq
  obtain rfl := hd''.unique hd
  obtain ⟨hsound, herase, hget⟩ := hfs.eraseFile (p := d'') (x := x) (by rw [hfile]; nofun)
  have hplaces : d'' ++ [name] ≠ d'' ++ [x] := by simp [hne]
  have hfree' : (fs.erase (d'' ++ [x])).get? (d'' ++ [name]) ≠ some .directory := by
    rw [hget, if_neg hplaces]
    exact hfree
  obtain ⟨hsound', hput, hget'⟩ := hsound.putFile (herase.opens hd) hentry hfree' old
  refine ⟨hsound', (herase.mono ?_).trans (hput.mono ?_), old, hfile, fun r => ?_⟩
  · simp
  · simp
  · rw [hget', hget]

end Directory

/-- **Publishing a file.** If all steps succeed, the directory has been made and holds the file
under its name with its whole content, the draft is gone, and everything else is as it was when the
directory had been made. -/
lemma of_runAll_publish {draft name : String} (hdraft : Path.IsFileName draft)
    (hname : Path.IsFileName name) (hne : name ≠ draft) (hfs : fs.Sound)
    (h : runAll fs (publish dir draft name content) = (fs', none)) :
    ∃ fs₁ d, (makeDirectory dir).run fs = (fs₁, none) ∧ fs₁.Opens dir d ∧ fs'.Sound ∧
      Rewrites fs₁ fs' d [draft, name] ∧
      ∀ r, fs'.get? r =
        if r = d ++ [name] then some (.file content)
        else if r = d ++ [draft] then none else fs₁.get? r := by
  simp only [publish, write, List.cons_append, List.nil_append, runAll_cons_eq_none_iff,
    runAll_nil_eq_none_iff] at h
  obtain ⟨fs₁, hmade, fs₂, hcreate, fs₃, hfill, fs₄, hmove, rfl⟩ := h
  obtain ⟨hfs₁, -⟩ := grows_of_run_makeDirectory hfs hmade
  obtain ⟨d, hd₁⟩ := opens_of_run_makeDirectory hfs hmade
  obtain ⟨hfs₂, hrw₂, hget₂⟩ := of_run_create hfs₁ hd₁ hdraft hcreate
  obtain ⟨hfs₃, hrw₃, hget₃⟩ := of_run_fill hfs₂ (hrw₂.opens hd₁) hdraft hfill
  obtain ⟨hfs₄, hrw₄, content', hfilled, hget₄⟩ :=
    of_run_move hfs₃ (hrw₃.opens (hrw₂.opens hd₁)) hdraft hname hne hmove
  obtain rfl : content = content' := by
    rw [hget₃, if_pos rfl] at hfilled
    exact Node.file.inj (Option.some.inj hfilled)
  refine ⟨fs₁, d, hmade, hd₁, hfs₄, ?_, fun r => ?_⟩
  · exact ((hrw₂.trans hrw₃).mono (List.cons_subset_cons draft (List.nil_subset _))).trans hrw₄
  · rw [hget₄, hget₃, hget₂]
    split_ifs <;> rfl

end Action

end CrudScaffold
