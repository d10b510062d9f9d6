import CrudScaffold.Proofs.FileSystem.Action

/-!
# What publishing leaves alone

Publishing a file takes several steps, and each of them can fail of what stands at the directory, at
the draft or at the name of the file. Whatever has happened, the files before and after are compared
place by place (`FileSystem.Confined`): directories may be new on the way to the directory, files of
certain names may have changed there, and everything else is as it was. If a step has failed the
only such name is that of the draft, since the file itself changes in the last step alone.
-/

namespace CrudScaffold

namespace FileSystem

variable {fs fs' fs₁ : FileSystem} {p d r : Place} {dir x : String} {files : List String}

/-! ### The way to a directory -/

/-- A place on the way to a directory: some of the first names of its path lead there. -/
def OnWay (fs : FileSystem) (dir : String) (r : Place) : Prop :=
  ∃ names, names <+: Path.route dir ∧ fs.Leads (fs.start dir) names r

/-- What is on the way to a directory stays there as long as all directories stay. -/
lemma OnWay.mono (h : fs.OnWay dir r) (hhere : fs'.here = fs.here)
    (hd : ∀ q, fs.get? q = some .directory → fs'.get? q = some .directory) : fs'.OnWay dir r := by
  obtain ⟨names, hnames, hleads⟩ := h
  refine ⟨names, hnames, ?_⟩
  rw [start_congr hhere]
  exact hleads.mono hd

/-- The ways that are tried to make a directory lead to places on the way to it. -/
lemma onWay_of_mem_ways {way : List String} (hway : way ∈ Path.ways dir)
    (h : fs.Leads (fs.start dir) way r) (hr : fs.get? r = some .directory) : fs.OnWay dir r := by
  rcases Path.of_mem_ways hway with rfl | ⟨k, -, rfl⟩
  · exact ⟨Path.route dir, List.prefix_rfl, h⟩
  · -- such a way is made of the first names of the route without the dots among them
    obtain ⟨names, hnames, hdescent⟩ := List.prefix_filter_iff.mp
      (List.take_prefix k (Path.descent (Path.route dir)))
    rw [hdescent] at h
    refine ⟨names, hnames, h.of_filter (fun y hy => .inr ?_) hr⟩
    simpa using hy

/-- Making a directory adds directories on the way to it and nothing else. -/
lemma grows_onWay {e : Option FileError} (hfs : fs.Sound)
    (h : (Action.makeDirectory dir).run fs = (fs', e)) :
    fs'.Sound ∧ Grows fs fs' (fs'.OnWay dir) := by
  obtain ⟨hsound, hgrows⟩ := Action.grows_of_run_makeDirectory hfs h
  refine ⟨hsound, hgrows.here, hgrows.kept, fun {r n} hr => ?_⟩
  rcases hgrows.added hr with hold | ⟨hn, way, hway, hleads⟩
  · exact .inl hold
  · rw [← start_congr hgrows.here] at hleads
    exact .inr ⟨hn, onWay_of_mem_ways hway hleads (hn ▸ hr)⟩

/-! ### Confined changes -/

/-- Nothing has changed but that directories are new on the way to a directory, and that files of
some names have changed in it, which were no directories before and are none now. -/
structure Confined (fs fs' : FileSystem) (dir : String) (files : List String) : Prop where
  here : fs'.here = fs.here
  places : ∀ r, fs'.get? r = fs.get? r ∨
    (fs.get? r = none ∧ fs'.get? r = some .directory ∧ fs'.OnWay dir r) ∨
    (fs.get? r ≠ some .directory ∧ fs'.get? r ≠ some .directory ∧
      ∃ d, ∃ x ∈ files, fs'.Opens dir d ∧ r = d ++ [x])

/-- Changes are confined if directories have been added first and files have changed then. -/
lemma Grows.confined (hgrows : Grows fs fs₁ (fs₁.OnWay dir)) (hd : fs₁.Opens dir d)
    (hrewrites : Rewrites fs₁ fs' d files) : Confined fs fs' dir files := by
  have hway : ∀ r, fs₁.OnWay dir r → fs'.OnWay dir r :=
    fun r hr => hr.mono hrewrites.here fun q => (hrewrites.directory q).mpr
  refine ⟨hrewrites.here.trans hgrows.here, fun r => ?_⟩
  by_cases hdirectory : fs₁.get? r = some .directory
  · have hnow := (hrewrites.directory r).mpr hdirectory
    rcases hgrows.added hdirectory with hold | ⟨-, hr⟩
    · exact .inl (hnow.trans hold.symm)
    · cases hold : fs.get? r with
      | none => exact .inr (.inl ⟨rfl, hnow, hway r hr⟩)
      | some n =>
        rw [hgrows.kept hold] at hdirectory
        exact .inl (hnow.trans hdirectory.symm)
  · have hsame : fs₁.get? r = fs.get? r := by
      cases hold : fs.get? r with
      | some n => exact hgrows.kept hold
      | none =>
        refine Option.eq_none_iff_forall_not_mem.mpr fun n hn => hdirectory ?_
        rcases hgrows.added hn with hold' | ⟨hn', -⟩
        · rw [hold] at hold'
          cases hold'
        · rw [hn, hn']
    by_cases hfile : ∃ x ∈ files, r = d ++ [x]
    · obtain ⟨x, hx, hr⟩ := hfile
      refine .inr (.inr ⟨hsame ▸ hdirectory, fun hnow => hdirectory ?_, d, x, hx,
        hrewrites.opens hd, hr⟩)
      exact (hrewrites.directory r).mp hnow
    · refine .inl ((hrewrites.kept r fun x hx hr => hfile ⟨x, hx, hr⟩).trans hsame)

/-- Changes are confined if directories have been added and nothing else has happened. -/
lemma Grows.confined_of_eq (hgrows : Grows fs fs' (fs'.OnWay dir)) : Confined fs fs' dir files := by
  refine ⟨hgrows.here, fun r => ?_⟩
  cases hold : fs.get? r with
  | some n => exact .inl (hgrows.kept hold)
  | none =>
    cases hnow : fs'.get? r with
    | none => exact .inl rfl
    | some n =>
      rcases hgrows.added hnow with hold' | ⟨rfl, hr⟩
      · rw [hold] at hold'
        cases hold'
      · exact .inr (.inl ⟨rfl, rfl, hr⟩)

/-- Files of other names have the content that they had, wherever they are, and there are no new
ones. -/
lemma Confined.get?_eq_file_iff (h : Confined fs fs' dir files) (hx : x ∉ files) (p : Place)
    (content : Bytes) :
    fs'.get? (p ++ [x]) = some (.file content) ↔ fs.get? (p ++ [x]) = some (.file content) := by
  rcases h.places (p ++ [x]) with hsame | ⟨hold, hnow, -⟩ | ⟨-, -, d, y, hy, -, hplace⟩
  · rw [hsame]
  · simp [hold, hnow]
  · obtain rfl : x = y := List.singleton_inj.mp (List.append_inj' hplace rfl).2
    exact absurd hy hx

end FileSystem

open FileSystem

/-! ### Publishing -/

namespace Action

variable {fs fs' : FileSystem} {dir draft name : String} {content : Bytes} {e : FileError}

/-- Steps fail if the first one does, or if it succeeds and the others fail. -/
lemma runAll_cons_eq_some {a : Action} {rest : List Action}
    (h : runAll fs (a :: rest) = (fs', some e)) :
    a.run fs = (fs', some e) ∨ ∃ fs₁, a.run fs = (fs₁, none) ∧ runAll fs₁ rest = (fs', some e) := by
  rw [runAll] at h
  split at h
  · rename_i fs₁ hrun
    exact .inr ⟨fs₁, hrun, h⟩
  · rename_i fs₁ e' hrun
    cases h
    exact .inl hrun

/-- Publishing fails while the directory is being made, or the draft is all that has changed
since. -/
lemma of_runAll_publish_eq_some (hdraft : Path.IsFileName draft) (hfs : fs.Sound)
    (h : runAll fs (publish dir draft name content) = (fs', some e)) :
    (makeDirectory dir).run fs = (fs', some e) ∨
      ∃ fs₁ d, (makeDirectory dir).run fs = (fs₁, none) ∧ fs₁.Opens dir d ∧ fs'.Sound ∧
        Rewrites fs₁ fs' d [draft] := by
  simp only [publish, write, List.cons_append, List.nil_append] at h
  rcases runAll_cons_eq_some h with hmade | ⟨fs₁, hmade, h⟩
  · exact .inl hmade
  obtain ⟨hfs₁, -⟩ := grows_onWay hfs hmade
  obtain ⟨d, hd⟩ := opens_of_run_makeDirectory hfs hmade
  refine .inr ⟨fs₁, d, hmade, hd, ?_⟩
  rcases runAll_cons_eq_some h with hcreate | ⟨fs₂, hcreate, h⟩
  · obtain rfl := after_eq_some hcreate
    exact ⟨hfs₁, rfl, fun r => Iff.rfl, fun r _ => rfl⟩
  obtain ⟨hfs₂, hcreated, -⟩ := of_run_create hfs₁ hd hdraft hcreate
  rcases runAll_cons_eq_some h with hfill | ⟨fs₃, hfill, h⟩
  · obtain rfl := after_eq_some hfill
    exact ⟨hfs₂, hcreated⟩
  obtain ⟨hfs₃, hfilled, -⟩ := of_run_fill hfs₂ (hcreated.opens hd) hdraft hfill
  rcases runAll_cons_eq_some h with hmove | ⟨fs₄, -, h⟩
  · obtain rfl := after_eq_some hmove
    exact ⟨hfs₃, hcreated.trans hfilled⟩
  · cases h

/-- Publishing that fails has made directories at most, and changed the draft. -/
lemma confined_of_runAll_publish_eq_some (hdraft : Path.IsFileName draft) (hfs : fs.Sound)
    (h : runAll fs (publish dir draft name content) = (fs', some e)) :
    Confined fs fs' dir [draft] := by
  rcases of_runAll_publish_eq_some hdraft hfs h with hmade | ⟨fs₁, d, hmade, hd, -, hrewrites⟩
  · exact (grows_onWay hfs hmade).2.confined_of_eq
  · exact (grows_onWay hfs hmade).2.confined hd hrewrites

/-- Publishing that succeeds has made directories at most, and changed the file, which holds the
whole content, and the draft, which is gone. -/
lemma confined_of_runAll_publish_eq_none (hdraft : Path.IsFileName draft)
    (hname : Path.IsFileName name) (hne : name ≠ draft) (hfs : fs.Sound)
    (h : runAll fs (publish dir draft name content) = (fs', none)) :
    Confined fs fs' dir [draft, name] ∧ fs'.read (Path.join dir name) = .ok content ∧
      ∃ d, fs'.Opens dir d ∧ fs'.get? (d ++ [draft]) = none := by
  obtain ⟨fs₁, d, hmade, hd, hfs', hrewrites, hget⟩ := of_runAll_publish hdraft hname hne hfs h
  have hgrows := (grows_onWay hfs hmade).2
  have hd' := hrewrites.opens hd
  have hfile : fs'.get? (d ++ [name]) = some (.file content) := by rw [hget, if_pos rfl]
  refine ⟨hgrows.confined hd hrewrites, read_join hfs' hname hd' hfile, d, hd', ?_⟩
  rw [hget, if_neg (by simpa using hne.symm), if_pos rfl]

end Action

end CrudScaffold
