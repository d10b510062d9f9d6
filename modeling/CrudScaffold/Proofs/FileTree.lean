import CrudScaffold.FileTree
import CrudScaffold.Proofs.List

/-!
# Laws of file trees

A tree holds its files twice over, as a list and as the places of their paths, and every access
trusts the two to agree. `FileTree.Sound` says what agreement means, `sound_ofList` that every tree
that is built by putting files in has it. From there on a tree can be read off the list of the
files that were put in: its paths are theirs in the order of their first occurrence, and the content
at a path is that of the last of them.
-/

namespace CrudScaffold

namespace FileTree

variable {t u : FileTree} {p q c : String}

/-! ### Sound trees -/

/-- Every path of a tree is there once, and its place is known. -/
structure Sound (t : FileTree) : Prop where
  nodup : t.paths.Nodup
  places : t.places = t.paths.zipIdx.reverse

/-- Sound trees with the same files are the same. -/
lemma Sound.ext (ht : t.Sound) (hu : u.Sound) (h : t.files = u.files) : t = u := by
  obtain ⟨files, places⟩ := t
  obtain ⟨files', places'⟩ := u
  have hp : places = places' := by
    rw [show places = _ from ht.places, show places' = _ from hu.places]
    simp only [paths, show files = files' from h]
  exact congrArg₂ FileTree.mk h hp

/-- A sound tree knows the place of a path as the first one in the list. -/
lemma Sound.place?_eq (h : t.Sound) (p : String) : t.place? p = t.paths.idxOf? p := by
  rw [place?, h.places, lookup_reverse_zipIdx h.nodup]

/-- A path has no place exactly if it is not there. -/
lemma Sound.place?_eq_none_iff (h : t.Sound) : t.place? p = none ↔ p ∉ t.paths := by
  rw [h.place?_eq, List.idxOf?_eq_none_iff]

/-- What stands at the place of a path is the file of that path. -/
lemma Sound.place?_eq_some_iff (h : t.Sound) {i : Nat} :
    t.place? p = some i ↔ t.paths[i]? = some p := by
  rw [h.place?_eq, List.idxOf?_eq_some_iff]
  constructor
  · rintro ⟨hi, hp, -⟩
    rw [List.getElem?_eq_getElem hi, hp]
  · intro hp
    obtain ⟨hi, hp⟩ := List.getElem?_eq_some_iff.mp hp
    refine ⟨hi, hp, fun j hj hjp => ?_⟩
    have heq : j = i := h.nodup.getElem_inj_iff.mp (hjp.trans hp.symm)
    exact absurd heq (Nat.ne_of_lt hj)

/-- A path that is there has a place among the files. -/
lemma Sound.exists_place? (h : t.Sound) (hp : p ∈ t.paths) :
    ∃ i f, t.place? p = some i ∧ t.files[i]? = some f ∧ f.path = p := by
  obtain ⟨i, hi⟩ := List.mem_iff_getElem?.mp hp
  obtain ⟨f, hf, hfp⟩ := Option.map_eq_some_iff.mp ((List.getElem?_map ..).symm.trans hi)
  exact ⟨i, f, h.place?_eq_some_iff.mpr hi, hf, hfp⟩

/-- The content at the path of a file of a sound tree is that of the file. -/
lemma Sound.get?_of_mem (h : t.Sound) {f : File} (hf : f ∈ t.files) :
    t.get? f.path = some f.content := by
  obtain ⟨i, hi⟩ := List.mem_iff_getElem?.mp hf
  have hplace : t.place? f.path = some i := by
    rw [h.place?_eq_some_iff, paths, List.getElem?_map, hi]
    rfl
  rw [get?, hplace, Option.bind_some, hi]
  rfl

/-- What a sound tree has at a path is the content of a file of that path. -/
lemma Sound.get?_eq_some_iff (h : t.Sound) : t.get? p = some c ↔ ⟨p, c⟩ ∈ t.files := by
  refine ⟨fun hget => ?_, h.get?_of_mem⟩
  obtain ⟨i, hi, hcontent⟩ := Option.bind_eq_some_iff.mp hget
  obtain ⟨f, hf, rfl⟩ := Option.map_eq_some_iff.mp hcontent
  have hpath : f.path = p := by
    have hp : t.paths[i]? = some p := h.place?_eq_some_iff.mp hi
    rw [paths, List.getElem?_map, hf] at hp
    exact Option.some.inj hp
  exact hpath ▸ List.mem_of_getElem? hf

/-! ### One step -/

/-- A file at a new path comes last. -/
lemma Sound.put_of_notMem (h : t.Sound) (hp : p ∉ t.paths) :
    t.put p c = (none, ⟨t.files ++ [⟨p, c⟩], (p, t.files.length) :: t.places⟩) := by
  rw [put, h.place?_eq_none_iff.mpr hp]

/-- A file at a path that is taken replaces the content there. -/
lemma put_of_place? {i : Nat} (hi : t.place? p = some i) :
    t.put p c = (t.files[i]?.map File.content,
      { t with files := t.files.modify i fun f => { f with content := c } }) := by
  rw [put, hi]

/-- The paths after a file has been put in. -/
lemma Sound.paths_insert (h : t.Sound) (p c : String) :
    (t.insert p c).paths = if p ∈ t.paths then t.paths else t.paths ++ [p] := by
  by_cases hp : p ∈ t.paths
  · obtain ⟨i, -, hi, -⟩ := h.exists_place? hp
    rw [insert, put_of_place? hi, if_pos hp]
    apply List.ext_getElem?
    intro j
    simp only [paths, List.getElem?_map, List.getElem?_modify]
    cases t.files[j]? <;> by_cases hij : i = j <;> simp [hij]
  · rw [insert, h.put_of_notMem hp, if_neg hp]
    simp [paths]

/-- Putting in a file keeps a tree sound. -/
lemma Sound.insert (h : t.Sound) (p c : String) : (t.insert p c).Sound := by
  have hpaths := h.paths_insert p c
  by_cases hp : p ∈ t.paths
  · rw [if_pos hp] at hpaths
    obtain ⟨i, -, hi, -⟩ := h.exists_place? hp
    refine ⟨hpaths ▸ h.nodup, ?_⟩
    rw [hpaths, FileTree.insert, put_of_place? hi]
    exact h.places
  · rw [if_neg hp] at hpaths
    constructor
    · rw [hpaths]
      exact List.nodup_append.mpr ⟨h.nodup, by simp, by grind⟩
    · rw [hpaths, FileTree.insert, h.put_of_notMem hp, List.zipIdx_append, List.reverse_append]
      simp [h.places, paths]

/-- The content at a path after a file has been put in. -/
lemma Sound.get?_insert (h : t.Sound) (p c q : String) :
    (t.insert p c).get? q = if q = p then some c else t.get? q := by
  by_cases hp : p ∈ t.paths
  · obtain ⟨i, f, hi, hf, -⟩ := h.exists_place? hp
    rw [FileTree.insert, put_of_place? hi]
    by_cases hq : q = p
    · subst hq
      have hi' : t.places.lookup q = some i := hi
      simp [get?, place?, hi', hf]
    · -- another path has another place, which is left as it is
      have hne : ∀ j, t.place? q = some j → i ≠ j := by
        rintro j hj rfl
        have := (h.place?_eq_some_iff.mp hj).symm.trans (h.place?_eq_some_iff.mp hi)
        exact hq (Option.some.inj this)
      rw [if_neg hq]
      simp only [get?, place?] at hne ⊢
      cases hj : t.places.lookup q with
      | none => rfl
      | some j => simp [List.getElem?_modify, hne j hj, Function.comp_def]
  · rw [FileTree.insert, h.put_of_notMem hp]
    by_cases hq : q = p
    · simp [get?, place?, hq]
    · have hb : (q == p) = false := by simpa using hq
      rw [if_neg hq]
      simp only [get?, place?, List.lookup_cons, hb]
      cases hj : t.places.lookup q with
      | none => rfl
      | some j =>
        have hj' : t.paths[j]? = some q := h.place?_eq_some_iff.mp hj
        have hlt : j < t.files.length := by
          simpa [paths] using (List.getElem?_eq_some_iff.mp hj').1
        simp [List.getElem?_append_left hlt]

/-! ### Whole lists of files -/

@[simp] lemma sound_empty : empty.Sound := ⟨List.nodup_nil, rfl⟩

@[simp] lemma ofList_append_singleton (files : List File) (f : File) :
    ofList (files ++ [f]) = (ofList files).insert f.path f.content := by
  simp [ofList]

/-- Every tree that is built by putting files in is sound. -/
lemma sound_ofList (files : List File) : (ofList files).Sound := by
  induction files using List.reverseRecOn with
  | nil => exact sound_empty
  | append_singleton files f ih =>
    rw [ofList_append_singleton]
    exact ih.insert f.path f.content

/-- The paths of a tree are those of the files that were put in, by first occurrence. -/
lemma paths_ofList (files : List File) :
    (ofList files).paths = (files.map File.path).eraseDups := by
  induction files using List.reverseRecOn with
  | nil => rfl
  | append_singleton files f ih =>
    rw [ofList_append_singleton, (sound_ofList files).paths_insert, ih, List.map_append,
      List.map_singleton, eraseDups_append_singleton]
    simp only [List.mem_eraseDups]

/-- The content at a path is that of the last file that was put in there. -/
lemma get?_ofList (files : List File) (p : String) :
    (ofList files).get? p = (files.reverse.find? fun f => f.path = p).map File.content := by
  induction files using List.reverseRecOn with
  | nil => rfl
  | append_singleton files f ih =>
    rw [ofList_append_singleton, (sound_ofList files).get?_insert, List.reverse_append]
    by_cases hp : f.path = p
    · simp [hp]
    · simp [hp, Ne.symm hp, ih]

/-- The files of a tree are some of those that were put in. -/
lemma mem_of_mem_files_ofList {files : List File} {f : File} (h : f ∈ (ofList files).files) :
    f ∈ files := by
  have hget := (sound_ofList files).get?_of_mem h
  rw [get?_ofList] at hget
  obtain ⟨g, hg, hcontent⟩ := Option.map_eq_some_iff.mp hget
  have hpath : g.path = f.path := by simpa using List.find?_some hg
  obtain rfl : g = f := by
    cases g
    cases f
    exact congrArg₂ File.mk hpath hcontent
  exact List.mem_reverse.mp (List.mem_of_find?_eq_some hg)

/-- Files with different paths stay as they are. -/
lemma files_ofList {files : List File} (h : (files.map File.path).Nodup) :
    (ofList files).files = files := by
  induction files using List.reverseRecOn with
  | nil => rfl
  | append_singleton files f ih =>
    rw [List.map_append, List.map_singleton] at h
    have hfiles : (files.map File.path).Nodup := (List.nodup_append.mp h).1
    have hf : f.path ∉ (ofList files).paths := by
      rw [paths, ih hfiles]
      exact fun hm => (List.nodup_append.mp h).2.2 _ hm f.path (by simp) rfl
    rw [ofList_append_singleton, FileTree.insert, (sound_ofList files).put_of_notMem hf, ih hfiles]

/-- A sound tree is built by putting in its own files. -/
lemma Sound.ofList_files (h : t.Sound) : ofList t.files = t :=
  (sound_ofList t.files).ext h (files_ofList h.nodup)

/-! ### Trees that agree -/

/-- Two trees have the same paths in the same order, and outside of a part the same contents. -/
structure AgreesOutside (changed : String → Prop) (t u : FileTree) : Prop where
  paths : t.paths = u.paths
  get? : ∀ p, ¬ changed p → t.get? p = u.get? p

end FileTree

/-- Two files lie at the same path, and outside of a part they have the same content. -/
def File.AgreesOutside (changed : String → Prop) (f g : File) : Prop :=
  f.path = g.path ∧ (¬ changed f.path → f.content = g.content)

/-- A file agrees with itself. -/
lemma File.AgreesOutside.refl {changed : String → Prop} (f : File) : f.AgreesOutside changed f :=
  ⟨rfl, fun _ => rfl⟩

/-- In lists of files that agree one by one the first files at a path have the same content, unless
the path is in the part. -/
lemma File.map_content_find?_congr {changed : String → Prop} {files files' : List File}
    (h : List.Forall₂ (File.AgreesOutside changed) files files') {p : String} (hp : ¬ changed p) :
    (files.find? fun f => f.path = p).map File.content =
      (files'.find? fun f => f.path = p).map File.content := by
  induction h with
  | nil => rfl
  | @cons f g files files' hf _ ih =>
    by_cases hfp : f.path = p
    · have hgp : g.path = p := hf.1.symm.trans hfp
      simp [hfp, hgp, hf.2 (hfp ▸ hp)]
    · have hgp : g.path ≠ p := fun he => hfp (hf.1.trans he)
      simpa [hfp, hgp] using ih

/-- Lists of files that agree one by one make trees that agree. -/
lemma FileTree.agreesOutside_ofList {changed : String → Prop} {files files' : List File}
    (h : List.Forall₂ (File.AgreesOutside changed) files files') :
    (ofList files).AgreesOutside changed (ofList files') := by
  constructor
  · have hpaths : files.map File.path = files'.map File.path := by
      induction h with
      | nil => rfl
      | cons hf _ ih => rw [List.map_cons, List.map_cons, hf.1, ih]
    rw [paths_ofList, paths_ofList, hpaths]
  · intro p hp
    rw [get?_ofList, get?_ofList]
    exact File.map_content_find?_congr (List.forall₂_reverse_iff.mpr h) hp

end CrudScaffold
