import CrudScaffold.Proofs.Store.Atomicity

/-!
# Listing what has been written

A directory that nothing but the store writes to has a history (`Store.Written`): it was empty or
not there, diagrams have been written, some attempts have failed, and whatever else has happened did
not concern the directory. Every step of such a history keeps the entries of the directory the files
of the names that have been written, and drafts of attempts that have failed (`Store.Keeps`).

The list of a store is made by a search for a pattern, and the path of the directory is a part of
that pattern. So it is the list of the names that have been written as long as the path has no
character that stands for others in a pattern. With such a character the search looks elsewhere.
-/

namespace CrudScaffold

open FileSystem

namespace Store

/-- There is nothing in the directory of a store, or there will be nothing as soon as it is made. -/
def IsBare (s : Store) (fs : FileSystem) : Prop :=
  ∀ fs₁ d x, (Action.makeDirectory s.dir).run fs = (fs₁, none) → fs₁.Opens s.dir d →
    fs₁.get? (d ++ [x]) = none

/-- The history of a directory that only a store writes to: the names of the diagrams that have been
written to it, the last one first. -/
inductive Written (s : Store) : FileSystem → List String → Prop
  /-- Nothing has been written. -/
  | start {fs : FileSystem} (hfs : fs.Sound) (hbare : s.IsBare fs) : Written s fs []
  /-- A diagram has been written. -/
  | write {fs fs' : FileSystem} {names : List String} {name : String} {snapshot : Snapshot}
      (h : Written s fs names) (hwrite : s.write fs name snapshot = (fs', .ok ())) :
      Written s fs' (name :: names)
  /-- An attempt to write a diagram to the directory has failed. -/
  | fail {fs fs' : FileSystem} {names : List String} {name : String} {snapshot : Snapshot}
      {e : StoreError} {d : Place} (h : Written s fs names) (hd : fs.Opens s.dir d)
      (hwrite : s.write fs name snapshot = (fs', .error e)) : Written s fs' names
  /-- The files have changed, but not those of the directory, which may have been moved. -/
  | elsewhere {fs fs' : FileSystem} {names : List String} {d d' : Place} (h : Written s fs names)
      (hd : fs.Opens s.dir d) (hfs' : fs'.Sound) (hd' : fs'.Opens s.dir d')
      (hsame : ∀ x, fs'.get? (d' ++ [x]) = fs.get? (d ++ [x])) : Written s fs' names

/-- The entries of a directory are the files of some names, and drafts. -/
structure HoldsNames (fs : FileSystem) (d : Place) (names : List String) : Prop where
  files : ∀ n ∈ names, (fs.get? (d ++ [fileName n])).isSome
  entries : ∀ x, (fs.get? (d ++ [x])).isSome → (∃ n ∈ names, x = fileName n) ∨ ∃ n, x = draftName n

/-- A store keeps the files of some names, and drafts. -/
structure Keeps (s : Store) (fs : FileSystem) (names : List String) : Prop where
  sound : fs.Sound
  valid : ∀ n ∈ names, isValidName n
  entries : names = [] ∧ s.IsBare fs ∨ ∃ d, fs.Opens s.dir d ∧ HoldsNames fs d names

variable {s : Store} {fs fs' : FileSystem} {names : List String} {name : String}
  {snapshot : Snapshot} {d : Place}

/-! ### Directories -/

/-- There is nothing in a directory that will be made on a straight way. -/
lemma isBare_of_isStraight (hfs : fs.Sound) (hnew : ∀ d, ¬ fs.Opens s.dir d)
    (hway : fs.IsStraight s.dir) : s.IsBare fs :=
  fun _ _ x hmade hd => Action.get?_eq_none_of_run_makeDirectory hfs hmade hnew hway hd x

/-- An empty directory holds the files of no names. -/
lemma holdsNames_nil (h : ∀ x, fs.get? (d ++ [x]) = none) : HoldsNames fs d [] := by
  refine ⟨fun n hn => absurd hn List.not_mem_nil, fun x hx => ?_⟩
  rw [h] at hx
  cases hx

/-- A directory with the same entries holds the files of the same names. -/
lemma HoldsNames.congr {d' : Place} (h : HoldsNames fs d names)
    (hsame : ∀ x, fs'.get? (d' ++ [x]) = fs.get? (d ++ [x])) : HoldsNames fs' d' names := by
  constructor
  · intro n hn
    rw [hsame]
    exact h.files n hn
  · intro x hx
    rw [hsame] at hx
    exact h.entries x hx

/-- A draft makes no difference to the names that a directory holds the files of. -/
lemma HoldsNames.of_rewrites_draft (h : HoldsNames fs d names)
    (hrewrites : Rewrites fs fs' d [draftName name]) : HoldsNames fs' d names := by
  have hkept : ∀ x, x ≠ draftName name → fs'.get? (d ++ [x]) = fs.get? (d ++ [x]) := by
    intro x hx
    refine hrewrites.kept _ fun y hy => ?_
    rw [List.mem_singleton.mp hy]
    simpa using hx
  constructor
  · intro n hn
    rw [hkept _ (fileName_ne_draftName n name)]
    exact h.files n hn
  · intro x hx
    by_cases hdraft : x = draftName name
    · exact .inr ⟨name, hdraft⟩
    · rw [hkept x hdraft] at hx
      exact h.entries x hx

/-! ### Steps -/

namespace Keeps

variable (h : s.Keeps fs names)

include h

/-- Making the directory of a store, if it is not there, makes no difference to the names. -/
lemma holdsNames_of_made {fs₁ : FileSystem}
    (hmade : (Action.makeDirectory s.dir).run fs = (fs₁, none)) (hd : fs₁.Opens s.dir d) :
    HoldsNames fs₁ d names := by
  rcases h.entries with ⟨rfl, hbare⟩ | ⟨d', hd', hholds⟩
  · exact holdsNames_nil fun x => hbare fs₁ d x hmade hd
  · rw [Action.run_makeDirectory_of_opens hd'] at hmade
    cases hmade
    exact hd.unique hd' ▸ hholds

/-- The directory of a store, if it is there, holds the files of the names. -/
lemma holdsNames (hd : fs.Opens s.dir d) : HoldsNames fs d names :=
  h.holdsNames_of_made (Action.run_makeDirectory_of_opens hd) hd

/-- Writing a diagram adds its name. -/
lemma write (hwrite : s.write fs name snapshot = (fs', .ok ())) : s.Keeps fs' (name :: names) := by
  have hname : isValidName name := by
    by_contra hname
    rw [write_of_not_isValidName hname] at hwrite
    cases hwrite
  rw [write_of_isValidName hname, carryOut_ok_eq_ok_iff] at hwrite
  obtain ⟨fs₁, d, hmade, hd, hsound, hrewrites, hget⟩ := Action.of_runAll_publish
    (isFileName_draftName hname) (isFileName_fileName hname) (fileName_ne_draftName name name)
    h.sound hwrite
  have hholds := h.holdsNames_of_made hmade hd
  refine ⟨hsound, List.forall_mem_cons.mpr ⟨hname, h.valid⟩, .inr ⟨d, hrewrites.opens hd, ?_, ?_⟩⟩
  · intro n hn
    rw [hget]
    split_ifs with hfile hdraft
    · rfl
    · simp at hdraft
    · rcases List.mem_cons.mp hn with rfl | hn
      · exact absurd rfl hfile
      · exact hholds.files n hn
  · intro x hx
    rw [hget] at hx
    split_ifs at hx with hfile hdraft
    · exact .inl ⟨name, List.mem_cons_self, by simpa using hfile⟩
    · cases hx
    · refine (hholds.entries x hx).imp_left fun ⟨n, hn, hxn⟩ => ?_
      exact ⟨n, List.mem_cons_of_mem name hn, hxn⟩

/-- An attempt to write a diagram to the directory that fails leaves the names. -/
lemma fail {e : StoreError} (hd : fs.Opens s.dir d)
    (hwrite : s.write fs name snapshot = (fs', .error e)) : s.Keeps fs' names := by
  by_cases hname : isValidName name
  · rw [write_of_isValidName hname] at hwrite
    obtain ⟨e', -, hrun⟩ := carryOut_ok_eq_error hwrite
    have hthere := Action.run_makeDirectory_of_opens hd
    rcases Action.of_runAll_publish_eq_some (isFileName_draftName hname) h.sound hrun with
      hmade | ⟨fs₁, d', hmade, hd', hsound, hrewrites⟩
    · rw [hthere] at hmade
      cases hmade
    · have hholds := h.holdsNames_of_made hmade hd'
      exact ⟨hsound, h.valid, .inr ⟨d', hrewrites.opens hd', hholds.of_rewrites_draft hrewrites⟩⟩
  · rw [write_of_not_isValidName hname] at hwrite
    cases hwrite
    exact h

/-- Changes of other files leave the names. -/
lemma elsewhere {d' : Place} (hd : fs.Opens s.dir d) (hfs' : fs'.Sound) (hd' : fs'.Opens s.dir d')
    (hsame : ∀ x, fs'.get? (d' ++ [x]) = fs.get? (d ++ [x])) : s.Keeps fs' names :=
  ⟨hfs', h.valid, .inr ⟨d', hd', (h.holdsNames hd).congr hsame⟩⟩

end Keeps

/-- After any history the store keeps the files of the names that have been written. -/
lemma Written.keeps (h : s.Written fs names) : s.Keeps fs names := by
  induction h with
  | start hfs hbare => exact ⟨hfs, fun n hn => absurd hn List.not_mem_nil, .inl ⟨rfl, hbare⟩⟩
  | write _ hwrite ih => exact ih.write hwrite
  | fail _ hd hwrite ih => exact ih.fail hd hwrite
  | elsewhere _ hd hfs' hd' hsame ih => exact ih.elsewhere hd hfs' hd' hsame

/-! ### The list -/

/-- An entry with the ending of a diagram is the file of one of the names. -/
lemma HoldsNames.eq_fileName (h : HoldsNames fs d names) {x : String} (hx : x ∈ fs.children d)
    (hending : ".json".toList <:+ x.toList) : ∃ n ∈ names, x = fileName n := by
  refine (h.entries x (mem_children.mp hx)).resolve_right ?_
  rintro ⟨n, rfl⟩
  obtain ⟨front, hfront⟩ := hending
  refine fileName_ne_draftName (String.ofList front) n (String.toList_injective ?_)
  rw [fileName, String.toList_append, String.toList_ofList, hfront]

/-- The names that a directory is listed with are those that it holds the files of. -/
lemma HoldsNames.mem_listed (h : HoldsNames fs d names) (hvalid : ∀ n ∈ names, isValidName n)
    {n : String} : n ∈ listed (fs.children d) ↔ n ∈ names := by
  simp only [listed, List.mem_filter, List.mem_map, decide_eq_true_eq, bne_iff_ne]
  constructor
  · rintro ⟨⟨x, ⟨hx, hending⟩, rfl⟩, -⟩
    obtain ⟨k, hk, rfl⟩ := h.eq_fileName hx hending
    rw [stem_fileName (of_isValidName (hvalid k hk)).1]
    exact hk
  · intro hn
    obtain ⟨hne, hdot, -⟩ := of_isValidName (hvalid n hn)
    refine ⟨⟨fileName n, ⟨mem_children.mpr (h.files n hn), ?_⟩, stem_fileName hne⟩, hdot⟩
    rw [fileName, String.toList_append]
    exact List.suffix_append _ _

/-- A directory is listed without repetition. -/
lemma HoldsNames.nodup_listed (h : HoldsNames fs d names) (hvalid : ∀ n ∈ names, isValidName n)
    (hfs : fs.Sound) : (listed (fs.children d)).Nodup := by
  refine (List.Nodup.map_on ?_ ((hfs.nodup_children d).filter _)).filter _
  intro x hx y hy hxy
  simp only [List.mem_filter, decide_eq_true_eq] at hx hy
  obtain ⟨n, hn, rfl⟩ := h.eq_fileName hx.1 hx.2
  obtain ⟨k, hk, rfl⟩ := h.eq_fileName hy.1 hy.2
  rw [stem_fileName (of_isValidName (hvalid n hn)).1,
    stem_fileName (of_isValidName (hvalid k hk)).1] at hxy
  rw [hxy]

/-- Nothing is listed where there is no directory. -/
lemma list_eq_nil (hplain : ∀ c ∈ s.dir.toList, Glob.IsPlain c) (h : ∀ d, ¬ fs.Opens s.dir d) :
    s.list fs = .ok [] := by
  rw [list]
  cases hhas : fs.has s.dir with
  | false => rfl
  | true =>
    obtain ⟨p, hp, -⟩ := has_iff.mp hhas
    obtain ⟨hzero, -⟩ := locate_eq_ok_iff.mp hp
    have hfind : Glob.find? fs (Path.join s.dir "*.json") = some [] :=
      Glob.find?_join_of_forall_ne ".json" hplain (List.all_iff_forall_prop.mp (by decide))
        (by decide) fun d hleads hd => h d ⟨hzero, hleads, hd⟩
    simp [hfind]

/-- **Listing what has been written.** If the path of a directory is not empty and has no question
mark, star or opening bracket in it, and nothing but the store has written to the directory, then
the list of the store is that of the names that have been written, in order and without
repetition. -/
theorem list_of_written (s : Store) (fs : FileSystem) (names : List String) (hdir : s.dir ≠ "")
    (hplain : ∀ c ∈ s.dir.toList, c ≠ '?' ∧ c ≠ '*' ∧ c ≠ '[') (h : s.Written fs names) :
    ∃ listing, s.list fs = .ok listing ∧ listing.Pairwise (· < ·) ∧
      ∀ n, n ∈ listing ↔ n ∈ names := by
  have hkeeps := h.keeps
  by_cases hopens : ∃ d, fs.Opens s.dir d
  · obtain ⟨d, hd⟩ := hopens
    have hholds := hkeeps.holdsNames hd
    refine ⟨_, s.list_eq_of_opens hdir hplain hd, ?_, fun n => ?_⟩
    · exact pairwise_lt_mergeSort (hholds.nodup_listed hkeeps.valid hkeeps.sound)
    · rw [List.mem_mergeSort, hholds.mem_listed hkeeps.valid]
  · have hnew := not_exists.mp hopens
    refine ⟨[], list_eq_nil hplain hnew, List.Pairwise.nil, fun n => ?_⟩
    rcases hkeeps.entries with ⟨rfl, -⟩ | ⟨d, hd, -⟩
    · exact Iff.rfl
    · exact absurd hd (hnew d)

/-- A store that begins where there is no directory has nothing written to it yet. -/
lemma written_nil (hfs : fs.Sound) (hdir : s.dir ≠ "") (habsent : fs.has s.dir = false)
    (hdots : ".." ∉ Path.route s.dir) : s.Written fs [] := by
  refine .start hfs (isBare_of_isStraight hfs (fun d hd => ?_) (.inl hdots))
  rw [hd.has hdir] at habsent
  cases habsent

/-- A successful attempt to write adds to the history of a directory. -/
lemma Written.of_isOk (h : s.Written fs names) (hok : (s.write fs name snapshot).2.isOk) :
    s.Written (s.write fs name snapshot).1 (name :: names) := by
  rcases hresult : s.write fs name snapshot with ⟨fs', e | u⟩
  · rw [hresult] at hok
    cases hok
  · exact h.write hresult

/-- Two diagrams that have been written to a directory next to other files. -/
def shelved : FileSystem :=
  let fs := ((mk "shelf").write { nodes := [(["c.json"], .file [])] } "b" {}).1
  ((mk "shelf").write fs "a" {}).1

/-- The directory is listed with the names of its two diagrams. -/
theorem list_of_written_shelved :
    (mk "shelf").dir ≠ "" ∧ (∀ c ∈ (mk "shelf").dir.toList, c ≠ '?' ∧ c ≠ '*' ∧ c ≠ '[') ∧
    (mk "shelf").Written shelved ["a", "b"] ∧
    ∃ listing, (mk "shelf").list shelved = .ok listing ∧ listing.Pairwise (· < ·) ∧
      ∀ n, n ∈ listing ↔ n ∈ ["a", "b"] := by
  have hdir : (mk "shelf").dir ≠ "" := by decide
  have hplain : ∀ c ∈ (mk "shelf").dir.toList, c ≠ '?' ∧ c ≠ '*' ∧ c ≠ '[' :=
    List.all_iff_forall_prop.mp (by decide)
  have hfs : FileSystem.Sound { nodes := [(["c.json"], .file [])] } :=
    sound_of_forall_mem (by decide) (by decide) (by decide) rfl
  have hwritten : (mk "shelf").Written shelved ["a", "b"] := by
    refine ((written_nil hfs hdir (by decide) (by decide)).of_isOk ?_).of_isOk ?_
    · decide +kernel
    · decide +kernel
  exact ⟨hdir, hplain, hwritten, list_of_written _ shelved _ hdir hplain hwritten⟩

/-- A diagram that has been written to a directory with brackets in its name. -/
def bracketed : FileSystem := ((mk "a[b]").write {} "x" {}).1

/-- The directory with brackets in its name is listed as if nothing had been written: its path as a
pattern stands for a directory `ab`. -/
theorem list_bracketed :
    (mk "a[b]").dir ≠ "" ∧ (mk "a[b]").Written bracketed ["x"] ∧
    bracketed.has ((mk "a[b]").path "x") ∧ (mk "a[b]").list bracketed = .ok [] := by
  have hdir : (mk "a[b]").dir ≠ "" := by decide
  have hwritten : (mk "a[b]").Written bracketed ["x"] := by
    refine (written_nil sound_empty hdir (by decide) (by decide)).of_isOk ?_
    decide +kernel
  have hparts : Path.splitChars (String.ofList
      ((Path.join "a[b]" "*.json").toList.dropWhile (· = '/'))).toList =
        ["a[b]".toList, '*' :: ".json".toList] := by decide
  have hinner : Glob.bracketed? ['b', ']'] = some (['b'], []) := by decide
  have htokens : Glob.tokens? ['[', 'b', ']'] = some [.oneOf [('b', 'b')]] := by
    rw [Glob.tokens?]
    split
    · rename_i hnone
      rw [hinner] at hnone
      cases hnone
    · rename_i hsome
      rw [hinner] at hsome
      cases hsome
      simp [Glob.tokens?, Glob.ranges]
    · simp
  have hname : Glob.component? "a[b]".toList = some (.name [.char 'a', .oneOf [('b', 'b')]]) := by
    simp [Glob.component?, Glob.tokens?, htokens]
  have hstar : Glob.component? ('*' :: ".json".toList) =
      some (.name (.anyChars :: ".json".toList.map .char)) :=
    Glob.component?_star (List.all_iff_forall_prop.mp (by decide))
  have hpattern : Glob.pattern? (String.ofList
      ((Path.join "a[b]" "*.json").toList.dropWhile (· = '/'))) =
        some [.name [.char 'a', .oneOf [('b', 'b')]],
          .name (.anyChars :: ".json".toList.map .char)] := by
    rw [Glob.pattern?, hparts, List.mapM_cons, List.mapM_cons, hname, hstar]
    rfl
  have hchildren : bracketed.children [] = ["a[b]"] := by decide +kernel
  have hnone : Glob.next bracketed [.char 'a', .oneOf [('b', 'b')]] [] = [] := by
    simp [Glob.next, Glob.literal?, hchildren, Glob.fits, Glob.inRanges]
  have hthere : bracketed.has "a[b]" := by decide +kernel
  refine ⟨hdir, hwritten, by decide +kernel, ?_⟩
  have hstart : bracketed.start (Path.join "a[b]" "*.json") = [] := by decide +kernel
  rw [list, Glob.find?, hpattern, hthere]
  simp [hstart, Glob.search, hnone]

end Store

end CrudScaffold
