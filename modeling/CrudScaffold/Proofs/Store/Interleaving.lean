import Mathlib.Logic.Function.Iterate
import CrudScaffold.Proofs.FileSystem.Publication
import CrudScaffold.Proofs.Store.Catalog

/-!
# Writers and readers at the same time

Several writers store diagrams under one name. Each takes the steps of publishing one by one, the
steps of different writers come in any order, and readers come between them. The name alone decides
where a draft is, so the writers share one. If no two of them have a draft at the same time, every
reader meets what was there in the beginning or one of the diagrams as a whole
(`Store.reads_whole_of_exclusive`); a single writer always has its draft to itself
(`Writers.exclusive_of_length_le_one`). If a writer begins while another one has its draft ready,
the draft is emptied and then moved into place, and a reader meets an empty file
(`Store.reads_emptied_draft`).

A file is filled under its path here. A program that keeps the file open fills the one that it has
created, which is the same one as long as no other writer creates or moves the draft in between.
-/

namespace CrudScaffold

open FileSystem

/-- Whose turn it is. -/
inductive Turn
  /-- A writer takes its next step. -/
  | write (i : Nat)
  /-- A reader reads. -/
  | read
deriving Repr, DecidableEq

/-- Writers at work: the files, and the steps that each writer has left. -/
structure Writers where
  files : FileSystem
  left : List (List Action)
deriving Repr

namespace Writers

/-- Writers of diagrams begin, each with all of its steps left. -/
def start (s : Store) (fs : FileSystem) (name : String) (snapshots : List Snapshot) : Writers where
  files := fs
  left := snapshots.map fun snapshot => (s.writeActions name snapshot).toOption.getD []

/-- A writer takes its next step, and gives up if that fails. -/
def step (w : Writers) (i : Nat) : Writers :=
  match w.left[i]? with
  | some (a :: rest) =>
    match a.run w.files with
    | (fs, none) => ⟨fs, w.left.set i rest⟩
    | (fs, some _) => ⟨fs, w.left.set i []⟩
  | _ => w

/-- What the readers get, turn after turn. -/
def reads (s : Store) (name : String) (w : Writers) : List Turn → List (Except StoreError String)
  | [] => []
  | .write i :: turns => reads s name (w.step i) turns
  | .read :: turns => s.readText w.files name :: reads s name w turns

/-- A writer with these steps left has a draft: it is created, and not moved yet. -/
def hasDraft : List Action → Bool
  | .fill _ _ :: _ => true
  | .move _ _ :: _ => true
  | _ => false

/-- No two writers have a draft. -/
def DraftsApart (w : Writers) : Prop :=
  w.left.Pairwise fun left left' => ¬ (hasDraft left ∧ hasDraft left')

/-- No two writers have a draft at any time. -/
def Exclusive (w : Writers) : List Turn → Prop
  | [] => w.DraftsApart
  | .write i :: turns => w.DraftsApart ∧ (w.step i).Exclusive turns
  | .read :: turns => w.Exclusive turns

instance (w : Writers) : Decidable w.DraftsApart :=
  inferInstanceAs (Decidable (w.left.Pairwise _))

/-- Whether drafts are apart is found out turn by turn. -/
instance decidableExclusive (w : Writers) : (turns : List Turn) → Decidable (w.Exclusive turns)
  | [] => inferInstanceAs (Decidable w.DraftsApart)
  | .write i :: turns =>
    have := decidableExclusive (w.step i) turns
    inferInstanceAs (Decidable (w.DraftsApart ∧ (w.step i).Exclusive turns))
  | .read :: turns => decidableExclusive w turns

/-- A turn of a writer does nothing if no steps are left, and otherwise takes the first of them. -/
lemma step_cases (w : Writers) (i : Nat) :
    w.step i = w ∨ ∃ a rest fs e, w.left[i]? = some (a :: rest) ∧ a.run w.files = (fs, e) ∧
      w.step i = ⟨fs, w.left.set i (if e = none then rest else [])⟩ := by
  unfold step
  split
  · rename_i a rest hleft
    right
    rcases hrun : a.run w.files with ⟨fs, _ | e⟩
    · exact ⟨a, rest, fs, none, hleft, hrun, rfl⟩
    · exact ⟨a, rest, fs, some e, hleft, hrun, rfl⟩
  · exact .inl rfl

/-- There is no time at which two writers have a draft, and in particular not the first. -/
lemma Exclusive.draftsApart {w : Writers} {turns : List Turn} (h : w.Exclusive turns) :
    w.DraftsApart := by
  induction turns with
  | nil => exact h
  | cons turn turns ih =>
    cases turn with
    | write i => exact h.1
    | read => exact ih h

/-- If one writer has a draft then no other one has. -/
lemma DraftsApart.hasDraft_eq_false {w : Writers} (h : w.DraftsApart) {i j : Nat} (hne : i ≠ j)
    {left left' : List Action} (hi : w.left[i]? = some left) (hj : w.left[j]? = some left')
    (hdraft : hasDraft left) : hasDraft left' = false := by
  obtain ⟨hilt, rfl⟩ := List.getElem?_eq_some_iff.mp hi
  obtain ⟨hjlt, rfl⟩ := List.getElem?_eq_some_iff.mp hj
  have hapart := List.pairwise_iff_getElem.mp h
  rw [← Bool.not_eq_true]
  intro hdraft'
  rcases Nat.lt_or_gt_of_ne hne with hlt | hgt
  · exact hapart i j hilt hjlt hlt ⟨hdraft, hdraft'⟩
  · exact hapart j i hjlt hilt hgt ⟨hdraft', hdraft⟩

/-- Whatever a reader gets is read from files. -/
lemma exists_of_mem_reads {s : Store} {name : String} {w : Writers} {turns : List Turn}
    {r : Except StoreError String} (h : r ∈ w.reads s name turns) :
    ∃ fs, r = s.readText fs name := by
  induction turns generalizing w with
  | nil => cases h
  | cons turn turns ih =>
    cases turn with
    | write i => exact ih h
    | read =>
      rcases List.mem_cons.mp h with rfl | h
      · exact ⟨w.files, rfl⟩
      · exact ih h

/-- A single writer is never in the way of another one. -/
lemma exclusive_of_length_le_one {w : Writers} (h : w.left.length ≤ 1) (turns : List Turn) :
    w.Exclusive turns := by
  have hapart : ∀ w : Writers, w.left.length ≤ 1 → w.DraftsApart := by
    intro w hw
    refine List.pairwise_iff_getElem.mpr fun i j hi hj hlt => ?_
    omega
  induction turns generalizing w with
  | nil => exact hapart w h
  | cons turn turns ih =>
    cases turn with
    | read => exact ih h
    | write i =>
      refine ⟨hapart w h, ih ?_⟩
      rcases w.step_cases i with hsame | ⟨a, rest, fs, e, -, -, hstep⟩
      · rwa [hsame]
      · rwa [hstep, List.length_set]

end Writers

namespace Store

variable {s : Store} {fs fs' : FileSystem} {name : String} {snapshot : Snapshot} {n : Option Node}
  {d : Place}

/-! ### What a reader meets -/

/-- What a reader gets of what stands where the file of a diagram belongs. -/
def textOf (name : String) : Option Node → Except StoreError String
  | none => .error (.notFound name)
  | some .directory => .error (.file .isDirectory)
  | some (.file content) =>
    match Text.ofBytes? content with
    | some text => .ok text
    | none => .error (.file .notText)

/-- What stands where the file of a diagram belongs. There is nothing if the directory of the store
is not there. -/
structure Shows (s : Store) (name : String) (fs : FileSystem) (n : Option Node) : Prop where
  sound : fs.Sound
  place : (∃ d, fs.Opens s.dir d ∧ fs.get? (d ++ [fileName name]) = n) ∨
    (∀ d, ¬ fs.Opens s.dir d) ∧ n = none

namespace Shows

/-- Something stands there or nothing does. -/
lemma exists_of_sound (s : Store) (name : String) (hfs : fs.Sound) : ∃ n, s.Shows name fs n := by
  by_cases hopens : ∃ d, fs.Opens s.dir d
  · obtain ⟨d, hd⟩ := hopens
    exact ⟨_, hfs, .inl ⟨d, hd, rfl⟩⟩
  · exact ⟨none, hfs, .inr ⟨fun d hd => hopens ⟨d, hd⟩, rfl⟩⟩

/-- Nothing else stands there. -/
lemma unique {n' : Option Node} (h : s.Shows name fs n) (h' : s.Shows name fs n') : n = n' := by
  rcases h.place with ⟨d, hd, rfl⟩ | ⟨hnone, rfl⟩ <;>
    rcases h'.place with ⟨d', hd', rfl⟩ | ⟨hnone', rfl⟩
  · rw [hd.unique hd']
  · exact absurd hd (hnone' d)
  · exact absurd hd' (hnone d')
  · rfl

/-- In the directory of the store it stands under the name of the file. -/
lemma get?_eq (h : s.Shows name fs n) (hd : fs.Opens s.dir d) :
    fs.get? (d ++ [fileName name]) = n := by
  rcases h.place with ⟨d', hd', hget⟩ | ⟨hnone, -⟩
  · rwa [hd.unique hd']
  · exact absurd hd (hnone d)

/-- A reader gets what stands there. -/
lemma readText_eq (h : s.Shows name fs n) (hname : isValidName name) :
    s.readText fs name = textOf name n := by
  have hcheck : checkName name = .ok () := by rw [checkName, if_pos hname]
  have hfile := isFileName_fileName hname
  have hhas : fs.has (s.path name) ↔
      ∃ d, fs.Opens s.dir d ∧ (fs.get? (d ++ [fileName name])).isSome :=
    has_join_iff h.sound hfile
  unfold readText
  rw [hcheck]
  rcases h.place with ⟨d, hd, rfl⟩ | ⟨hnone, rfl⟩
  · cases hget : fs.get? (d ++ [fileName name]) with
    | none =>
      have hmissing : ¬ fs.has (s.path name) := by
        rw [hhas]
        rintro ⟨d', hd', hsome⟩
        rw [hd'.unique hd, hget] at hsome
        cases hsome
      simp [hmissing, textOf, bind, Except.bind]
    | some node =>
      have hthere : fs.has (s.path name) := hhas.mpr ⟨d, hd, by rw [hget]; rfl⟩
      have hlocate : fs.locate (s.path name) = .ok (d ++ [fileName name]) :=
        h.sound.locate_join hfile hd hget
      cases node with
      | directory =>
        simp [hthere, FileSystem.readText, FileSystem.read, find, hlocate, hget, textOf, bind,
          Except.bind, Except.mapError]
      | file content =>
        have hread := read_of_locate hlocate hget
        cases htext : Text.ofBytes? content <;>
          simp [hthere, FileSystem.readText, hread, htext, textOf, bind, Except.bind,
            Except.mapError]
  · have hmissing : ¬ fs.has (s.path name) := by
      rw [hhas]
      rintro ⟨d, hd, -⟩
      exact hnone d hd
    simp [hmissing, textOf, bind, Except.bind]

/-- A change of the draft changes nothing for readers. -/
lemma rewrites (h : s.Shows name fs n) (hd : fs.Opens s.dir d) (hsound : fs'.Sound)
    (hrewrites : Rewrites fs fs' d [draftName name]) : s.Shows name fs' n := by
  refine ⟨hsound, .inl ⟨d, hrewrites.opens hd, ?_⟩⟩
  rw [hrewrites.kept _ ?_, h.get?_eq hd]
  intro x hx
  obtain rfl := List.mem_singleton.mp hx
  simp

end Shows

/-! ### Making the directory of the store -/

/-- The files after the directory of the store has been made, as far as that is possible. -/
def prepared (s : Store) (fs : FileSystem) : FileSystem := ((Action.makeDirectory s.dir).run fs).1

/-- Nothing has to be made if the directory is there. -/
lemma prepared_of_opens (hd : fs.Opens s.dir d) : s.prepared fs = fs := by
  rw [prepared, Action.run_makeDirectory_of_opens hd]

/-- Making the directory keeps the tree sound. -/
lemma sound_prepared (s : Store) (hfs : fs.Sound) : (s.prepared fs).Sound := by
  rcases hrun : (Action.makeDirectory s.dir).run fs with ⟨fs', e⟩
  obtain ⟨hsound, -⟩ := Action.grows_of_run_makeDirectory hfs hrun
  rw [prepared, hrun]
  exact hsound

/-- On a straight way a directory that has been made has nothing in it. -/
lemma shows_prepared_of_isStraight (hway : fs.IsStraight s.dir) (hfs : fs.Sound)
    (hnone : ∀ d, ¬ fs.Opens s.dir d) (name : String) : s.Shows name (s.prepared fs) none := by
  refine ⟨s.sound_prepared hfs, ?_⟩
  by_cases hopens : ∃ d, (s.prepared fs).Opens s.dir d
  · obtain ⟨d, hd⟩ := hopens
    exact .inl ⟨d, hd, Action.get?_eq_none_of_run_makeDirectory hfs rfl hnone hway hd _⟩
  · exact .inr ⟨fun d hd => hopens ⟨d, hd⟩, rfl⟩

/-- A straight way stays straight as long as the directory is not there. -/
lemma isStraight_prepared (hway : fs.IsStraight s.dir) (hfs : fs.Sound)
    (hnone : ∀ d, ¬ (s.prepared fs).Opens s.dir d) : (s.prepared fs).IsStraight s.dir := by
  rcases hway with hdots | hmissing
  · exact .inl hdots
  · -- the way is tried once, so either the directory is there now or nothing has happened
    rcases hrun : (Action.makeDirectory s.dir).run fs with ⟨fs', e⟩
    have hprepared : s.prepared fs = fs' := congrArg Prod.fst hrun
    rw [hprepared] at hnone ⊢
    by_cases hzero : '\x00' ∈ s.dir.toList
    · rw [Action.run, if_pos (List.contains_iff_mem.mpr hzero)] at hrun
      cases hrun
      exact .inr hmissing
    · have hmade := hrun
      rw [Action.run_makeDirectory fs hzero, Path.ways_eq] at hmade
      rcases makeDirectories_cases hmade with ⟨-, rfl⟩ | ⟨rfl, -⟩ | ⟨he, -⟩
      · obtain ⟨d, hd⟩ := Action.opens_of_run_makeDirectory hfs hrun
        exact absurd hd (hnone d)
      · exact .inr hmissing
      · exact absurd he hmissing

/-- On a straight way readers meet the same however often the directory has been made. -/
lemma Shows.iterate_prepared (h : s.Shows name fs n) (hway : fs.IsStraight s.dir) (k : ℕ) :
    s.Shows name (s.prepared^[k] fs) n := by
  induction k generalizing fs with
  | zero => exact h
  | succ k ih =>
    rw [Function.iterate_succ_apply]
    rcases h.place with ⟨d, hd, -⟩ | ⟨hnone, rfl⟩
    · rw [prepared_of_opens hd]
      exact ih h hway
    · have hprepared := shows_prepared_of_isStraight hway h.sound hnone name
      by_cases hopens : ∃ d, (s.prepared fs).Opens s.dir d
      · obtain ⟨d, hd⟩ := hopens
        rwa [Function.iterate_fixed (prepared_of_opens hd)]
      · exact ih hprepared (isStraight_prepared hway h.sound fun d hd => hopens ⟨d, hd⟩)

/-- What readers meet in the beginning, or after the directory of the store has been made, which
makes a difference only if the way to it is not straight. -/
def MetAtFirst (s : Store) (name : String) (fs : FileSystem) (n : Option Node) : Prop :=
  ∃ k : ℕ, s.Shows name (s.prepared^[k] fs) n ∧ (fs.IsStraight s.dir → k = 0)

/-- It does not matter how often the directory has been made. -/
lemma metAtFirst_of_iterate (hfs : fs.Sound) {k : ℕ} (h : s.Shows name (s.prepared^[k] fs) n) :
    s.MetAtFirst name fs n := by
  by_cases hway : fs.IsStraight s.dir
  · obtain ⟨n', hn'⟩ := Shows.exists_of_sound s name hfs
    obtain rfl : n' = n := (hn'.iterate_prepared hway k).unique h
    exact ⟨0, hn', fun _ => rfl⟩
  · exact ⟨k, h, fun hstraight => absurd hstraight hway⟩

/-! ### How far a writer has come -/

/-- The steps that a writer has left, with what those before them have achieved. -/
inductive Stage (s : Store) (name : String) (snapshot : Snapshot) (fs : FileSystem) :
    List Action → Prop
  | begun : Stage s name snapshot fs
      [.makeDirectory s.dir, .create (Path.join s.dir (draftName name)),
        .fill (Path.join s.dir (draftName name)) (Text.bytes snapshot.toJson),
        .move (Path.join s.dir (draftName name)) (Path.join s.dir (fileName name))]
  | made {d : Place} (hd : fs.Opens s.dir d) : Stage s name snapshot fs
      [.create (Path.join s.dir (draftName name)),
        .fill (Path.join s.dir (draftName name)) (Text.bytes snapshot.toJson),
        .move (Path.join s.dir (draftName name)) (Path.join s.dir (fileName name))]
  | created {d : Place} (hd : fs.Opens s.dir d) : Stage s name snapshot fs
      [.fill (Path.join s.dir (draftName name)) (Text.bytes snapshot.toJson),
        .move (Path.join s.dir (draftName name)) (Path.join s.dir (fileName name))]
  | filled {d : Place} (hd : fs.Opens s.dir d)
      (hdraft : fs.get? (d ++ [draftName name]) = some (.file (Text.bytes snapshot.toJson))) :
      Stage s name snapshot fs
        [.move (Path.join s.dir (draftName name)) (Path.join s.dir (fileName name))]
  | finished : Stage s name snapshot fs []

namespace Stage

/-- A writer with nothing done yet has all of its steps left, and none if the name is not valid. -/
lemma start (s : Store) (name : String) (snapshot : Snapshot) (fs : FileSystem) :
    s.Stage name snapshot fs ((s.writeActions name snapshot).toOption.getD []) := by
  by_cases hname : isValidName name
  · rw [writeActions, checkName, if_pos hname]
    exact begun
  · rw [writeActions, checkName, if_neg hname]
    exact finished

/-- What a writer has achieved lasts as long as directories and its draft stay. -/
lemma kept {left : List Action} (h : s.Stage name snapshot fs left)
    (hopens : ∀ d, fs.Opens s.dir d → fs'.Opens s.dir d)
    (hdraft : Writers.hasDraft left → ∀ d, fs.Opens s.dir d →
      ∀ content, fs.get? (d ++ [draftName name]) = some (.file content) →
        fs'.get? (d ++ [draftName name]) = some (.file content)) :
    s.Stage name snapshot fs' left := by
  cases h with
  | begun => exact begun
  | made hd => exact made (hopens _ hd)
  | created hd => exact created (hopens _ hd)
  | filled hd hfile => exact filled (hopens _ hd) (hdraft rfl _ hd _ hfile)
  | finished => exact finished

/-- **A step of a writer.** If the directory of the store is there, readers meet what they met
before or the diagram as a whole; otherwise the step is to make the directory. The writer has come
one stage further or has given up, and directories stay. The draft stays too, unless the writer has
it before the step or afterwards. -/
lemma step {a : Action} {rest : List Action} {e : Option FileError} (hname : isValidName name)
    (hshows : s.Shows name fs n) (h : s.Stage name snapshot fs (a :: rest))
    (hrun : a.run fs = (fs', e)) :
    ((∃ d, fs.Opens s.dir d) ∧ (∃ n', s.Shows name fs' n' ∧
        (n' = n ∨ n' = some (.file (Text.bytes snapshot.toJson)))) ∨
      (∀ d, ¬ fs.Opens s.dir d) ∧ fs' = s.prepared fs) ∧
      s.Stage name snapshot fs' (if e = none then rest else []) ∧
      (∀ d, fs.Opens s.dir d → fs'.Opens s.dir d) ∧
      (Writers.hasDraft (a :: rest) ∨ Writers.hasDraft (if e = none then rest else []) ∨
        ∀ d, fs.get? d ≠ none → fs'.get? d = fs.get? d) := by
  have hdraft := isFileName_draftName hname
  have hfile := isFileName_fileName hname
  cases h with
  | begun =>
    obtain ⟨-, hgrows⟩ := Action.grows_of_run_makeDirectory hshows.sound hrun
    refine ⟨?_, ?_, fun d hd => ?_, .inr (.inr fun d hd => ?_)⟩
    · -- a directory that is there is not made again
      by_cases hopens : ∃ d, fs.Opens s.dir d
      · obtain ⟨d, hd⟩ := hopens
        rw [Action.run_makeDirectory_of_opens hd] at hrun
        cases hrun
        exact .inl ⟨⟨d, hd⟩, n, hshows, .inl rfl⟩
      · exact .inr ⟨fun d hd => hopens ⟨d, hd⟩, (congrArg Prod.fst hrun).symm⟩
    · cases e with
      | none =>
        obtain ⟨d, hd⟩ := Action.opens_of_run_makeDirectory hshows.sound hrun
        exact made hd
      | some e => exact finished
    · exact hd.mono hgrows.here fun _ => hgrows.kept
    · obtain ⟨node, hnode⟩ := Option.ne_none_iff_exists'.mp hd
      rw [hnode, hgrows.kept hnode]
  | made hd =>
    cases e with
    | none =>
      obtain ⟨hsound, hrewrites, -⟩ := Action.of_run_create hshows.sound hd hdraft hrun
      exact ⟨.inl ⟨⟨_, hd⟩, n, hshows.rewrites hd hsound hrewrites, .inl rfl⟩,
        created (hrewrites.opens hd), fun _ => hrewrites.opens, .inr (.inl rfl)⟩
    | some e =>
      obtain rfl := Action.after_eq_some hrun
      exact ⟨.inl ⟨⟨_, hd⟩, n, hshows, .inl rfl⟩, finished, fun _ => id, .inr (.inr fun _ _ => rfl)⟩
  | created hd =>
    cases e with
    | none =>
      obtain ⟨hsound, hrewrites, hget⟩ := Action.of_run_fill hshows.sound hd hdraft hrun
      refine ⟨.inl ⟨⟨_, hd⟩, n, hshows.rewrites hd hsound hrewrites, .inl rfl⟩,
        filled (hrewrites.opens hd) ?_, fun _ => hrewrites.opens, .inl rfl⟩
      rw [hget, if_pos rfl]
    | some e =>
      obtain rfl := Action.after_eq_some hrun
      exact ⟨.inl ⟨⟨_, hd⟩, n, hshows, .inl rfl⟩, finished, fun _ => id, .inl rfl⟩
  | filled hd hcontent =>
    cases e with
    | none =>
      obtain ⟨hsound, hrewrites, content, hmoved, hget⟩ := Action.of_run_move hshows.sound hd hdraft
        hfile (fileName_ne_draftName name name) hrun
      obtain rfl : content = Text.bytes snapshot.toJson := by
        rw [hcontent] at hmoved
        exact (Node.file.inj (Option.some.inj hmoved)).symm
      refine ⟨.inl ⟨⟨_, hd⟩, _, ⟨hsound, .inl ⟨_, hrewrites.opens hd, ?_⟩⟩, .inr rfl⟩, finished,
        fun _ => hrewrites.opens, .inl rfl⟩
      rw [hget, if_pos rfl]
    | some e =>
      obtain rfl := Action.after_eq_some hrun
      exact ⟨.inl ⟨⟨_, hd⟩, n, hshows, .inl rfl⟩, finished, fun _ => id, .inl rfl⟩

end Stage

/-! ### All writers -/

/-- Readers meet what was there at first or a whole diagram, and every writer is at some stage. As
long as the directory of the store is not there, nothing but the making of it has been tried. -/
structure Working (s : Store) (name : String) (snapshots : List Snapshot) (fs : FileSystem)
    (w : Writers) : Prop where
  shows : ∃ n, s.Shows name w.files n ∧
    (s.MetAtFirst name fs n ∨ ∃ snapshot ∈ snapshots, n = some (.file (Text.bytes snapshot.toJson)))
  absent : (∀ d, ¬ w.files.Opens s.dir d) → ∃ k : ℕ, w.files = s.prepared^[k] fs
  stages : ∀ (i : ℕ) (left : List Action), w.left[i]? = some left →
    ∃ snapshot ∈ snapshots, s.Stage name snapshot w.files left

namespace Working

variable {snapshots : List Snapshot} {w : Writers}

/-- In the beginning readers meet what is there. -/
lemma start (hfs : fs.Sound) (snapshots : List Snapshot) :
    s.Working name snapshots fs (Writers.start s fs name snapshots) := by
  obtain ⟨n, h⟩ := Shows.exists_of_sound s name hfs
  refine ⟨⟨n, h, .inl ⟨0, h, fun _ => rfl⟩⟩, fun _ => ⟨0, rfl⟩, fun i left hleft => ?_⟩
  rw [Writers.start, List.getElem?_map, Option.map_eq_some_iff] at hleft
  obtain ⟨snapshot, hsnapshot, rfl⟩ := hleft
  exact ⟨snapshot, List.mem_of_getElem? hsnapshot, Stage.start s name snapshot fs⟩

/-- A turn of a writer preserves this if no other writer has a draft when this one has. -/
lemma step (hname : isValidName name) (hfs : fs.Sound) (h : s.Working name snapshots fs w) (i : ℕ)
    (hbefore : w.DraftsApart) (hafter : (w.step i).DraftsApart) :
    s.Working name snapshots fs (w.step i) := by
  rcases w.step_cases i with hsame | ⟨a, rest, fs', e, hi, hrun, hstep⟩
  · rwa [hsame]
  obtain ⟨n, hshows, hn⟩ := h.shows
  obtain ⟨snapshot, hsnapshot, hstage⟩ := h.stages i _ hi
  obtain ⟨hshows', hstage', hopens, hdraft⟩ := hstage.step hname hshows hrun
  have hlength : i < w.left.length := (List.getElem?_eq_some_iff.mp hi).1
  have hself : (w.step i).left[i]? = some (if e = none then rest else []) := by
    rw [hstep, List.getElem?_set_self hlength]
  have hfiles : (w.step i).files = fs' := by rw [hstep]
  refine ⟨?_, ?_, fun j left hj => ?_⟩
  · rw [hfiles]
    rcases hshows' with ⟨-, n', hshows', rfl | hn'⟩ | ⟨hnone, rfl⟩
    · exact ⟨n', hshows', hn⟩
    · exact ⟨n', hshows', .inr ⟨snapshot, hsnapshot, hn'⟩⟩
    · obtain ⟨k, hk⟩ := h.absent hnone
      obtain ⟨n', hn'⟩ := Shows.exists_of_sound s name (s.sound_prepared hshows.sound)
      have hfirst : s.Shows name (s.prepared^[k + 1] fs) n' := by
        rw [Function.iterate_succ_apply', ← hk]
        exact hn'
      exact ⟨n', hn', .inl (metAtFirst_of_iterate hfs hfirst)⟩
  · rw [hfiles]
    intro hnone
    rcases hshows' with ⟨⟨d, hd⟩, -⟩ | ⟨hnone', rfl⟩
    · exact absurd (hopens d hd) (hnone d)
    · obtain ⟨k, hk⟩ := h.absent hnone'
      exact ⟨k + 1, by rw [hk, Function.iterate_succ_apply']⟩
  · by_cases hij : i = j
    · obtain rfl : _ = left := Option.some.inj (hself.symm.trans (hij ▸ hj))
      exact ⟨snapshot, hsnapshot, hfiles ▸ hstage'⟩
    · -- another writer keeps its stage: if it has a draft then this one has none, now and before
      have hj' : w.left[j]? = some left := by
        rwa [hstep, List.getElem?_set_ne hij] at hj
      obtain ⟨other, hother, hstage⟩ := h.stages j left hj'
      refine ⟨other, hother, hfiles ▸ hstage.kept hopens fun hhas d hd content hfile => ?_⟩
      rcases hdraft with hmine | hmine | hkept
      · rw [hbefore.hasDraft_eq_false hij hi hj' hmine] at hhas
        cases hhas
      · rw [hafter.hasDraft_eq_false hij hself hj hmine] at hhas
        cases hhas
      · rw [hkept _ (by rw [hfile]; nofun), hfile]

/-- While this lasts, readers get what was there at first or a whole diagram. -/
lemma reads (hname : isValidName name) (hfs : fs.Sound) (h : s.Working name snapshots fs w)
    {turns : List Turn} (hturns : w.Exclusive turns) : ∀ r ∈ w.reads s name turns,
      (∃ k : ℕ, r = s.readText (s.prepared^[k] fs) name ∧ (fs.IsStraight s.dir → k = 0)) ∨
        ∃ snapshot ∈ snapshots, r = .ok snapshot.toJson := by
  induction turns generalizing w with
  | nil => simp [Writers.reads]
  | cons turn turns ih =>
    cases turn with
    | write i => exact ih (h.step hname hfs i hturns.1 hturns.2.draftsApart) hturns.2
    | read =>
      intro r hr
      rcases List.mem_cons.mp hr with rfl | hr
      · obtain ⟨n, hshows, ⟨k, hk, hstraight⟩ | ⟨snapshot, hsnapshot, rfl⟩⟩ := h.shows
        · refine .inl ⟨k, ?_, hstraight⟩
          rw [hshows.readText_eq hname, hk.readText_eq hname]
        · refine .inr ⟨snapshot, hsnapshot, ?_⟩
          rw [hshows.readText_eq hname, textOf, Text.ofBytes?_bytes]
      · exact ih h hturns r hr

end Working

/-- A reader who asks for a name that is not valid is told so. -/
lemma readText_of_not_isValidName (hname : ¬ isValidName name) (fs : FileSystem) :
    s.readText fs name = .error (.invalidName name) := by
  rw [readText, checkName, if_neg hname]
  rfl

/-- **Readers meet whole diagrams if drafts are apart.** Let any number of writers store diagrams
under one name, with their steps and those of readers in any order in which no two writers have a
draft at the same time. Then every reader gets the text of one of the diagrams, or what a reader
would have got in the beginning. If the way to the store leads back through directories that are
missing in the beginning, this is what a reader would have got after they have been made. -/
theorem reads_whole_of_exclusive (s : Store) (fs : FileSystem) (hfs : fs.Sound) (name : String)
    (snapshots : List Snapshot) (turns : List Turn)
    (hturns : (Writers.start s fs name snapshots).Exclusive turns) :
    ∀ r ∈ (Writers.start s fs name snapshots).reads s name turns,
      (∃ k : ℕ, r = s.readText (s.prepared^[k] fs) name ∧ (fs.IsStraight s.dir → k = 0)) ∨
        ∃ snapshot ∈ snapshots, r = .ok snapshot.toJson := by
  by_cases hname : isValidName name
  · exact (Working.start hfs snapshots).reads hname hfs hturns
  · intro r hr
    obtain ⟨fs', rfl⟩ := Writers.exists_of_mem_reads hr
    refine .inl ⟨0, ?_, fun _ => rfl⟩
    rw [readText_of_not_isValidName hname, readText_of_not_isValidName hname]

/-- Turns of two writers, the second of which makes its draft after the first one has moved its own,
with readers between them. -/
def draftsInTurn : List Turn :=
  [.write 0, .write 1, .write 0, .read, .write 0, .write 0, .read, .write 1, .read, .write 1,
    .write 1, .read]

/-- Of two writers whose drafts are there one after the other, readers meet nothing, the first
diagram or the second one. -/
theorem reads_whole_of_exclusive_draftsInTurn :
    ({} : FileSystem).Sound ∧
    (Writers.start ⟨".blueprint"⟩ {} "a" [{}, ⟨[⟨"1", "A", []⟩], []⟩]).Exclusive draftsInTurn ∧
    ∀ r ∈ (Writers.start ⟨".blueprint"⟩ {} "a" [{}, ⟨[⟨"1", "A", []⟩], []⟩]).reads
      ⟨".blueprint"⟩ "a" draftsInTurn,
      r = (Store.mk ".blueprint").readText {} "a" ∨
        ∃ snapshot ∈ [({} : Snapshot), ⟨[⟨"1", "A", []⟩], []⟩], r = .ok snapshot.toJson := by
  have hway : ({} : FileSystem).IsStraight ".blueprint" := .inl (by decide)
  have hturns : (Writers.start ⟨".blueprint"⟩ {} "a"
      [{}, ⟨[⟨"1", "A", []⟩], []⟩]).Exclusive draftsInTurn := by
    decide +kernel
  refine ⟨sound_empty, hturns, fun r hr => ?_⟩
  rcases reads_whole_of_exclusive _ _ sound_empty _ _ _ hturns r hr with ⟨k, hk, hstraight⟩ | hwhole
  · obtain rfl := hstraight hway
    exact .inl hk
  · exact .inr hwhole

/-- Two writers store the same diagram, and the second one empties the draft of the first one before
that is moved: a reader meets an empty file, which is neither missing, nor what was there before,
nor the diagram. -/
theorem reads_emptied_draft :
    ∃ r ∈ (Writers.start ⟨".blueprint"⟩ {} "a" [{}, {}]).reads ⟨".blueprint"⟩ "a"
      [.write 0, .write 0, .write 0, .write 1, .write 1, .write 0, .read],
      r = .ok "" ∧ (∀ name, r ≠ .error (.notFound name)) ∧
        r ≠ (Store.mk ".blueprint").readText {} "a" ∧
        ∀ snapshot ∈ [({} : Snapshot), {}], r ≠ .ok snapshot.toJson := by
  have hreads : ((Writers.start ⟨".blueprint"⟩ {} "a" [{}, {}]).reads ⟨".blueprint"⟩ "a"
      [.write 0, .write 0, .write 0, .write 1, .write 1, .write 0, .read]).map Except.toOption =
        [some ""] := by
    decide +kernel
  have hbefore : ((Store.mk ".blueprint").readText {} "a").toOption = none := by decide
  have hjson : ∀ snapshot ∈ [({} : Snapshot), {}], snapshot.toJson ≠ "" := by decide
  obtain ⟨r, hr, hempty⟩ := List.exists_of_mem_map (hreads ▸ List.mem_singleton_self (some ""))
  obtain rfl : r = .ok "" := by
    cases r with
    | ok text => exact congrArg Except.ok (Option.some.inj hempty)
    | error e => cases hempty
  refine ⟨_, hr, rfl, fun _ => nofun, fun h => ?_, fun snapshot hsnapshot h => ?_⟩
  · rw [← h] at hbefore
    cases hbefore
  · exact hjson snapshot hsnapshot (Except.ok.inj h).symm

end Store

end CrudScaffold
