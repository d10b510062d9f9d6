import Mathlib.Data.Finset.Card
import CrudScaffold.Proofs.FileTree

/-!
# File trees as maps in the order of insertion

What a file tree is to those who use it can be said without its places: it is a map from paths to
contents that remembers in which order the paths came. This module describes that map by the history
of the insertions alone, the order of the paths by where each comes first in the history and the
contents by what comes last in it, and shows that a tree follows its history (`FileTree.Follows`)
through any insertion, be its path new or taken.
-/

namespace CrudScaffold

namespace FileTree

/-- Puts some files into a tree one after the other, and lists what each of them replaces. -/
def putAll (t : FileTree) : List File → List (Option String) × FileTree
  | [] => ([], t)
  | f :: files =>
    let (answer, t) := t.put f.path f.content
    let (answers, t) := t.putAll files
    (answer :: answers, t)

/-- The content that a path was given last. -/
def lastContent? (history : List File) (p : String) : Option String :=
  (history.reverse.find? fun f => f.path = p).map File.content

/-- A tree is what a history of insertions makes of an empty map: it holds the paths of the history,
in the order in which they came first, each with the content that came last. -/
structure Follows (t : FileTree) (history : List File) : Prop where
  sound : t.Sound
  mem_paths : ∀ p, p ∈ t.paths ↔ p ∈ history.map File.path
  order : t.paths.Pairwise fun p q =>
    (history.map File.path).idxOf p < (history.map File.path).idxOf q
  get?_eq : ∀ p, t.get? p = lastContent? history p

variable {t : FileTree} {history : List File}

/-! ### What a single insertion says -/

/-- What an insertion answers is what was held at its path. -/
lemma put_fst (t : FileTree) (p c : String) : (t.put p c).1 = t.get? p := by
  unfold put get?
  cases t.place? p <;> rfl

/-- The last insertion counts at its own path, and at every other path it does not. -/
lemma lastContent?_append_singleton (history : List File) (f : File) (p : String) :
    lastContent? (history ++ [f]) p =
      if p = f.path then some f.content else lastContent? history p := by
  unfold lastContent?
  rw [List.reverse_append, List.reverse_singleton, List.singleton_append, List.find?_cons]
  by_cases hp : f.path = p
  · simp [hp]
  · simp [hp, Ne.symm hp]

/-- Where a path comes first does not change when more is inserted. -/
lemma idxOf_append_of_mem_paths {p : String} (h : p ∈ history.map File.path) (f : File) :
    ((history ++ [f]).map File.path).idxOf p = (history.map File.path).idxOf p := by
  rw [List.map_append]
  exact List.idxOf_append_of_mem h

/-- A path that is new comes behind all others. -/
lemma idxOf_append_of_notMem_paths {f : File} (h : f.path ∉ history.map File.path) :
    ((history ++ [f]).map File.path).idxOf f.path = history.length := by
  rw [List.map_append, List.idxOf_append_of_notMem h]
  simp

/-- The order of the paths stays the same when more is inserted. -/
lemma Follows.order_append (h : t.Follows history) (f : File) :
    t.paths.Pairwise fun p q =>
      ((history ++ [f]).map File.path).idxOf p < ((history ++ [f]).map File.path).idxOf q := by
  refine h.order.imp_of_mem fun hp hq hlt => ?_
  rw [idxOf_append_of_mem_paths ((h.mem_paths _).mp hp),
    idxOf_append_of_mem_paths ((h.mem_paths _).mp hq)]
  exact hlt

/-- A tree follows its history through one more insertion. -/
lemma Follows.insert (h : t.Follows history) (f : File) :
    (t.insert f.path f.content).Follows (history ++ [f]) := by
  have hpaths := h.sound.paths_insert f.path f.content
  refine ⟨h.sound.insert f.path f.content, fun p => ?_, ?_, fun p => ?_⟩
  · rw [hpaths]
    split_ifs with hf
    · rw [h.mem_paths] at hf
      simp only [h.mem_paths, List.map_append, List.mem_append, List.map_singleton,
        List.mem_singleton]
      exact ⟨.inl, fun hp => hp.elim id fun hp => hp ▸ hf⟩
    · simp only [List.mem_append, h.mem_paths, List.map_append, List.map_singleton]
  · rw [hpaths]
    split_ifs with hf
    · exact h.order_append f
    · -- the new path comes behind those that the history had before
      refine List.pairwise_append.mpr ⟨h.order_append f, List.pairwise_singleton .., ?_⟩
      intro p hp q hq
      obtain rfl := List.mem_singleton.mp hq
      rw [h.mem_paths] at hf hp
      rw [idxOf_append_of_mem_paths hp, idxOf_append_of_notMem_paths hf]
      have hlt := List.idxOf_lt_length_of_mem hp
      rwa [List.length_map] at hlt
  · rw [h.sound.get?_insert, lastContent?_append_singleton, h.get?_eq]

/-! ### What a history makes -/

@[simp] lemma follows_empty : empty.Follows [] where
  sound := sound_empty
  mem_paths _ := Iff.rfl
  order := List.Pairwise.nil
  get?_eq _ := rfl

/-- A tree follows its history through any further insertions, and each of them answers with the
content that its path was given last before it. -/
lemma Follows.putAll (h : t.Follows history) (files : List File) :
    (t.putAll files).2.Follows (history ++ files) ∧
      ∀ k : Nat, (t.putAll files).1[k]? =
        files[k]?.map fun f => lastContent? (history ++ files.take k) f.path := by
  induction files generalizing t history with
  | nil =>
    rw [List.append_nil]
    exact ⟨h, fun _ => rfl⟩
  | cons f files ih =>
    obtain ⟨hfollows, hanswers⟩ := ih (h.insert f)
    rw [List.append_assoc] at hfollows
    refine ⟨hfollows, fun k => ?_⟩
    cases k with
    | zero =>
      have hanswer : (t.put f.path f.content).1 = lastContent? history f.path := by
        rw [put_fst, h.get?_eq]
      simp [FileTree.putAll, hanswer]
    | succ k =>
      have hrest := hanswers k
      rw [List.append_assoc] at hrest
      exact hrest

/-- There are as many files as there are different paths in the history. -/
lemma Follows.size_eq (h : t.Follows history) :
    t.size = (history.map File.path).toFinset.card := by
  have hset : t.paths.toFinset = (history.map File.path).toFinset := by
    ext p
    rw [List.mem_toFinset, List.mem_toFinset, h.mem_paths]
  rw [← hset, List.toFinset_card_of_nodup h.sound.nodup, size, paths, List.length_map]

end FileTree

/-- **A file tree is a map in the order of insertion.** Whatever files are put into an empty tree
one after the other, the index of the tree holds each of its paths once, with its place, and nothing
else. The paths are those that were put in, all different and in the order in which they came first,
so their number is that of the different paths. At each path the tree has the content that came
last, and each insertion is answered with the content that it replaces, the last one that was put in
there before. Two trees that are made like this are the same exactly if their files are. -/
theorem FileTree.putAll_follows (history : List File) :
    let answers := (empty.putAll history).1
    let t := (empty.putAll history).2
    (∀ p i, t.place? p = some i ↔ t.paths[i]? = some p) ∧
      t.places.Perm t.paths.zipIdx ∧
      t.paths.Nodup ∧
      (∀ p, p ∈ t.paths ↔ p ∈ history.map File.path) ∧
      t.paths.Pairwise (fun p q =>
        (history.map File.path).idxOf p < (history.map File.path).idxOf q) ∧
      t.size = (history.map File.path).toFinset.card ∧
      (∀ p, t.get? p = lastContent? history p) ∧
      (∀ k : Nat, answers[k]? =
        history[k]?.map fun f => lastContent? (history.take k) f.path) ∧
      ∀ history', t = (empty.putAll history').2 ↔ t.files = (empty.putAll history').2.files := by
  intro answers t
  obtain ⟨h, hanswers⟩ := follows_empty.putAll history
  refine ⟨fun _ _ => h.sound.place?_eq_some_iff, ?_, h.sound.nodup, h.mem_paths, h.order,
    h.size_eq, h.get?_eq, hanswers, fun history' => ⟨congrArg FileTree.files, fun hfiles => ?_⟩⟩
  · rw [h.sound.places]
    exact List.reverse_perm _
  · obtain ⟨h', -⟩ := follows_empty.putAll history'
    exact h.sound.ext h'.sound hfiles

/-- Three insertions, the last of them at the path of the first. -/
example : FileTree.empty.putAll [⟨"a", "1"⟩, ⟨"b", "2"⟩, ⟨"a", "3"⟩] =
    ([none, none, some "1"], ⟨[⟨"a", "3"⟩, ⟨"b", "2"⟩], [("b", 1), ("a", 0)]⟩) := by
  decide

end CrudScaffold
