import Mathlib.Data.Bool.AllAny
import CrudScaffold.Proofs.FileSystem.Action
import CrudScaffold.Proofs.Glob.Search
import CrudScaffold.Proofs.Snapshot.RoundTrip
import CrudScaffold.Store.Basic

/-!
# Files that represent a map

A user of the store has a map from names to diagrams in mind. `Store.Represents` says when files
stand for such a map: the directory of the store holds the text of each diagram of the map in a file
with its name, and nothing else; as long as nothing has been written it need not be there. One lemma
for each request says what it does to files that represent a map.
-/

namespace CrudScaffold

/-- A map from names to diagrams. -/
abbrev Catalog := String → Option Snapshot

/-- The map without diagrams. -/
def Catalog.empty : Catalog := fun _ => none

namespace Store

variable {name : String}

/-! ### File names -/

/-- What a valid name is made of. -/
lemma of_isValidName (h : isValidName name) :
    name ≠ "" ∧ name.toList.head? ≠ some '.' ∧ '/' ∉ name.toList ∧ '\x00' ∉ name.toList := by
  simp only [isValidName, Bool.and_eq_true, Bool.not_eq_true', bne_iff_ne, List.any_eq_false] at h
  obtain ⟨⟨hblank, hdot⟩, hforbidden⟩ := h
  refine ⟨?_, hdot, fun hmem => hforbidden _ hmem rfl, fun hmem => hforbidden _ hmem rfl⟩
  rintro rfl
  exact absurd hblank (by decide)

/-- A valid name becomes the name of a file. -/
lemma isFileName_fileName (h : isValidName name) : Path.IsFileName (fileName name) := by
  obtain ⟨-, -, hslash, hzero⟩ := of_isValidName h
  refine Path.isFileName_of_length ?_ ?_ ?_ <;> simp [fileName, hslash, hzero]

/-- A valid name becomes the name of a draft. -/
lemma isFileName_draftName (h : isValidName name) : Path.IsFileName (draftName name) := by
  obtain ⟨-, -, hslash, hzero⟩ := of_isValidName h
  refine Path.isFileName_of_length ?_ ?_ ?_ <;> simp [draftName, hslash, hzero]

@[simp] lemma fileName_inj {other : String} : fileName name = fileName other ↔ name = other :=
  String.append_left_inj _

@[simp] lemma fileName_ne_draftName (name other : String) : fileName name ≠ draftName other :=
  Path.append_ne_append (by decide) (by decide) (by decide)

/-- The file of a diagram loses its ending and gives back the name. -/
lemma stem_fileName (h : name ≠ "") : Path.stem (fileName name) = name := by
  obtain ⟨c, cs, hcs⟩ := List.exists_cons_of_ne_nil fun hnil =>
    h (String.toList_eq_nil_iff.mp (List.reverse_eq_nil_iff.mp hnil))
  have hdrop : (fileName name).toList.reverse.dropWhile (· ≠ '.') = '.' :: name.toList.reverse := by
    simp [fileName]
  rw [Path.stem, hdrop, hcs]
  refine String.toList_injective ?_
  rw [String.toList_ofList, ← hcs, List.reverse_reverse]

/-! ### Representation -/

/-- A directory holds the diagrams of a map, each in the file with its name, and nothing else. -/
structure Holds (fs : FileSystem) (d : Place) (m : Catalog) : Prop where
  files : ∀ name, isValidName name → fs.get? (d ++ [fileName name]) =
    (m name).map fun snapshot => .file (Text.bytes snapshot.toJson)
  names : ∀ x, (fs.get? (d ++ [x])).isSome → ∃ name, isValidName name ∧ x = fileName name

/-- A directory holds a map with another value for one name if only the file of that name has
changed, and perhaps something is gone that is not the file of a diagram. -/
lemma Holds.update {fs fs' : FileSystem} {d : Place} {m : Catalog} (h : Holds fs d m)
    (hname : isValidName name) {value : Option Snapshot}
    (hfile : fs'.get? (d ++ [fileName name]) =
      value.map fun snapshot => .file (Text.bytes snapshot.toJson))
    (hfiles : ∀ n, isValidName n → n ≠ name →
      fs'.get? (d ++ [fileName n]) = fs.get? (d ++ [fileName n]))
    (hnames : ∀ x, x ≠ fileName name → (fs'.get? (d ++ [x])).isSome → (fs.get? (d ++ [x])).isSome) :
    Holds fs' d (Function.update m name value) := by
  constructor
  · intro n hn
    by_cases heq : n = name
    · rw [heq, hfile, Function.update_self]
    · rw [hfiles n hn heq, Function.update_of_ne heq]
      exact h.files n hn
  · intro x hx
    by_cases heq : x = fileName name
    · exact ⟨name, hname, heq⟩
    · exact h.names x (hnames x heq hx)

/-- The directory of a store is not there, and it will be empty when it is made: the way to it does
not lead back, or nothing but the directory is missing. -/
structure Absent (s : Store) (fs : FileSystem) : Prop where
  has : fs.has s.dir = false
  way : ".." ∉ Path.route s.dir ∨
    fs.opened (fs.start s.dir) (Path.route s.dir) ≠ .error .missing

/-- The files of a store stand for a map. -/
structure Represents (s : Store) (fs : FileSystem) (m : Catalog) : Prop where
  sound : fs.Sound
  valid : ∀ name, (m name).isSome → isValidName name
  entries : s.Absent fs ∧ m = Catalog.empty ∨ ∃ d, fs.Opens s.dir d ∧ Holds fs d m

variable {s : Store} {fs fs' : FileSystem} {m : Catalog} {snapshot : Snapshot}

/-- Nothing leads to a directory that is not there. -/
lemma Absent.not_opens (h : s.Absent fs) (hdir : s.dir ≠ "") (d : Place) : ¬ fs.Opens s.dir d := by
  intro hd
  have hhas := h.has
  rw [hd.has hdir] at hhas
  cases hhas

/-- A diagram is written under a valid name by publishing it. -/
lemma write_of_isValidName (h : isValidName name) (snapshot : Snapshot) :
    s.write fs name snapshot = carryOut fs (.ok (Action.publish s.dir (draftName name)
      (fileName name) (Text.bytes snapshot.toJson))) := by
  rw [write, writeActions, checkName, if_pos h]
  rfl

/-- No step is carried out for a name that is not valid. -/
lemma write_of_not_isValidName (h : ¬ isValidName name) (snapshot : Snapshot) :
    s.write fs name snapshot = (fs, .error (.invalidName name)) := by
  rw [write, writeActions, checkName, if_neg h]
  rfl

/-- A diagram with a valid name is deleted by removing its file, if that is there. -/
lemma delete_of_isValidName (h : isValidName name) :
    s.delete fs name =
      carryOut fs (.ok (if fs.has (s.path name) then [.remove (s.path name)] else [])) := by
  rw [delete, deleteActions, checkName, if_pos h]
  rfl

/-- Steps are carried out without an error if all of them succeed. -/
lemma carryOut_ok_eq_ok_iff {actions : List Action} :
    carryOut fs (.ok actions) = (fs', .ok ()) ↔ Action.runAll fs actions = (fs', none) := by
  rw [carryOut]
  split
  · rename_i fs₁ hrun
    simp [hrun]
  · rename_i fs₁ e hrun
    simp [hrun]

/-- A map that has lost a name or got a diagram for it still has valid names only. -/
lemma isValidName_of_update {value : Option Snapshot} (hvalid : ∀ n, (m n).isSome → isValidName n)
    (hname : isValidName name) (n : String) (h : (Function.update m name value n).isSome) :
    isValidName n := by
  by_cases hn : n = name
  · exact hn ▸ hname
  · rw [Function.update_of_ne hn] at h
    exact hvalid n h

/-! ### The list of a directory -/

/-- Different names are strictly increasing when they have been sorted. -/
lemma pairwise_lt_mergeSort {names : List String} (hnames : names.Nodup) :
    (names.mergeSort fun a b => decide (a ≤ b)).Pairwise (· < ·) := by
  have hsorted : (names.mergeSort fun a b => decide (a ≤ b)).Pairwise
      fun a b => decide (a ≤ b) = true := by
    refine List.pairwise_mergeSort (fun a b c hab hbc => ?_) (fun a b => ?_) names
    · rw [decide_eq_true_iff] at hab hbc ⊢
      exact String.le_trans hab hbc
    · simpa using String.le_total a b
  have hdifferent := (List.mergeSort_perm names fun a b => decide (a ≤ b)).nodup_iff.mpr hnames
  refine hsorted.imp₂ (fun a b hle hne => ?_) hdifferent
  exact Std.lt_of_le_of_ne (of_decide_eq_true hle) hne

/-- The names that a directory is listed with: those of its entries that end like the file of a
diagram, without the ending and unless a dot is in front. -/
def listed (names : List String) : List String :=
  (((names.filter fun x => decide (".json".toList <:+ x.toList)).map Path.stem).filter
    fun n => n.toList.head? != some '.')

/-- In a directory whose path has no special characters, the list is that of the entries there. -/
lemma list_eq_of_opens (s : Store) {d : Place} (hdir : s.dir ≠ "")
    (hplain : ∀ c ∈ s.dir.toList, Glob.IsPlain c) (hd : fs.Opens s.dir d) :
    s.list fs = .ok ((listed (fs.children d)).mergeSort fun a b => decide (a ≤ b)) := by
  have hfind := Glob.find?_join ".json" hplain (List.all_iff_forall_prop.mp (by decide))
    (by decide) hd.2.1 hd.2.2
  have hlast : ∀ x : String, ((d ++ [x]).getLast?.getD "") = x := by
    intro x
    rw [List.getLast?_concat, Option.getD_some]
  have hpattern : "*" ++ ".json" = "*.json" := rfl
  rw [hpattern] at hfind
  rw [list, hd.has hdir, hfind]
  simp only [List.map_map, Function.comp_def, hlast]
  rfl

/-- All entries that are files of diagrams are listed. -/
lemma listed_eq_map_stem {names : List String}
    (hfiles : ∀ x ∈ names, ∃ n, isValidName n ∧ x = fileName n ∧ Path.stem x = n) :
    listed names = names.map Path.stem := by
  have hendings : names.filter (fun x => decide (".json".toList <:+ x.toList)) = names := by
    refine List.filter_eq_self.mpr fun x hx => ?_
    obtain ⟨n, -, rfl, -⟩ := hfiles x hx
    rw [decide_eq_true_iff, fileName, String.toList_append]
    exact List.suffix_append _ _
  rw [listed, hendings]
  refine List.filter_eq_self.mpr fun n hn => ?_
  obtain ⟨x, hx, rfl⟩ := List.mem_map.mp hn
  obtain ⟨n, hvalid, -, hstem⟩ := hfiles x hx
  rw [hstem, bne_iff_ne]
  exact (of_isValidName hvalid).2.1

/-- If a directory holds nothing but files of diagrams, the list is that of their names. -/
lemma list_of_opens (s : Store) {d : Place} (hdir : s.dir ≠ "")
    (hplain : ∀ c ∈ s.dir.toList, Glob.IsPlain c) (hd : fs.Opens s.dir d)
    (hfiles : ∀ x ∈ fs.children d, ∃ n, isValidName n ∧ x = fileName n ∧ Path.stem x = n) :
    s.list fs = .ok (((fs.children d).map Path.stem).mergeSort fun a b => decide (a ≤ b)) := by
  rw [s.list_eq_of_opens hdir hplain hd, listed_eq_map_stem hfiles]

namespace Represents

variable (h : s.Represents fs m) (hdir : s.dir ≠ "")

include h hdir

/-! ### Reading -/

/-- There is a file for a name exactly if the map has the name. -/
lemma has_path (hname : isValidName name) : fs.has (s.path name) ↔ (m name).isSome := by
  rw [path, FileSystem.has_join_iff h.sound (isFileName_fileName hname)]
  rcases h.entries with ⟨habsent, rfl⟩ | ⟨d, hd, hholds⟩
  · constructor
    · rintro ⟨d, hd, -⟩
      exact absurd hd (habsent.not_opens hdir d)
    · intro hsome
      cases hsome
  · have hfile := hholds.files name hname
    constructor
    · rintro ⟨d', hd', hsome⟩
      rw [hd'.unique hd, hfile, Option.isSome_map] at hsome
      exact hsome
    · intro hsome
      exact ⟨d, hd, by rw [hfile, Option.isSome_map]; exact hsome⟩

/-- Reading gives the diagram of the map, if there is one. -/
lemma read_eq (hname : isValidName name) :
    s.read fs name = match m name with
      | some snapshot => .ok snapshot
      | none => .error (.notFound name) := by
  have hcheck : checkName name = .ok () := by rw [checkName, if_pos hname]
  have hhas := h.has_path hdir hname
  cases hm : m name with
  | none =>
    rw [hm, Option.isSome_none] at hhas
    simp [read, readText, hcheck, hhas, bind, Except.bind]
  | some snapshot =>
    rw [hm, Option.isSome_some] at hhas
    rcases h.entries with ⟨-, rfl⟩ | ⟨d, hd, hholds⟩
    · cases hm
    · have hfile := hholds.files name hname
      rw [hm, Option.map_some] at hfile
      have htext := FileSystem.readText_join h.sound (isFileName_fileName hname) hd hfile
      have hjson : Snapshot.ofJson snapshot.toJson = .ok snapshot :=
        Json.Record.ofText_pretty snapshot.read_toValue
      rw [← path] at htext
      simp [read, readText, hcheck, hhas, htext, hjson, bind, Except.bind, Except.mapError]

/-! ### Writing and deleting -/

/-- Writing puts the diagram into the map. -/
lemma write (hname : isValidName name) (hwrite : s.write fs name snapshot = (fs', .ok ())) :
    s.Represents fs' (Function.update m name (some snapshot)) := by
  rw [write_of_isValidName hname, carryOut_ok_eq_ok_iff] at hwrite
  obtain ⟨fs₁, d, hmade, hd₁, hsound, hrewrites, hget⟩ := Action.of_runAll_publish
    (isFileName_draftName hname) (isFileName_fileName hname) (fileName_ne_draftName name name)
    h.sound hwrite
  -- whether or not the directory was there, it now holds the diagrams of the map
  have hholds : Holds fs₁ d m := by
    rcases h.entries with ⟨habsent, rfl⟩ | ⟨d', hd', hholds⟩
    · have hnone := Action.get?_eq_none_of_run_makeDirectory h.sound hmade
        (habsent.not_opens hdir) habsent.way hd₁
      refine ⟨fun n _ => hnone _, fun x hx => ?_⟩
      rw [hnone] at hx
      cases hx
    · rw [Action.run_makeDirectory_of_opens hd'] at hmade
      cases hmade
      exact hd₁.unique hd' ▸ hholds
  refine ⟨hsound, isValidName_of_update h.valid hname,
    .inr ⟨d, hrewrites.opens hd₁, hholds.update hname ?_ ?_ ?_⟩⟩
  · rw [hget, if_pos rfl]
    rfl
  · intro n hn hne
    rw [hget, if_neg (by simpa using hne), if_neg (by simp)]
  · intro x hx hsome
    rw [hget, if_neg (by simpa using hx)] at hsome
    split_ifs at hsome
    · cases hsome
    · exact hsome

/-- Deleting takes the name out of the map. -/
lemma delete (hname : isValidName name) (hdelete : s.delete fs name = (fs', .ok ())) :
    s.Represents fs' (Function.update m name none) := by
  rw [delete_of_isValidName hname, carryOut_ok_eq_ok_iff] at hdelete
  have hhas := h.has_path hdir hname
  by_cases hsome : (m name).isSome
  · rw [if_pos (hhas.mpr hsome), Action.runAll_cons_eq_none_iff] at hdelete
    obtain ⟨fs₁, hremove, hrest⟩ := hdelete
    obtain rfl := Action.runAll_nil_eq_none_iff.mp hrest
    rcases h.entries with ⟨-, rfl⟩ | ⟨d, hd, hholds⟩
    · cases hsome
    · obtain ⟨hsound, hrewrites, hget⟩ :=
        Action.of_run_remove h.sound hd (isFileName_fileName hname) hremove
      refine ⟨hsound, isValidName_of_update h.valid hname,
        .inr ⟨d, hrewrites.opens hd, hholds.update hname ?_ ?_ ?_⟩⟩
      · rw [hget, if_pos rfl]
        rfl
      · intro n hn hne
        rw [hget, if_neg (by simpa [fileName_inj] using hne)]
      · intro x hx hsome
        rw [hget, if_neg (by simpa using hx)] at hsome
        exact hsome
  · rw [if_neg (fun hh => hsome (hhas.mp hh))] at hdelete
    obtain rfl := Action.runAll_nil_eq_none_iff.mp hdelete
    have hnone : m name = none := Option.not_isSome_iff_eq_none.mp hsome
    rw [← hnone, Function.update_eq_self]
    exact h

/-! ### Listing -/

/-- Listing gives the names of the map in order and without repetition. -/
lemma list_eq (hplain : ∀ c ∈ s.dir.toList, Glob.IsPlain c) :
    ∃ names, s.list fs = .ok names ∧ names.Pairwise (· < ·) ∧ ∀ n, n ∈ names ↔ (m n).isSome := by
  rcases h.entries with ⟨habsent, rfl⟩ | ⟨d, hd, hholds⟩
  · refine ⟨[], ?_, List.Pairwise.nil, fun n => by simp [Catalog.empty]⟩
    rw [list, habsent.has]
    rfl
  · have hfiles : ∀ x ∈ fs.children d, ∃ n, isValidName n ∧ x = fileName n ∧ Path.stem x = n := by
      intro x hx
      obtain ⟨n, hn, rfl⟩ := hholds.names x (FileSystem.mem_children.mp hx)
      exact ⟨n, hn, rfl, stem_fileName (of_isValidName hn).1⟩
    refine ⟨((fs.children d).map Path.stem).mergeSort fun a b => decide (a ≤ b), ?_, ?_,
      fun n => ?_⟩
    · exact s.list_of_opens hdir hplain hd hfiles
    · refine pairwise_lt_mergeSort (List.Nodup.map_on ?_ (h.sound.nodup_children d))
      intro x hx y hy hxy
      obtain ⟨n, -, rfl, hn⟩ := hfiles x hx
      obtain ⟨k, -, rfl, hk⟩ := hfiles y hy
      rw [← hn, ← hk, hxy]
    · rw [List.mem_mergeSort, List.mem_map]
      constructor
      · rintro ⟨x, hx, hstem⟩
        obtain ⟨k, hk, rfl, hkn⟩ := hfiles x hx
        obtain rfl : k = n := hkn.symm.trans hstem
        have hsome := FileSystem.mem_children.mp hx
        rwa [hholds.files k hk, Option.isSome_map] at hsome
      · intro hsome
        have hn := h.valid n hsome
        refine ⟨fileName n, FileSystem.mem_children.mpr ?_, stem_fileName (of_isValidName hn).1⟩
        rw [hholds.files n hn, Option.isSome_map]
        exact hsome

end Represents

end Store

end CrudScaffold
