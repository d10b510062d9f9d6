import CrudScaffold.Proofs.Store.Catalog

/-!
# The store refines a map

A store is asked to write, to read, to delete and to list, in any order and with any names.
`Catalog.Answers` says what a map from names to diagrams answers to a request and which map it is
afterwards, without mentioning files. Each step of the store is one of the map it represents
(`Store.Represents.answer`), and so is a whole run (`Store.Represents.explains`). A run begins with
the empty map if the directory of the store is not there.

The way to that directory matters once. Directories that are missing on it are made, and a path that
leads through one of them and back makes it inside the store, where it can be taken for a diagram.
-/

namespace CrudScaffold

namespace Store

/-- What a store is asked for. -/
inductive Request
  | write (name : String) (snapshot : Snapshot)
  | read (name : String)
  | delete (name : String)
  | list

/-- What a store answers. -/
inductive Answer
  | done
  | diagram (snapshot : Snapshot)
  | names (names : List String)
  | refused (e : StoreError)

/-- A request has failed because an operation on files has. -/
def Answer.isFileError : Answer → Bool
  | .refused (.file _) => true
  | _ => false

/-- The answer that the result of an operation is. -/
def Answer.ofResult {α : Type} (f : α → Answer) : Except StoreError α → Answer
  | .ok a => f a
  | .error e => .refused e

/-- The files and the answer after a request. -/
def answer (s : Store) (fs : FileSystem) : Request → FileSystem × Answer
  | .write name snapshot =>
    let (fs, result) := s.write fs name snapshot
    (fs, .ofResult (fun _ => .done) result)
  | .read name => (fs, .ofResult .diagram (s.read fs name))
  | .delete name =>
    let (fs, result) := s.delete fs name
    (fs, .ofResult (fun _ => .done) result)
  | .list => (fs, .ofResult .names (s.list fs))

/-- The answers to requests one after the other. -/
def answers (s : Store) (fs : FileSystem) : List Request → List Answer
  | [] => []
  | request :: requests =>
    let (fs, answer) := s.answer fs request
    answer :: s.answers fs requests

end Store

open Store

/-! ### What a map answers -/

namespace Catalog

/-- What a map answers to a request, and which map it is afterwards. A name that is not valid is
refused and changes nothing. -/
def Answers (m : Catalog) : Request → Answer → Catalog → Prop
  | .write name snapshot, a, m' =>
    if isValidName name then a = .done ∧ m' = Function.update m name (some snapshot)
    else a = .refused (.invalidName name) ∧ m' = m
  | .read name, a, m' =>
    m' = m ∧
      if isValidName name then
        a = match m name with
          | some snapshot => .diagram snapshot
          | none => .refused (.notFound name)
      else a = .refused (.invalidName name)
  | .delete name, a, m' =>
    if isValidName name then a = .done ∧ m' = Function.update m name none
    else a = .refused (.invalidName name) ∧ m' = m
  | .list, a, m' =>
    m' = m ∧ ∃ names : List String,
      a = .names names ∧ names.Pairwise (· < ·) ∧ ∀ n, n ∈ names ↔ (m n).isSome

/-- A map gives some answers to some requests, one after the other. -/
def Explains (m : Catalog) : List Request → List Answer → Prop
  | [], answers => answers = []
  | request :: requests, answers => ∃ a rest m',
    answers = a :: rest ∧ m.Answers request a m' ∧ Explains m' requests rest

end Catalog

/-! ### One request -/

namespace Store

variable {s : Store} {fs : FileSystem} {m : Catalog} {name : String}

/-- Nothing is deleted for a name that is not valid. -/
lemma delete_of_not_isValidName (h : ¬ isValidName name) :
    s.delete fs name = (fs, .error (.invalidName name)) := by
  rw [delete, deleteActions, checkName, if_neg h]
  rfl

/-- Nothing is read under a name that is not valid. -/
lemma read_of_not_isValidName (h : ¬ isValidName name) :
    s.read fs name = .error (.invalidName name) := by
  rw [read, readText, checkName, if_neg h]
  rfl

/-- Steps that are carried out fail because of files only. -/
lemma exists_carryOut_eq_ok {actions : List Action}
    (h : (Answer.ofResult (fun _ => .done) (carryOut fs (.ok actions)).2).isFileError = false) :
    ∃ fs', carryOut fs (.ok actions) = (fs', .ok ()) := by
  rw [carryOut] at h ⊢
  split at h
  · rename_i fs' hrun
    exact ⟨fs', rfl⟩
  · cases h

/-- **One request.** Unless an operation on files fails, a store that represents a map answers like
the map and represents what becomes of it. -/
lemma Represents.answer (h : s.Represents fs m) (hdir : s.dir ≠ "")
    (hplain : ∀ c ∈ s.dir.toList, Glob.IsPlain c) (request : Request)
    (hfile : (s.answer fs request).2.isFileError = false) :
    ∃ m', m.Answers request (s.answer fs request).2 m' ∧
      s.Represents (s.answer fs request).1 m' := by
  cases request with
  | write name snapshot =>
    by_cases hname : isValidName name
    · obtain ⟨fs', hwrite⟩ : ∃ fs', s.write fs name snapshot = (fs', .ok ()) := by
        rw [write_of_isValidName hname]
        refine exists_carryOut_eq_ok ?_
        rw [← write_of_isValidName hname]
        exact hfile
      refine ⟨Function.update m name (some snapshot), ?_, ?_⟩
      · rw [Catalog.Answers, if_pos hname, Store.answer, hwrite]
        exact ⟨rfl, rfl⟩
      · rw [Store.answer, hwrite]
        exact h.write hdir hname hwrite
    · refine ⟨m, ?_, ?_⟩
      · rw [Catalog.Answers, if_neg hname, Store.answer, write_of_not_isValidName hname]
        exact ⟨rfl, rfl⟩
      · rw [Store.answer, write_of_not_isValidName hname]
        exact h
  | read name =>
    refine ⟨m, ⟨rfl, ?_⟩, h⟩
    by_cases hname : isValidName name
    · rw [if_pos hname, Store.answer, h.read_eq hdir hname]
      cases m name <;> rfl
    · rw [if_neg hname, Store.answer, read_of_not_isValidName hname]
      rfl
  | delete name =>
    by_cases hname : isValidName name
    · obtain ⟨fs', hdelete⟩ : ∃ fs', s.delete fs name = (fs', .ok ()) := by
        rw [delete_of_isValidName hname]
        refine exists_carryOut_eq_ok ?_
        rw [← delete_of_isValidName hname]
        exact hfile
      refine ⟨Function.update m name none, ?_, ?_⟩
      · rw [Catalog.Answers, if_pos hname, Store.answer, hdelete]
        exact ⟨rfl, rfl⟩
      · rw [Store.answer, hdelete]
        exact h.delete hdir hname hdelete
    · refine ⟨m, ?_, ?_⟩
      · rw [Catalog.Answers, if_neg hname, Store.answer, delete_of_not_isValidName hname]
        exact ⟨rfl, rfl⟩
      · rw [Store.answer, delete_of_not_isValidName hname]
        exact h
  | list =>
    obtain ⟨names, hlist, hsorted, hmem⟩ := h.list_eq hdir hplain
    refine ⟨m, ⟨rfl, names, ?_, hsorted, hmem⟩, h⟩
    rw [Store.answer, hlist]
    rfl

/-! ### A run -/

/-- Whatever is asked, a store that represents a map answers like the map, as long as no operation
on files fails. -/
lemma Represents.explains (h : s.Represents fs m) (hdir : s.dir ≠ "")
    (hplain : ∀ c ∈ s.dir.toList, Glob.IsPlain c) (requests : List Request)
    (hfile : ∀ a ∈ s.answers fs requests, a.isFileError = false) :
    m.Explains requests (s.answers fs requests) := by
  induction requests generalizing fs m with
  | nil => rfl
  | cons request requests ih =>
    have hanswers : s.answers fs (request :: requests) =
        (s.answer fs request).2 :: s.answers (s.answer fs request).1 requests := rfl
    rw [hanswers] at hfile ⊢
    obtain ⟨hfirst, hrest⟩ := List.forall_mem_cons.mp hfile
    obtain ⟨m', hanswer, hrepresents⟩ := h.answer hdir hplain request hfirst
    exact ⟨_, _, m', rfl, hanswer, ih hrepresents hrest⟩

/-! ### The store of a home directory -/

variable {home : String}

/-- The directory of a store is a name in the home directory. -/
lemma isSegment_blueprint : Path.IsSegment ".blueprint" := ⟨by decide, by decide⟩

/-- The directory of a store has no special characters if the home directory has none. -/
lemma isPlain_of_mem_dir (hplain : ∀ c ∈ home.toList, Glob.IsPlain c) :
    ∀ c ∈ (ofHome home).dir.toList, Glob.IsPlain c := by
  intro c hc
  by_cases hslash : c = '/'
  · rw [hslash]
    decide
  · have hname : ∀ c ∈ ".blueprint".toList, Glob.IsPlain c :=
      List.all_iff_forall_prop.mp (by decide)
    exact ((isSegment_blueprint.mem_join home hslash).mp hc).elim (hplain c) (hname c)

/-- The directory of a store that is not there will be empty when it is made, if the home directory
is there or the path to it does not lead back. -/
lemma absent_ofHome (habsent : fs.has (ofHome home).dir = false)
    (hhome : fs.has home ∨ ".." ∉ Path.names home) : (ofHome home).Absent fs := by
  have hroute : Path.route (ofHome home).dir = Path.route home ++ [".blueprint"] :=
    isSegment_blueprint.route_join home
  refine ⟨habsent, ?_⟩
  rw [hroute]
  rcases hhome with hhas | hdots
  · obtain ⟨p, hp, hsome⟩ := FileSystem.has_iff.mp hhas
    obtain ⟨-, -, hleads⟩ := FileSystem.locate_eq_ok_iff.mp hp
    rw [ofHome, FileSystem.start_join isSegment_blueprint]
    exact .inr (FileSystem.opened_ne_missing hleads.filter (Option.isSome_iff_ne_none.mp hsome) _)
  · refine .inl fun hmem => ?_
    rcases List.mem_append.mp hmem with hmem | hmem
    · exact hdots (List.mem_filter.mp hmem).1
    · exact absurd (List.mem_singleton.mp hmem) (by decide)

/-- **The store refines a map.** Start with any files, and a store whose directory is not there, in
a home directory without special characters in its path that is there or has no two dots in its
path. Whatever is asked of the store, if no operation on files fails, its answers are those of a map
from names to diagrams that is empty at first. -/
theorem answers_explained (fs : FileSystem) (hfs : fs.Sound) (home : String)
    (hplain : ∀ c ∈ home.toList, c ≠ '?' ∧ c ≠ '*' ∧ c ≠ '[')
    (habsent : fs.has (ofHome home).dir = false)
    (hhome : fs.has home ∨ ".." ∉ Path.names home) (requests : List Request)
    (hfile : ∀ a ∈ (ofHome home).answers fs requests, a.isFileError = false) :
    Catalog.empty.Explains requests ((ofHome home).answers fs requests) := by
  have hrepresents : (ofHome home).Represents fs Catalog.empty := by
    refine ⟨hfs, fun n hn => ?_, .inl ⟨absent_ofHome habsent hhome, rfl⟩⟩
    cases hn
  exact hrepresents.explains (isSegment_blueprint.join_ne_empty home) (isPlain_of_mem_dir hplain)
    requests hfile

/-- Requests with names that have dots, endings, spaces and accents; two of them are refused. -/
def someRequests : List Request :=
  [.list, .write "a.json" {}, .write "línea de\npedido" ⟨[{ id := "1", name := "Línea" }], []⟩,
    .write ".a" {}, .list, .delete "a.json", .delete "b", .read "../a", .read "línea de\npedido"]

/-- Where there are no files at all, the requests are answered as by a map. -/
theorem answers_explained_someRequests :
    FileSystem.Sound {} ∧ ({} : FileSystem).has (ofHome "/home/ana").dir = false ∧
    (∀ a ∈ (ofHome "/home/ana").answers {} someRequests, a.isFileError = false) ∧
    Catalog.empty.Explains someRequests ((ofHome "/home/ana").answers {} someRequests) := by
  have hfs : FileSystem.Sound {} := FileSystem.sound_empty
  have habsent : ({} : FileSystem).has (ofHome "/home/ana").dir = false := by decide
  have hfile : ∀ a ∈ (ofHome "/home/ana").answers {} someRequests, a.isFileError = false := by
    decide +kernel
  exact ⟨hfs, habsent, hfile, answers_explained {} hfs "/home/ana"
    (List.all_iff_forall_prop.mp (by decide)) habsent (.inr (by decide)) someRequests hfile⟩

/-- A home directory whose path leads through a missing directory of the store, and back. -/
def winding : String := ".blueprint/x.json/../.."

/-- The winding path has no special characters. -/
lemma isPlain_winding : ∀ c ∈ winding.toList, c ≠ '?' ∧ c ≠ '*' ∧ c ≠ '[' :=
  List.all_iff_forall_prop.mp (by decide)

/-- What there is after a diagram has been written on the winding path. -/
def wound : FileSystem where
  nodes := [([".blueprint"], .directory), ([".blueprint", "x.json"], .directory),
    ([".blueprint", "a.json"], .file (Text.bytes ({} : Snapshot).toJson))]

/-- Writing makes the directories on the way. -/
lemma write_winding : (ofHome winding).write {} "a" {} = (wound, .ok ()) := by
  obtain ⟨hnodes, hhere, hok⟩ : ((ofHome winding).write {} "a" {}).1.nodes = wound.nodes ∧
      ((ofHome winding).write {} "a" {}).1.here = wound.here ∧
      ((ofHome winding).write {} "a" {}).2.isOk := by
    decide +kernel
  generalize (ofHome winding).write {} "a" {} = outcome at *
  obtain ⟨⟨nodes, here⟩, result⟩ := outcome
  cases result with
  | error e => cases hok
  | ok u => rw [show nodes = wound.nodes from hnodes, show here = wound.here from hhere]

/-- The directory on the winding path is listed like a diagram. -/
lemma list_wound : ∃ names, (ofHome winding).list wound = .ok names ∧ "x" ∈ names := by
  have hopens : wound.Opens (ofHome winding).dir [".blueprint"] := by
    refine ⟨by decide, ?_, rfl⟩
    rw [FileSystem.Leads]
    decide
  have hchildren : wound.children [".blueprint"] = [fileName "x", fileName "a"] := by decide
  have hfiles : ∀ x ∈ wound.children [".blueprint"],
      ∃ n, isValidName n ∧ x = fileName n ∧ Path.stem x = n := by
    rw [hchildren]
    refine List.forall_mem_cons.mpr ⟨?_, List.forall_mem_singleton.mpr ?_⟩
    · exact ⟨"x", by decide, rfl, stem_fileName (by decide)⟩
    · exact ⟨"a", by decide, rfl, stem_fileName (by decide)⟩
  have hlist := (ofHome winding).list_of_opens (isSegment_blueprint.join_ne_empty winding)
    (isPlain_of_mem_dir isPlain_winding) hopens hfiles
  refine ⟨_, hlist, List.mem_mergeSort.mpr (List.mem_map.mpr ⟨fileName "x", ?_, ?_⟩)⟩
  · rw [hchildren]
    exact List.mem_cons_self
  · exact stem_fileName (by decide)

/-- A directory that is made on a winding path is listed, as if a diagram had been written. -/
theorem list_after_winding_write :
    FileSystem.Sound {} ∧ (∀ c ∈ winding.toList, c ≠ '?' ∧ c ≠ '*' ∧ c ≠ '[') ∧
    ({} : FileSystem).has (ofHome winding).dir = false ∧
    (∀ a ∈ (ofHome winding).answers {} [.write "a" {}, .list], a.isFileError = false) ∧
    ¬ Catalog.empty.Explains [.write "a" {}, .list]
      ((ofHome winding).answers {} [.write "a" {}, .list]) := by
  have habsent : ({} : FileSystem).has (ofHome winding).dir = false := by decide
  obtain ⟨names, hlist, hx⟩ := list_wound
  have hanswers : (ofHome winding).answers {} [.write "a" {}, .list] = [.done, .names names] := by
    simp only [answers, answer, write_winding, hlist, Answer.ofResult]
  refine ⟨FileSystem.sound_empty, isPlain_winding, habsent, ?_, ?_⟩
  · simp [hanswers, Answer.isFileError]
  · rw [hanswers]
    rintro ⟨_, _, m, ⟨⟩, ⟨-, hm⟩, _, _, _, ⟨⟩, ⟨-, _, ⟨⟩, -, hmem⟩, -⟩
    -- the map has the one name that was written
    have hsome : (m "x").isSome := (hmem "x").mp hx
    rw [hm, Function.update_of_ne (by decide)] at hsome
    cases hsome

end Store

end CrudScaffold
