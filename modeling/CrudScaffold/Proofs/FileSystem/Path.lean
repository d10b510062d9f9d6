import CrudScaffold.FileSystem.Path
import CrudScaffold.Proofs.List

/-!
# Laws of paths

Where a path leads depends on its names, and empty names lead nowhere: `Path.route` leaves them out.
What is joined to a directory stands at the end of the route, whether or not the directory ends in a
slash, and a path that ends in a name of its own has no slash to lose.
-/

namespace CrudScaffold.Path

/-- A text that can be a name of its own in a path. -/
structure IsSegment (x : String) : Prop where
  ne_empty : x ≠ ""
  slash : '/' ∉ x.toList

/-- A text that can be the name of a file. -/
structure IsFileName (x : String) : Prop extends IsSegment x where
  ne_dot : x ≠ "."
  ne_dots : x ≠ ".."
  zero : '\x00' ∉ x.toList

/-- A text that is longer than two dots is the name of a file if it has no slash and no zero. -/
lemma isFileName_of_length {x : String} (h : 2 < x.toList.length) (hslash : '/' ∉ x.toList)
    (hzero : '\x00' ∉ x.toList) : IsFileName x := by
  have hne : ∀ y : String, y.toList.length ≤ 2 → x ≠ y := by
    rintro y hy rfl
    exact Nat.not_lt.mpr hy h
  exact ⟨⟨hne "" (by decide), hslash⟩, hne "." (by decide), hne ".." (by decide), hzero⟩

/-- Texts with endings that end in different letters are different. -/
lemma append_ne_append {a b ending ending' : String}
    (h : ending.toList.getLast? ≠ ending'.toList.getLast?) (hne : ending ≠ "")
      (hne' : ending' ≠ "") :
    a ++ ending ≠ b ++ ending' := by
  have hlast : ∀ a e : String, e ≠ "" → (a ++ e).toList.getLast? = e.toList.getLast? := by
    intro a e he
    rw [String.toList_append]
    exact List.getLast?_append_of_ne_nil _ fun hnil => he (String.toList_eq_nil_iff.mp hnil)
  intro he
  refine h ?_
  rw [← hlast a ending hne, he, hlast b ending' hne']

/-- The names of a path without the empty ones. -/
def route (path : String) : List String := (names path).filter (· ≠ "")

variable {dir path x : String}

/-- A text is parted at its slashes. -/
lemma splitChars_eq (cs : List Char) : splitChars cs = cs.splitOn '/' := by
  induction cs with
  | nil => rfl
  | cons c cs ih =>
    obtain ⟨d, ds, hd⟩ := List.exists_cons_of_ne_nil (List.splitOn_ne_nil '/' cs)
    rw [splitChars, ih, List.splitOn_cons_eq_if_modifyHead, hd]
    by_cases hc : c = '/'
    · simp [hc]
    · simp [hc]

/-- The names of a path. -/
lemma names_eq (path : String) : names path = (path.toList.splitOn '/').map String.ofList := by
  rw [names, splitChars_eq]

/-- The names of a path are what stands before a slash and what stands behind it. -/
lemma names_append_slash (a b : String) : names (a ++ "/" ++ b) = names a ++ names b := by
  have hlist : (a ++ "/" ++ b).toList = a.toList ++ '/' :: b.toList := by simp
  rw [names_eq, hlist, List.splitOn_append_cons_self, List.map_append, ← names_eq, ← names_eq]

/-- The characters of a name are characters of the path other than slashes. -/
lemma of_mem_names {c : Char} (hx : x ∈ names path) (hc : c ∈ x.toList) :
    c ∈ path.toList ∧ c ≠ '/' := by
  rw [names_eq] at hx
  obtain ⟨part, hpart, rfl⟩ := List.mem_map.mp hx
  rw [String.toList_ofList] at hc
  exact of_mem_splitOn hpart hc

/-- A path is its names after some empty ones if the slashes at its start are left out. -/
lemma exists_names_dropWhile (path : String) :
    ∃ k, names path = List.replicate k "" ++
      names (String.ofList (path.toList.dropWhile (· = '/'))) := by
  have hsplit : ∀ cs : List Char, ∃ k, cs.splitOn '/' =
      List.replicate k [] ++ (cs.dropWhile (· = '/')).splitOn '/' := by
    intro cs
    induction cs with
    | nil => exact ⟨0, rfl⟩
    | cons c cs ih =>
      by_cases hc : c = '/'
      · obtain ⟨k, hk⟩ := ih
        refine ⟨k + 1, ?_⟩
        rw [List.splitOn_cons_eq_if_modifyHead, hc, beq_self_eq_true, if_pos rfl, hk,
          List.dropWhile_cons_of_pos (by simp), List.replicate_succ, List.cons_append]
      · exact ⟨0, by rw [List.dropWhile_cons_of_neg (by simpa using hc)]; rfl⟩
  obtain ⟨k, hk⟩ := hsplit path.toList
  refine ⟨k, ?_⟩
  rw [names_eq, names_eq, hk, List.map_append, List.map_replicate, String.toList_ofList]

/-- A text without slashes is its own name. -/
lemma names_of_notMem (h : '/' ∉ x.toList) : names x = [x] := by
  rw [names_eq, List.splitOn_eq_singleton h, List.map_singleton, String.ofList_toList]

/-- A segment does not start at the root. -/
lemma IsSegment.isAbsolute_eq_false (h : IsSegment x) : isAbsolute x = false := by
  rw [isAbsolute, beq_eq_false_iff_ne]
  intro hhead
  exact h.slash (List.mem_of_mem_head? hhead)

/-- Where a path starts does not depend on what follows its first characters. -/
lemma isAbsolute_append {a : String} (ha : a ≠ "") (b : String) :
    isAbsolute (a ++ b) = isAbsolute a := by
  obtain ⟨c, cs, hcs⟩ := List.exists_cons_of_ne_nil (mt String.toList_eq_nil_iff.mp ha)
  rw [isAbsolute, isAbsolute, String.toList_append, hcs, List.cons_append, List.head?_cons,
    List.head?_cons]

/-- The ways to join a segment to a directory: to nothing, to a slash, and with a slash. -/
lemma IsSegment.join_cases (h : IsSegment x) (dir : String) :
    (dir = "" ∧ join dir x = x) ∨ (∃ front, dir = front ++ "/" ∧ join dir x = front ++ "/" ++ x) ∨
      (dir ≠ "" ∧ join dir x = dir ++ "/" ++ x) := by
  by_cases hempty : dir = ""
  · exact .inl ⟨hempty, by rw [join, hempty]; simp⟩
  · have hno : (isAbsolute x || dir.isEmpty) = false := by
      rw [h.isAbsolute_eq_false, Bool.false_or, Bool.eq_false_iff]
      exact fun he => hempty (String.isEmpty_iff.mp he)
    rw [join, hno, if_neg Bool.false_ne_true]
    by_cases hslash : dir.toList.getLast? = some '/'
    · obtain ⟨front, hfront⟩ := List.getLast?_eq_some_iff.mp hslash
      have hdir : dir = String.ofList front ++ "/" := by
        refine String.toList_injective ?_
        rw [hfront, String.toList_append, String.toList_ofList]
        rfl
      exact .inr (.inl ⟨String.ofList front, hdir, by rw [if_pos hslash, ← hdir]⟩)
    · exact .inr (.inr ⟨hempty, by rw [if_neg hslash]⟩)

/-- A segment that is joined to a directory is the last name of the path, and the names before it
are those of the directory, but for empty ones. -/
lemma IsSegment.exists_names_join (h : IsSegment x) (dir : String) :
    ∃ front, names (join dir x) = front ++ [x] ∧ front.filter (· ≠ "") = route dir := by
  rcases h.join_cases dir with ⟨rfl, hjoin⟩ | ⟨front, rfl, hjoin⟩ | ⟨-, hjoin⟩
  · exact ⟨[], by rw [hjoin, names_of_notMem h.slash]; rfl, by decide⟩
  · refine ⟨names front, by rw [hjoin, names_append_slash, names_of_notMem h.slash], ?_⟩
    have hnames : names (front ++ "/") = names front ++ [""] := by
      have hnone : names "" = [""] := rfl
      rw [← hnone, ← names_append_slash, String.append_empty]
    rw [route, hnames, List.filter_append]
    simp
  · exact ⟨names dir, by rw [hjoin, names_append_slash, names_of_notMem h.slash], rfl⟩

/-- The same holds if the slashes at the start of the path are left out. -/
lemma IsSegment.exists_names_relative (h : IsSegment x) (dir : String) :
    ∃ front, names (String.ofList ((join dir x).toList.dropWhile (· = '/'))) = front ++ [x] ∧
      front.filter (· ≠ "") = route dir := by
  obtain ⟨front, hnames, hroute⟩ := h.exists_names_join dir
  obtain ⟨k, hk⟩ := exists_names_dropWhile (join dir x)
  generalize hrest : names (String.ofList ((join dir x).toList.dropWhile (· = '/'))) = rest at hk ⊢
  have hne : rest ≠ [] := by
    rw [← hrest, names_eq]
    exact fun hnil => List.splitOn_ne_nil _ _ (List.map_eq_nil_iff.mp hnil)
  rw [hnames, ← List.dropLast_append_getLast hne, ← List.append_assoc] at hk
  obtain ⟨hbefore, hlast⟩ := List.append_inj' hk rfl
  refine ⟨rest.dropLast, ?_, ?_⟩
  · rw [hlast, List.dropLast_append_getLast hne]
  · rw [← hroute, hbefore, List.filter_append]
    simp

@[simp] lemma empty_notMem_route (path : String) : "" ∉ route path := by
  simp [route]

/-- The route to a segment of a directory is the route to the directory and the segment. -/
lemma IsSegment.route_join (h : IsSegment x) (dir : String) :
    route (join dir x) = route dir ++ [x] := by
  obtain ⟨front, hnames, hfront⟩ := h.exists_names_join dir
  rw [route, hnames, List.filter_append, hfront]
  simp [h.ne_empty]

/-- A path starts where its directory does. -/
lemma IsSegment.isAbsolute_join (h : IsSegment x) (dir : String) :
    isAbsolute (join dir x) = isAbsolute dir := by
  rcases h.join_cases dir with ⟨rfl, hjoin⟩ | ⟨front, rfl, hjoin⟩ | ⟨hdir, hjoin⟩
  · rw [hjoin, h.isAbsolute_eq_false]
    rfl
  · have hslash : front ++ "/" ≠ "" := by simp
    rw [hjoin, isAbsolute_append hslash]
  · rw [hjoin, String.append_assoc, isAbsolute_append hdir]

/-- The characters of a joined path are those of its parts, and a slash. -/
lemma IsSegment.mem_join (h : IsSegment x) (dir : String) {c : Char} (hc : c ≠ '/') :
    c ∈ (join dir x).toList ↔ c ∈ dir.toList ∨ c ∈ x.toList := by
  rcases h.join_cases dir with ⟨rfl, hjoin⟩ | ⟨front, rfl, hjoin⟩ | ⟨-, hjoin⟩
  · simp [hjoin]
  · simp [hjoin, hc]
  · simp [hjoin, hc]

/-- A joined path is not empty. -/
lemma IsSegment.join_ne_empty (h : IsSegment x) (dir : String) : join dir x ≠ "" := by
  intro hempty
  have hroute := h.route_join dir
  rw [hempty] at hroute
  exact List.cons_ne_nil _ _ (List.append_eq_nil_iff.mp hroute.symm).2

/-- A path that ends in a segment ends in no slash. -/
lemma IsSegment.unslashed_join (h : IsSegment x) (dir : String) :
    unslashed (join dir x) = join dir x := by
  have hlast : ∃ c front, (join dir x).toList = front ++ [c] ∧ c ≠ '/' := by
    have hne : x.toList ≠ [] := fun hnil => h.ne_empty (String.toList_eq_nil_iff.mp hnil)
    have hx : x.toList = x.toList.dropLast ++ [x.toList.getLast hne] :=
      (List.dropLast_append_getLast hne).symm
    have hc : x.toList.getLast hne ≠ '/' := fun he => h.slash (he ▸ List.getLast_mem hne)
    rcases h.join_cases dir with ⟨-, hjoin⟩ | ⟨front, -, hjoin⟩ | ⟨-, hjoin⟩
    · exact ⟨_, _, by rw [hjoin, ← hx], hc⟩
    · refine ⟨_, (front ++ "/").toList ++ x.toList.dropLast, ?_, hc⟩
      rw [hjoin, String.toList_append, List.append_assoc, ← hx]
    · refine ⟨_, (dir ++ "/").toList ++ x.toList.dropLast, ?_, hc⟩
      rw [hjoin, String.toList_append, List.append_assoc, ← hx]
  obtain ⟨c, front, hlist, hc⟩ := hlast
  have hdrop : (join dir x).toList.reverse.dropWhile (· == '/') = c :: front.reverse := by
    rw [hlist, List.reverse_append, List.reverse_singleton, List.singleton_append,
      List.dropWhile_cons, beq_false_of_ne hc]
    rfl
  rw [unslashed, hdrop]
  refine String.toList_injective ?_
  simp [hlist]

/-- A path that ends in a file name ends in a name of its own. -/
lemma IsFileName.endsInName_join (h : IsFileName x) (dir : String) : endsInName (join dir x) := by
  obtain ⟨front, hnames, -⟩ := h.exists_names_join dir
  rw [endsInName, h.unslashed_join, hnames, List.getLast?_concat]
  simp [h.ne_empty, h.ne_dot, h.ne_dots]

/-! ### The ways to a path -/

/-- The names that lead down: those of a route that are not a single dot. -/
def descent (names : List String) : List String := names.filter (· ≠ ".")

/-- The first way to a path is its route. -/
lemma ways_eq (path : String) :
    ways path = route path ::
      (List.range (descent (route path)).length).reverse.map (descent (route path)).take :=
  rfl

/-- Every other way to a path ends above it. -/
lemma of_mem_ways {way : List String} (h : way ∈ ways path) :
    way = route path ∨
      ∃ k < (descent (route path)).length, way = (descent (route path)).take k := by
  rw [ways_eq] at h
  rcases List.mem_cons.mp h with rfl | h
  · exact .inl rfl
  · obtain ⟨k, hk, rfl⟩ := List.mem_map.mp h
    exact .inr ⟨k, List.mem_range.mp (List.mem_reverse.mp hk), rfl⟩

end CrudScaffold.Path
