import CrudScaffold.Glob.Search
import CrudScaffold.Proofs.FileSystem.Basic

/-!
# Searching a directory by ending

A path without special characters is a pattern that stands for itself: the search follows its names
as a look-up does. A star behind it is held against the names in the directory, and with an ending
behind the star exactly the names with that ending fit.
-/

namespace CrudScaffold.Glob

variable {fs : FileSystem} {p d : Place}

/-! ### Patterns -/

/-- A character that stands for itself in a pattern. -/
def IsPlain (c : Char) : Prop := c ≠ '?' ∧ c ≠ '*' ∧ c ≠ '['

/-- Plain characters are recognised by looking at them. -/
instance (c : Char) : Decidable (IsPlain c) := inferInstanceAs (Decidable (_ ∧ _))

/-- Plain characters are read one by one. -/
lemma tokens?_of_plain {cs : List Char} (h : ∀ c ∈ cs, IsPlain c) :
    tokens? cs = some (cs.map .char) := by
  induction cs with
  | nil => rw [tokens?]; rfl
  | cons c cs ih =>
    obtain ⟨hany, hstar, hbracket⟩ := h c List.mem_cons_self
    rw [tokens?, ih fun d hd => h d (List.mem_cons_of_mem c hd)]
    · rfl
    all_goals simp [hany, hstar, hbracket]

/-- A plain name is a pattern of a name. -/
lemma component?_of_plain {cs : List Char} (h : ∀ c ∈ cs, IsPlain c) :
    component? cs = some (.name (cs.map .char)) := by
  have hne : cs ≠ ['*', '*'] := by
    rintro rfl
    exact (h '*' List.mem_cons_self).2.1 rfl
  rw [component?, if_neg hne, tokens?_of_plain h]
  rfl

/-- A star with a plain ending behind it is a pattern of a name. -/
lemma component?_star {cs : List Char} (h : ∀ c ∈ cs, IsPlain c) :
    component? ('*' :: cs) = some (.name (.anyChars :: cs.map .char)) := by
  have hne : '*' :: cs ≠ ['*', '*'] := by
    intro he
    have hcs : cs = ['*'] := (List.cons.inj he).2
    exact (h '*' (hcs ▸ List.mem_cons_self)).2.1 rfl
  rw [component?, if_neg hne, tokens?, tokens?_of_plain h]
  · rfl
  · rintro r rfl
    exact (h '*' List.mem_cons_self).2.1 rfl

/-- Plain characters stand for one name. -/
lemma literal?_chars (cs : List Char) : literal? (cs.map .char) = some cs := by
  induction cs with
  | nil => rfl
  | cons c cs ih => rw [List.map_cons, literal?, ih]; rfl

/-- What fits to plain characters is what they are. -/
lemma fits_chars {cs ds : List Char} : fits (cs.map .char) ds ↔ ds = cs := by
  induction cs generalizing ds with
  | nil => cases ds <;> simp [fits]
  | cons c cs ih =>
    cases ds with
    | nil => simp [fits]
    | cons d ds => simp [fits, ih]

/-- What fits behind a star is found behind something. -/
lemma fits_anyChars {ts : List Token} {ds : List Char} :
    fits (.anyChars :: ts) ds ↔ ∃ t, t <:+ ds ∧ fits ts t := by
  induction ds with
  | nil => simp [fits]
  | cons d ds ih =>
    rw [fits, Bool.or_eq_true, ih]
    constructor
    · rintro (h | ⟨t, ht, h⟩)
      · exact ⟨d :: ds, List.suffix_rfl, h⟩
      · exact ⟨t, ht.trans (List.suffix_cons d ds), h⟩
    · rintro ⟨t, ht, h⟩
      rcases List.suffix_cons_iff.mp ht with rfl | ht
      · exact .inl h
      · exact .inr ⟨t, ht, h⟩

/-- What fits to a star and an ending ends like that. -/
lemma fits_star {cs ds : List Char} : fits (.anyChars :: cs.map .char) ds ↔ cs <:+ ds := by
  rw [fits_anyChars]
  constructor
  · rintro ⟨t, ht, hfits⟩
    exact fits_chars.mp hfits ▸ ht
  · intro h
    exact ⟨cs, h, fits_chars.mpr rfl⟩

/-! ### The search -/

/-- The pattern of a plain name. -/
def plain (name : String) : Component := .name (name.toList.map .char)

/-- Patterns of plain names are followed like the names. -/
lemma search_plain {names : List String} (h : fs.Leads p names d)
    (hd : fs.get? d = some .directory) (rest : List Component) :
    search fs (names.map plain ++ rest) p = search fs rest d := by
  induction names generalizing p with
  | nil => rw [FileSystem.leads_nil.mp h]; rfl
  | cons x names ih =>
    obtain ⟨q, hstep, hq⟩ := FileSystem.leads_cons.mp h
    have hqd : fs.get? q = some .directory := by
      rcases hq.eq_or_directory with rfl | hqd
      · exact hd
      · exact hqd
    have hnext : next fs (x.toList.map .char) p = [q] := by
      simp only [next, literal?_chars, String.ofList_toList, hstep, hqd]
      rfl
    rw [List.map_cons, List.cons_append, plain, search, hnext, List.flatMap_singleton]
    exact ih hq

/-- Patterns of plain names that lead to no directory find nothing behind a star. -/
lemma search_plain_of_forall_ne {names : List String} {tokens : List Token}
    (h : ∀ d, fs.Leads p names d → fs.get? d ≠ some .directory) :
    search fs (names.map plain ++ [.name (.anyChars :: tokens)]) p = [] := by
  induction names generalizing p with
  | nil =>
    have hp : ¬ fs.isDirectoryAt p := by
      simpa [FileSystem.isDirectoryAt] using h p (FileSystem.leads_nil.mpr rfl)
    simp [search, next, literal?, hp]
  | cons x names ih =>
    rw [List.map_cons, List.cons_append, plain, search, List.flatMap_eq_nil_iff]
    intro q hq
    have hstep : fs.step p x = .ok q := by
      simp only [next, literal?_chars, String.ofList_toList] at hq
      cases hp : fs.step p x with
      | error e => simp [hp] at hq
      | ok r =>
        rw [hp] at hq
        dsimp only at hq
        split_ifs at hq
        · rw [List.mem_singleton.mp hq]
        · cases hq
    exact ih fun d hd => h d (FileSystem.leads_cons.mpr ⟨q, hstep, hd⟩)

/-- A star and an ending find the names in a directory that have the ending. -/
lemma next_star {cs : List Char} (hd : fs.get? d = some .directory) :
    next fs (.anyChars :: cs.map .char) d =
      ((fs.children d).filter fun x => decide (cs <:+ x.toList)).map (d ++ [·]) := by
  have hdirectory : fs.isDirectoryAt d := by rw [FileSystem.isDirectoryAt, hd]; rfl
  have hfits : (fun x : String => fits (.anyChars :: cs.map .char) x.toList) =
      fun x => decide (cs <:+ x.toList) := by
    funext x
    rw [Bool.eq_iff_iff, fits_star, decide_eq_true_iff]
  simp only [next, literal?, hdirectory, if_true, List.head?_cons, hfits]
  simp

/-- Plain names and a star with an ending make up a pattern. -/
lemma mapM_component? {names : List String} (hnames : ∀ x ∈ names, ∀ c ∈ x.toList, IsPlain c)
    {cs : List Char} (hcs : ∀ c ∈ cs, IsPlain c) :
    (names.map String.toList ++ ['*' :: cs]).mapM component? =
      some (names.map plain ++ [.name (.anyChars :: cs.map .char)]) := by
  induction names with
  | nil => simp [component?_star hcs]
  | cons x names ih =>
    have hx := component?_of_plain (hnames x List.mem_cons_self)
    have hrest := ih fun y hy => hnames y (List.mem_cons_of_mem x hy)
    rw [List.map_cons, List.cons_append, List.mapM_cons, hx, hrest]
    rfl

/-- A pattern behind the path of a directory, if both have no special characters but the star in
front of the ending, is followed name by name. -/
lemma exists_find?_join {dir : String} (fs : FileSystem) (ending : String)
    (hdir : ∀ c ∈ dir.toList, IsPlain c) (hending : ∀ c ∈ ending.toList, IsPlain c)
    (hslash : '/' ∉ ending.toList) :
    ∃ front : List String, front.filter (· ≠ "") = Path.route dir ∧
      find? fs (Path.join dir ("*" ++ ending)) = some (search fs
        (front.map plain ++ [.name (.anyChars :: ending.toList.map .char)]) (fs.start dir)) := by
  have hstar : ("*" ++ ending).toList = '*' :: ending.toList := by simp
  have hx : Path.IsSegment ("*" ++ ending) := by
    refine ⟨fun he => ?_, ?_⟩
    · rw [he] at hstar
      cases hstar
    · rw [hstar]
      exact List.not_mem_cons_of_ne_of_not_mem (by decide) hslash
  obtain ⟨front, hrelative, hfront⟩ := hx.exists_names_relative dir
  have hplain : ∀ x ∈ front, ∀ c ∈ x.toList, IsPlain c := by
    intro x hx c hc
    have hne : x ≠ "" := by
      rintro rfl
      exact absurd hc List.not_mem_nil
    have hmem : x ∈ Path.route dir := hfront ▸ List.mem_filter.mpr ⟨hx, by simpa using hne⟩
    exact hdir c (Path.of_mem_names (List.mem_filter.mp hmem).1 hc).1
  have hpattern : pattern? (String.ofList
      ((Path.join dir ("*" ++ ending)).toList.dropWhile (· = '/'))) =
      some (front.map plain ++ [.name (.anyChars :: ending.toList.map .char)]) := by
    have hparts := congrArg (List.map String.toList) hrelative
    rw [Path.names, List.map_map, List.map_append, List.map_singleton, hstar] at hparts
    rw [pattern?, ← mapM_component? hplain hending, ← hparts]
    simp [Function.comp_def]
  refine ⟨front, hfront, ?_⟩
  simp only [find?, hpattern, FileSystem.start_join hx, Option.map_some]

/-- **Searching a directory by ending.** A search for a star with an ending, below a path without
special characters, finds the names in the directory of the path that have the ending. -/
lemma find?_join {dir : String} (ending : String) (hdir : ∀ c ∈ dir.toList, IsPlain c)
    (hending : ∀ c ∈ ending.toList, IsPlain c) (hslash : '/' ∉ ending.toList)
    (h : fs.Leads (fs.start dir) (Path.route dir) d) (hd : fs.get? d = some .directory) :
    find? fs (Path.join dir ("*" ++ ending)) =
      some (((fs.children d).filter fun x =>
        decide (ending.toList <:+ x.toList)).map (d ++ [·])) := by
  obtain ⟨front, hfront, hfind⟩ := exists_find?_join fs ending hdir hending hslash
  have hleads : fs.Leads (fs.start dir) front d := by
    rw [← hfront] at h
    exact h.of_filter_ne_empty hd
  simp only [hfind, search_plain hleads hd, search]
  rw [next_star hd]
  simp

/-- Below a path that leads to no directory the search finds nothing. -/
lemma find?_join_of_forall_ne {dir : String} (ending : String)
    (hdir : ∀ c ∈ dir.toList, IsPlain c) (hending : ∀ c ∈ ending.toList, IsPlain c)
    (hslash : '/' ∉ ending.toList)
    (h : ∀ d, fs.Leads (fs.start dir) (Path.route dir) d → fs.get? d ≠ some .directory) :
    find? fs (Path.join dir ("*" ++ ending)) = some [] := by
  obtain ⟨front, hfront, hfind⟩ := exists_find?_join fs ending hdir hending hslash
  rw [hfind, search_plain_of_forall_ne]
  intro d hd
  exact h d (hfront ▸ hd.filter)

end CrudScaffold.Glob
