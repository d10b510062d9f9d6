import Std.Data.String.ToNat
import CrudScaffold.Proofs.Project.ClassOrder

/-!
# Fallback names

A class whose name has no words is called after its position, without a look at how the other
classes are called. Two such classes never get one name, since they stand at different positions,
but a class may be called by its own name what another is called after its position. This module
takes diagrams in which nothing else can bring two classes together (`Snapshot.OwnNamesDiffer`) and
shows that there it is all that can go wrong: the type names are different, and every class has
seven files to itself, exactly if no class has the fallback of another as its own name
(`Snapshot.FallbacksFree`).
-/

namespace CrudScaffold

open Naming

namespace Snapshot

/-- The type names that the names of the classes give by themselves. -/
def ownTypeNames (s : Snapshot) : List String :=
  (s.classes.map fun c => typeName c.name).filter fun n => !n.isEmpty

/-- No two classes share their id, or the type name that they have by themselves. -/
structure OwnNamesDiffer (s : Snapshot) : Prop where
  nodup_classIds : s.classIds.Nodup
  nodup_ownTypeNames : s.ownTypeNames.Nodup

/-- No class has a name of its own that is the fallback of a class without one. -/
def FallbacksFree (s : Snapshot) : Prop :=
  ∀ i c, s.classes[i]? = some c → (typeName c.name).isEmpty = true →
    ∀ d ∈ s.classes, typeName d.name ≠ "Entity" ++ toString (i + 1)

variable {s : Snapshot} {c d : ClassDef} {i j : Nat}

/-! ### Names by position -/

/-- Without two classes of one id each class is called what it is called at its position. -/
lemma typeNames_eq_mapIdx (h : s.classIds.Nodup) :
    s.typeNames = s.classes.mapIdx fun i c => c.resolvedName i := by
  have hkeys : ((ClassNames.ofSnapshot s).entries.reverse.map Prod.fst).Nodup := by
    rw [List.map_reverse, List.nodup_reverse, ClassNames.map_fst_entries]
    exact h
  have hnames : s.typeNames =
      s.classIds.filterMap fun id => (ClassNames.ofSnapshot s).typeName? id := by
    rw [typeNames, classIds, List.filterMap_map]
    rfl
  have hsnd : (ClassNames.ofSnapshot s).entries.map Prod.snd =
      s.classes.mapIdx fun i c => c.resolvedName i := by
    apply List.ext_getElem <;> simp [ClassNames.ofSnapshot]
  rw [hnames, ← ClassNames.map_fst_entries, List.filterMap_map, ← hsnd,
    ← List.filterMap_eq_map']
  refine List.filterMap_congr fun e he => ?_
  exact lookup_eq_some_of_mem hkeys (List.mem_reverse.mpr he)

/-- A class without a usable name is called after its position. -/
lemma resolvedName_of_isEmpty (h : (typeName c.name).isEmpty = true) (i : Nat) :
    c.resolvedName i = "Entity" ++ toString (i + 1) := by
  unfold ClassDef.resolvedName
  exact if_pos h

/-- Different positions give different fallbacks. -/
lemma eq_of_fallback_eq (h : "Entity" ++ toString (i + 1) = "Entity" ++ toString (j + 1)) :
    i = j := by
  have hnumbers := congrArg String.toList h
  simp only [String.toList_append, List.append_right_inj] at hnumbers
  have := Nat.repr_injective (String.toList_injective hnumbers)
  omega

/-- Two classes with the same type name of their own are at one position. -/
lemma OwnNamesDiffer.eq_of_typeName_eq (h : s.OwnNamesDiffer) (hc : s.classes[i]? = some c)
    (hd : s.classes[j]? = some d) (hempty : (typeName c.name).isEmpty = false)
    (hname : typeName c.name = typeName d.name) : i = j := by
  have hpairs : s.classes.Pairwise fun c d => (!(typeName c.name).isEmpty) = true →
      (!(typeName d.name).isEmpty) = true → typeName c.name ≠ typeName d.name := by
    have hnodup := h.nodup_ownTypeNames
    unfold ownTypeNames at hnodup
    exact List.pairwise_map.mp (List.pairwise_filter.mp hnodup)
  have hlt : ∀ {i j : Nat} {c d : ClassDef}, s.classes[i]? = some c → s.classes[j]? = some d →
      (typeName c.name).isEmpty = false → typeName c.name = typeName d.name → ¬ i < j := by
    intro i j c d hc hd hempty hname hij
    obtain ⟨hi, rfl⟩ := List.getElem?_eq_some_iff.mp hc
    obtain ⟨hj, rfl⟩ := List.getElem?_eq_some_iff.mp hd
    refine List.pairwise_iff_getElem.mp hpairs i j hi hj hij ?_ ?_ hname
    · rw [hempty]
      rfl
    · rw [← hname, hempty]
      rfl
  have hij := hlt hc hd hempty hname
  have hji := hlt hd hc (hname ▸ hempty) hname.symm
  omega

/-- Where no fallback is taken, two classes that are called the same are at one position. -/
lemma OwnNamesDiffer.eq_of_resolvedName_eq (h : s.OwnNamesDiffer) (hfree : s.FallbacksFree)
    (hc : s.classes[i]? = some c) (hd : s.classes[j]? = some d)
    (hname : c.resolvedName i = d.resolvedName j) : i = j := by
  cases hcempty : (typeName c.name).isEmpty <;> cases hdempty : (typeName d.name).isEmpty
  · rw [ClassDef.resolvedName_eq hcempty, ClassDef.resolvedName_eq hdempty] at hname
    exact h.eq_of_typeName_eq hc hd hcempty hname
  · rw [ClassDef.resolvedName_eq hcempty, resolvedName_of_isEmpty hdempty] at hname
    exact absurd hname (hfree j d hd hdempty c (List.mem_of_getElem? hc))
  · rw [resolvedName_of_isEmpty hcempty, ClassDef.resolvedName_eq hdempty] at hname
    exact absurd hname.symm (hfree i c hc hcempty d (List.mem_of_getElem? hd))
  · rw [resolvedName_of_isEmpty hcempty, resolvedName_of_isEmpty hdempty] at hname
    exact eq_of_fallback_eq hname

/-- The type names are different exactly if no fallback is taken. -/
lemma OwnNamesDiffer.nodup_typeNames_iff (h : s.OwnNamesDiffer) :
    s.typeNames.Nodup ↔ s.FallbacksFree := by
  rw [typeNames_eq_mapIdx h.nodup_classIds]
  constructor
  · intro hnodup i c hc hempty d hd hname
    obtain ⟨j, hj⟩ := List.mem_iff_getElem?.mp hd
    have hdempty : (typeName d.name).isEmpty = false := by
      rw [hname, String.isEmpty_eq_false_iff]
      exact fun hnil => absurd (congrArg String.length hnil) (by simp)
    -- the two classes are called the same, so they are one, which is usable and is not
    have hi : i < (s.classes.mapIdx fun i c => c.resolvedName i).length := by
      rw [List.length_mapIdx]
      exact (List.getElem?_eq_some_iff.mp hc).1
    obtain rfl : i = j := by
      apply (List.getElem?_inj hi hnodup).mp
      rw [List.getElem?_mapIdx, List.getElem?_mapIdx, hc, hj, Option.map_some, Option.map_some,
        resolvedName_of_isEmpty hempty, ClassDef.resolvedName_eq hdempty, hname]
    rw [hc] at hj
    cases hj
    rw [hempty] at hdempty
    cases hdempty
  · intro hfree
    refine List.pairwise_iff_getElem.mpr fun i j hi hj hij hname => ?_
    rw [List.getElem_mapIdx, List.getElem_mapIdx] at hname
    rw [List.length_mapIdx] at hi hj
    have := h.eq_of_resolvedName_eq hfree (List.getElem?_eq_getElem hi)
      (List.getElem?_eq_getElem hj) hname
    omega

/-! ### Files by class -/

/-- There are seven files to every type name, and four besides. -/
lemma size_ofList_files (s : Snapshot) (config : Config) (name : String) :
    (FileTree.ofList (s.files config name)).size = 4 + 7 * s.typeNames.eraseDups.length := by
  have hlength := congrArg List.length (s.paths_ofList_files config name)
  simp only [List.length_append, List.length_flatMap, Layout.length_typePaths, List.map_const',
    List.sum_replicate_nat, Layout.length_ownPaths, FileTree.paths, List.length_map] at hlength
  unfold FileTree.size
  omega

/-- The type names of the classes one by one. -/
lemma map_some_typeNames (s : Snapshot) :
    s.typeNames.map some = s.classes.map fun c => (ClassNames.ofSnapshot s).typeName? c.id := by
  rw [typeNames, List.map_filterMap, ← List.filterMap_eq_map']
  refine List.filterMap_congr fun c hc => ?_
  obtain ⟨n, hn⟩ := exists_typeName? hc
  rw [hn]
  rfl

/-- Where the type names are different, each of them is that of one class. -/
lemma lastNamed_eq_of_nodup (h : s.typeNames.Nodup) (hc : c ∈ s.classes) {n : String}
    (hn : (ClassNames.ofSnapshot s).typeName? c.id = some n) : s.lastNamed n = some c := by
  have hnodup := h.map fun _ _ => Option.some.inj
  rw [map_some_typeNames] at hnodup
  obtain ⟨d, hlast⟩ := exists_lastNamed (mem_typeNames.mpr ⟨c, hc, hn⟩)
  obtain ⟨hd, hdn⟩ := of_lastNamed hlast
  rw [hlast, List.inj_on_of_nodup_map hnodup hd hc (hdn.trans hn.symm)]

end Snapshot

/-- **Fallback names.** Take a diagram with classes, all with different ids, in which the names that
give a type name give different ones. Its classes are called by their own names or else after their
positions. These type names are all different exactly if no class has the fallback of another as its
own name; exactly then a run makes seven files for each class, and then the seven files of each
class are made from that class. -/
theorem Snapshot.generate_fallbackNames (s : Snapshot) (config : Config) (name : String)
    (hs : s.isEmpty = false) (h : s.OwnNamesDiffer) :
    let layout := Layout.ofName name
    (s.typeNames = s.classes.mapIdx fun i c =>
      if (typeName c.name).isEmpty then "Entity" ++ toString (i + 1) else typeName c.name) ∧
    (s.typeNames.Nodup ↔ s.FallbacksFree) ∧
    ∃ tree, generate s config name = .ok tree ∧
      (tree.size = 4 + 7 * s.classes.length ↔ s.FallbacksFree) ∧
      (s.FallbacksFree → ∀ c ∈ s.classes, ∃ n,
        (ClassNames.ofSnapshot s).typeName? c.id = some n ∧
          ∀ kind, tree.get? (layout.artifactPath kind n) =
            some (kind.render (s.entity layout.package c n))) := by
  intro layout
  refine ⟨typeNames_eq_mapIdx h.nodup_classIds, h.nodup_typeNames_iff,
    .ofList (s.files config name), generate_eq config name hs, ?_, fun hfree c hc => ?_⟩
  · rw [← h.nodup_typeNames_iff, ← length_eraseDups_eq_iff, s.length_typeNames,
      size_ofList_files]
    omega
  · obtain ⟨n, hn⟩ := exists_typeName? hc
    refine ⟨n, hn, fun kind => ?_⟩
    rw [s.get?_ofList_files config name kind n,
      lastNamed_eq_of_nodup (h.nodup_typeNames_iff.mpr hfree) hc hn]
    rfl

/-- A diagram with two classes that are called after their positions, and one whose own name looks
like that but is not the name of a position with such a class. -/
def Snapshot.sketch : Snapshot where
  classes := [{ id := "a", name := "???" }, { id := "b", name := "" },
    { id := "c", name := "entity 3", attributes := [{ name := "total", typeTag := .decimal }] }]

/-- All three classes of the sketch have their files. -/
theorem Snapshot.generate_fallbackNames_sketch :
    sketch.isEmpty = false ∧ sketch.OwnNamesDiffer ∧ sketch.FallbacksFree ∧
    sketch.typeNames = ["Entity1", "Entity2", "Entity3"] ∧
    ∃ tree, generate sketch {} "Shop" = .ok tree ∧ tree.size = 25 ∧
      ∀ c ∈ sketch.classes, ∃ n, (ClassNames.ofSnapshot sketch).typeName? c.id = some n ∧
        ∀ kind, tree.get? ((Layout.ofName "Shop").artifactPath kind n) =
          some (kind.render (sketch.entity (Layout.ofName "Shop").package c n)) := by
  have hs : sketch.isEmpty = false := rfl
  have h : sketch.OwnNamesDiffer := ⟨by decide, by decide +kernel⟩
  obtain ⟨hnames, hfree, tree, htree, hsize, hown⟩ :=
    generate_fallbackNames sketch {} "Shop" hs h
  have hfree := hfree.mp (by decide +kernel)
  refine ⟨hs, h, hfree, ?_, tree, htree, hsize.mpr hfree, hown hfree⟩
  rw [hnames]
  decide +kernel

/-- A diagram in which the first class has the fallback of the second as its own name. -/
def Snapshot.shadowed : Snapshot where
  classes := [{ id := "a", name := "Entity 2" }, { id := "b", name := "???" }]

/-- The two classes of such a diagram are called the same, and there are files for one of them. -/
theorem Snapshot.not_nodup_typeNames_shadowed :
    shadowed.isEmpty = false ∧ shadowed.OwnNamesDiffer ∧
    shadowed.typeNames = ["Entity2", "Entity2"] ∧ ¬ shadowed.typeNames.Nodup ∧
    ∃ tree, generate shadowed {} "Shop" = .ok tree ∧ tree.size = 4 + 7 := by
  have hs : shadowed.isEmpty = false := rfl
  have hnames : shadowed.typeNames = ["Entity2", "Entity2"] := by decide +kernel
  have hsize := size_ofList_files shadowed {} "Shop"
  rw [hnames] at hsize
  have h : shadowed.OwnNamesDiffer := ⟨by decide, by decide +kernel⟩
  refine ⟨hs, h, hnames, ?_, _, generate_eq {} "Shop" hs, hsize⟩
  rw [hnames]
  decide

end CrudScaffold
