import Mathlib.Data.List.Induction
import Mathlib.Data.List.Infix
import Mathlib.Data.List.Pairwise
import CrudScaffold.Config.Environment
import CrudScaffold.Proofs.Config.Layers
import CrudScaffold.Proofs.Text.Blank

/-!
# Settings from variables

A variable that is named after a section and a key sets this key of this section and nothing else.
The layer of an environment is the settings of its variables laid over each other in the order of
their names; where no two names are equal but for case, no variable hides another one, and the order
does not matter (`at?_setting`).
-/

namespace CrudScaffold.Environment

/-! ### Names -/

/-- A part of the name of a variable: it has no blank and no point, and underscores stand one by one
between other characters. -/
structure IsNamePart (cs : List Char) : Prop where
  ne_nil : cs ≠ []
  no_blank : ∀ c ∈ cs, Text.isBlank c = false
  no_point : '.' ∉ cs
  no_pair : ¬ ['_', '_'] <:+: cs
  head_ne : cs.head? ≠ some '_'
  last_ne : cs.getLast? ≠ some '_'

/-- Whether some characters are such a part can be decided. -/
instance (cs : List Char) : Decidable (IsNamePart cs) :=
  letI := List.decidableBAll (fun c => Text.isBlank c = false) cs
  decidable_of_iff (cs ≠ [] ∧ (∀ c ∈ cs, Text.isBlank c = false) ∧ '.' ∉ cs ∧
      ¬ ['_', '_'] <:+: cs ∧ cs.head? ≠ some '_' ∧ cs.getLast? ≠ some '_')
    ⟨fun ⟨h, h', h'', i, i', i''⟩ => ⟨h, h', h'', i, i', i''⟩,
      fun ⟨h, h', h'', i, i', i''⟩ => ⟨h, h', h'', i, i', i''⟩⟩

/-- Characters in small. -/
def lower (cs : List Char) : List Char := cs.map Char.toLower

/-- The name of the variable for a key of a section. -/
def variableName (name key : String) : String := "BLUEPRINT_" ++ name ++ "__" ++ key

/-- A character that stands alone belongs to the first part. -/
lemma parts_cons {c : Char} {cs : List Char} (hpoint : c ≠ '.')
    (hpair : c = '_' → cs.head? ≠ some '_') :
    parts (c :: cs) = match parts cs with
      | first :: more => (c :: first) :: more
      | [] => [[c]] := by
  rw [parts.eq_def]
  split
  · rename_i h
    cases h
  · rename_i rest h
    obtain ⟨rfl, rfl⟩ := List.cons.inj h
    exact absurd rfl (hpair rfl)
  · rename_i rest h
    exact absurd (List.cons.inj h).1 hpoint
  · rename_i h
    obtain ⟨rfl, rfl⟩ := List.cons.inj h
    rfl

/-- A part ends at the first two underscores in a row. -/
lemma parts_append {cs : List Char} (hpoint : '.' ∉ cs) (hpair : ¬ ['_', '_'] <:+: cs)
    (hlast : cs.getLast? ≠ some '_') (rest : List Char) :
    parts (cs ++ '_' :: '_' :: rest) = cs :: parts rest := by
  induction cs with
  | nil => rw [List.nil_append, parts]
  | cons c cs ih =>
    rw [List.mem_cons, not_or] at hpoint
    have hrest : parts (cs ++ '_' :: '_' :: rest) = cs :: parts rest := by
      refine ih hpoint.2 (fun h => hpair (h.trans (List.suffix_cons c cs).isInfix)) fun h => ?_
      cases cs with
      | nil => cases h
      | cons d cs => exact hlast (by rwa [List.getLast?_cons_cons])
    rw [List.cons_append, parts_cons (Ne.symm hpoint.1), hrest]
    rintro rfl hhead
    cases cs with
    | nil => exact hlast rfl
    | cons d cs =>
      obtain rfl : d = '_' := Option.some.inj hhead
      exact hpair ⟨[], cs, rfl⟩

/-- A name without points and pairs of underscores is one part. -/
lemma parts_eq_singleton {cs : List Char} (hpoint : '.' ∉ cs) (hpair : ¬ ['_', '_'] <:+: cs) :
    parts cs = [cs] := by
  induction cs with
  | nil => rfl
  | cons c cs ih =>
    rw [List.mem_cons, not_or] at hpoint
    have hrest : parts cs = [cs] :=
      ih hpoint.2 fun h => hpair (h.trans (List.suffix_cons c cs).isInfix)
    rw [parts_cons (Ne.symm hpoint.1), hrest]
    rintro rfl hhead
    cases cs with
    | nil => cases hhead
    | cons d cs =>
      obtain rfl : d = '_' := Option.some.inj hhead
      exact hpair ⟨[], cs, rfl⟩

/-- No letter in small is an underscore or a point. -/
lemma toLower_eq_iff {c d : Char} (hd : d = '_' ∨ d = '.') : c.toLower = d ↔ c = d := by
  rcases Text.toLower_cases c with hsame | ⟨hlow, hhigh, hsmall⟩
  · rw [hsame]
  · have hletter : d.toNat ≤ 64 ∨ 91 ≤ d.toNat ∧ d.toNat ≤ 96 := by
      rcases hd with rfl | rfl <;> decide
    constructor
    · rintro rfl
      omega
    · rintro rfl
      omega

/-- A part of a name is one in small. -/
lemma IsNamePart.lower {cs : List Char} (h : IsNamePart cs) : IsNamePart (lower cs) where
  ne_nil := fun hnil => h.ne_nil (List.map_eq_nil_iff.mp hnil)
  no_blank := by
    intro c hc
    obtain ⟨d, hd, rfl⟩ := List.mem_map.mp hc
    rw [Text.isBlank_toLower]
    exact h.no_blank d hd
  no_point := by
    intro hpoint
    obtain ⟨d, hd, hlower⟩ := List.mem_map.mp hpoint
    rw [toLower_eq_iff (.inr rfl)] at hlower
    exact h.no_point (hlower ▸ hd)
  no_pair := by
    rintro ⟨front, back, hpair⟩
    obtain ⟨before, after, rfl, hbefore, -⟩ := List.map_eq_append_iff.mp hpair.symm
    obtain ⟨first, pair, rfl, -, hpair⟩ := List.map_eq_append_iff.mp hbefore
    have hsame : pair = ['_', '_'] := by
      obtain ⟨c, _, rfl, hc, hpair⟩ := List.map_eq_cons_iff.mp hpair
      obtain ⟨d, _, rfl, hd, hnil⟩ := List.map_eq_cons_iff.mp hpair
      rw [List.map_eq_nil_iff.mp hnil, (toLower_eq_iff (.inl rfl)).mp hc,
        (toLower_eq_iff (.inl rfl)).mp hd]
    rw [hsame] at h
    exact h.no_pair ⟨first, after, rfl⟩
  head_ne := by
    intro hhead
    rw [Environment.lower, List.head?_map] at hhead
    obtain ⟨d, hd, hlower⟩ := Option.map_eq_some_iff.mp hhead
    rw [toLower_eq_iff (.inl rfl)] at hlower
    exact h.head_ne (hlower ▸ hd)
  last_ne := by
    intro hlast
    rw [Environment.lower, List.getLast?_map] at hlast
    obtain ⟨d, hd, hlower⟩ := Option.map_eq_some_iff.mp hlast
    rw [toLower_eq_iff (.inl rfl)] at hlower
    exact h.last_ne (hlower ▸ hd)

/-- The name of a variable in small. -/
lemma lower_variableName (name key : String) :
    lower (variableName name key).toList =
      start ++ (lower name.toList ++ '_' :: '_' :: lower key.toList) := by
  have hstart : "BLUEPRINT_".toList.map Char.toLower = start := by decide
  rw [variableName, String.toList_append, String.toList_append, String.toList_append, lower,
    List.map_append, List.map_append, List.map_append, hstart, List.append_assoc, List.append_assoc]
  rfl

/-- The name of a variable has no blanks if its parts have none. -/
lemma isBlank_of_mem_lower {name key : String} (hname : IsNamePart name.toList)
    (hkey : IsNamePart key.toList) :
    ∀ c ∈ lower (variableName name key).toList, Text.isBlank c = false := by
  rw [lower_variableName]
  intro c hc
  rcases List.mem_append.mp hc with hc | hc
  · have hstart : start.all fun c => !Text.isBlank c := by decide
    simpa using List.all_eq_true.mp hstart c hc
  · rcases List.mem_append.mp hc with hc | hc
    · exact hname.lower.no_blank c hc
    · rcases List.mem_cons.mp hc with rfl | hc
      · rfl
      · rcases List.mem_cons.mp hc with rfl | hc
        · rfl
        · exact hkey.lower.no_blank c hc

/-- What follows the beginning of the name of a variable is parted into section and key. -/
lemma parts_lower {name key : String} (hname : IsNamePart name.toList)
    (hkey : IsNamePart key.toList) :
    parts (lower name.toList ++ '_' :: '_' :: lower key.toList) =
      [lower name.toList, lower key.toList] := by
  obtain ⟨-, -, hpoint, hpair, -, hlast⟩ := hname.lower
  rw [parts_append hpoint hpair hlast, parts_eq_singleton hkey.lower.no_point hkey.lower.no_pair]

/-- The variable for a key of a section sets the key in the section. -/
lemma path?_variableName {name key : String} (hname : IsNamePart name.toList)
    (hkey : IsNamePart key.toList) :
    path? (variableName name key) =
      some [String.ofList (lower name.toList), String.ofList (lower key.toList)] := by
  have hblank := isBlank_of_mem_lower hname hkey
  have htrim : Text.trim (variableName name key) = variableName name key := by
    rw [Text.trim, Text.trimChars_eq_self, String.ofList_toList]
    intro c hc
    rw [← Text.isBlank_toLower]
    exact hblank _ (List.mem_map_of_mem hc)
  rw [lower_variableName] at hblank
  have hrest : Text.trimChars (lower name.toList ++ '_' :: '_' :: lower key.toList) =
      lower name.toList ++ '_' :: '_' :: lower key.toList :=
    Text.trimChars_eq_self fun c hc => hblank c (List.mem_append_right _ hc)
  have hlower : (Text.trim (variableName name key)).toList.map Char.toLower =
      start ++ (lower name.toList ++ '_' :: '_' :: lower key.toList) := by
    rw [htrim]
    exact lower_variableName name key
  unfold path?
  simp only [hlower]
  rw [if_pos (List.isPrefixOf_iff_prefix.mpr ⟨_, rfl⟩), List.drop_left, hrest,
    parts_lower hname hkey, if_neg]
  · rfl
  · simp [hname.lower.ne_nil, hkey.lower.ne_nil]

/-- A variable whose name does not begin as those of settings do. -/
def IsForeign (v : String) : Prop := ¬ start <+: lower (Text.trim v).toList

/-- Other variables set nothing. -/
lemma path?_of_isForeign {v : String} (h : IsForeign v) : path? v = none := by
  unfold path?
  exact if_neg fun hprefix => h (List.isPrefixOf_iff_prefix.mp hprefix)

/-- The variable of a setting is none of the others. -/
lemma not_isForeign {v name key : String} (hname : IsNamePart name.toList)
    (hkey : IsNamePart key.toList) (hv : lower v.toList = lower (variableName name key).toList) :
    ¬ IsForeign v := by
  have hblank := isBlank_of_mem_lower hname hkey
  have htrim : Text.trim v = v := by
    rw [Text.trim, Text.trimChars_eq_self, String.ofList_toList]
    intro c hc
    rw [← Text.isBlank_toLower]
    refine hblank _ ?_
    rw [← hv]
    exact List.mem_map_of_mem hc
  intro hforeign
  refine hforeign ?_
  rw [htrim, hv, lower_variableName]
  exact ⟨_, rfl⟩

/-! ### Layers -/

/-- Two variables are not both settings with names that are equal but for case. -/
def NamesApart (v w : String × String) : Prop :=
  ¬ IsForeign v.1 → ¬ IsForeign w.1 → lower v.1.toList ≠ lower w.1.toList

instance symm_namesApart : Std.Symm NamesApart where
  symm _ _ h hw hv hsame := h hv hw hsame.symm

/-- The variables of an environment that set something are named after sections and keys, and no two
of them have names that are equal but for case. -/
structure WellNamed (environment : List (String × String)) : Prop where
  named : ∀ v ∈ environment, IsForeign v.1 ∨ ∃ name key, IsNamePart name.toList ∧
    IsNamePart key.toList ∧ v.1 = variableName name key
  distinct : environment.Pairwise NamesApart

/-- The text of the variable for a key of a section, whatever case its name is in. -/
def textFor? (environment : List (String × String)) (name key : String) : Option String :=
  (environment.find? fun v => lower v.1.toList = lower (variableName name key).toList).map Prod.snd

/-- The settings of an environment whose variables come in the given order. -/
def layerOf (environment : List (String × String)) : Setting :=
  environment.foldl (fun layer (name, text) =>
    match path? name with
    | some path => (Setting.under path (value text)).layOver layer
    | none => layer) (.table [])

/-- The settings of an environment are those of its variables in the order of their names. -/
lemma setting_eq (environment : List (String × String)) : setting environment =
    layerOf (environment.mergeSort fun a b => decide (a.1 ≤ b.1)) := by
  refine List.foldl_ext _ _ _ fun layer v _ => ?_
  obtain ⟨name, text⟩ := v
  cases hpath : path? name <;> simp only [hpath]

/-- The settings of an environment are those of its variables in some order. -/
lemma exists_layerOf (environment : List (String × String)) :
    ∃ sorted, sorted.Perm environment ∧ setting environment = layerOf sorted :=
  ⟨_, List.mergeSort_perm environment _, setting_eq environment⟩

/-- The last variable lies over those before it. -/
lemma layerOf_append_singleton (environment : List (String × String)) (v text : String) :
    layerOf (environment ++ [(v, text)]) = match path? v with
      | some path => (Setting.under path (value text)).layOver (layerOf environment)
      | none => layerOf environment := by
  simp only [layerOf, List.foldl_append, List.foldl_cons, List.foldl_nil]

/-- What is under the path to a key is a layer that has the key and no other one. -/
lemma at?_under (n k : String) (v : Setting) (name key : String) :
    Setting.IsLayer name (Setting.under [n, k] v) ∧
      (Setting.under [n, k] v).at? name key = if name = n ∧ key = k then some v else none := by
  have hunder : Setting.under [n, k] v = .table [(n, .table [(k, v)])] := rfl
  rw [hunder]
  refine ⟨⟨_, rfl, List.nodup_singleton n, fun w hw => ?_⟩, ?_⟩
  · rw [lookup_cons_ite] at hw
    split_ifs at hw
    · cases hw
      exact ⟨_, rfl, List.nodup_singleton k⟩
    · cases hw
  · rw [Setting.at?, Setting.get?, lookup_cons_ite]
    by_cases hn : name = n
    · rw [if_pos hn, Option.bind_some, Setting.get?, lookup_cons_ite]
      simp only [hn, true_and, List.lookup_nil]
    · rw [if_neg hn, if_neg fun h => hn h.1]
      rfl

section Keys

variable {environment : List (String × String)} {name key : String}

/-- A variable sets a key if and only if its name is that of the variable for the key, but for
case. -/
lemma lower_variableName_eq_iff (hname : IsNamePart name.toList) (hkey : IsNamePart key.toList)
    (hsmall : lower name.toList = name.toList ∧ lower key.toList = key.toList)
    {n k : String} (hn : IsNamePart n.toList) (hk : IsNamePart k.toList) :
    lower (variableName n k).toList = lower (variableName name key).toList ↔
      name = String.ofList (lower n.toList) ∧ key = String.ofList (lower k.toList) := by
  rw [lower_variableName, lower_variableName]
  constructor
  · intro h
    have hparts := congrArg parts (List.append_cancel_left h)
    rw [parts_lower hn hk, parts_lower hname hkey, hsmall.1, hsmall.2] at hparts
    obtain ⟨hname, hkey⟩ : lower n.toList = name.toList ∧ lower k.toList = key.toList := by
      simpa using hparts
    rw [hname, hkey, String.ofList_toList, String.ofList_toList]
    exact ⟨rfl, rfl⟩
  · rintro ⟨hname, hkey⟩
    rw [hsmall.1, hsmall.2, hname, hkey, String.toList_ofList, String.toList_ofList]

/-- One more variable sets its key if no other one does. -/
lemma textFor?_append_singleton (environment : List (String × String)) (v text name key : String) :
    textFor? (environment ++ [(v, text)]) name key = (textFor? environment name key).or
      (if lower v.toList = lower (variableName name key).toList then some text else none) := by
  rw [textFor?, textFor?, List.find?_append, Option.map_or]
  congr 1
  rw [List.find?_singleton]
  simp only [decide_eq_true_eq]
  split_ifs <;> rfl

/-- The layer of an environment has a section as a table, if it has it, and each key of it has the
setting of its variable. -/
lemma at?_layerOf (hname : IsNamePart name.toList) (hkey : IsNamePart key.toList)
    (hsmall : lower name.toList = name.toList ∧ lower key.toList = key.toList)
    (h : WellNamed environment) :
    Setting.IsLayer name (layerOf environment) ∧
      (layerOf environment).at? name key = (textFor? environment name key).map value := by
  induction environment using List.reverseRecOn with
  | nil => exact ⟨⟨[], rfl, List.nodup_nil, nofun⟩, rfl⟩
  | append_singleton environment v ih =>
    obtain ⟨hnamed, hdistinct⟩ := h
    obtain ⟨hdistinct, -, hlast⟩ := List.pairwise_append.mp hdistinct
    obtain ⟨hlayer, hat⟩ :=
      ih ⟨fun w hw => hnamed w (List.mem_append_left _ hw), hdistinct⟩
    obtain ⟨v, text⟩ := v
    rw [layerOf_append_singleton, textFor?_append_singleton]
    rcases hnamed (v, text) (by simp) with hforeign | ⟨n, k, hn, hk, rfl⟩
    · rw [path?_of_isForeign hforeign, if_neg fun hv => not_isForeign hname hkey hv hforeign,
        Option.or_none]
      exact ⟨hlayer, hat⟩
    · obtain ⟨hunder, hundera⟩ := at?_under (String.ofList (lower n.toList))
        (String.ofList (lower k.toList)) (value text) name key
      rw [path?_variableName hn hk]
      refine ⟨hunder.layOver hlayer, ?_⟩
      dsimp only
      rw [Setting.at?_layOver hunder hlayer, hundera, hat]
      by_cases hv : lower (variableName n k).toList = lower (variableName name key).toList
      · -- no variable before this one sets the key
        have hnone : textFor? environment name key = none := by
          rw [textFor?, Option.map_eq_none_iff, List.find?_eq_none]
          intro w hw hsame
          have hsame : lower w.1.toList = lower (variableName name key).toList := by
            simpa using hsame
          exact hlast w hw _ (List.mem_singleton_self _) (not_isForeign hname hkey hsame)
            (not_isForeign hname hkey hv) (hsame.trans hv.symm)
        rw [if_pos ((lower_variableName_eq_iff hname hkey hsmall hn hk).mp hv), if_pos hv, hnone]
        rfl
      · rw [if_neg fun hsame => hv ((lower_variableName_eq_iff hname hkey hsmall hn hk).mpr hsame),
          if_neg hv, Option.or_none]
        rfl

/-- The order of variables is of no account for their names. -/
lemma WellNamed.perm {sorted : List (String × String)} (h : WellNamed environment)
    (hperm : sorted.Perm environment) : WellNamed sorted where
  named v hv := h.named v (hperm.subset hv)
  distinct := (hperm.pairwise_iff (symm_namesApart.symm _ _)).mpr h.distinct

/-- The text for a key is that of the variable with the name for it, which is the only one. -/
lemma textFor?_eq_some_iff (hname : IsNamePart name.toList) (hkey : IsNamePart key.toList)
    (h : WellNamed environment) {text : String} :
    textFor? environment name key = some text ↔
      ∃ v ∈ environment, lower v.1.toList = lower (variableName name key).toList ∧ v.2 = text := by
  constructor
  · intro htext
    obtain ⟨v, hv, rfl⟩ := Option.map_eq_some_iff.mp htext
    exact ⟨v, List.mem_of_find?_eq_some hv, by simpa using List.find?_some hv, rfl⟩
  · rintro ⟨v, hv, hvname, rfl⟩
    obtain ⟨w, hw⟩ : ∃ w, environment.find? (fun v =>
        lower v.1.toList = lower (variableName name key).toList) = some w := by
      refine Option.isSome_iff_exists.mp (List.find?_isSome.mpr ⟨v, hv, ?_⟩)
      simpa using hvname
    have hwname : lower w.1.toList = lower (variableName name key).toList := by
      simpa using List.find?_some hw
    have hsame : v = w := by
      by_contra hne
      exact h.distinct.forall hv (List.mem_of_find?_eq_some hw) hne
        (not_isForeign hname hkey hvname)
        (not_isForeign hname hkey hwname) (hvname.trans hwname.symm)
    rw [textFor?, hw, hsame]
    rfl

/-- There is no text for a key among variables that set nothing. -/
lemma textFor?_eq_none (hname : IsNamePart name.toList) (hkey : IsNamePart key.toList)
    (h : ∀ v ∈ environment, IsForeign v.1) : textFor? environment name key = none := by
  rw [textFor?, Option.map_eq_none_iff, List.find?_eq_none]
  intro v hv hsame
  exact not_isForeign hname hkey (by simpa using hsame) (h v hv)

/-- Variables that set nothing are well named. -/
lemma wellNamed_of_isForeign (h : ∀ v ∈ environment, IsForeign v.1) : WellNamed environment where
  named v hv := .inl (h v hv)
  distinct := List.pairwise_of_forall_mem_list fun v hv _ _ hnot => absurd (h v hv) hnot

/-- **Settings from variables.** Whatever the order of its variables is, an environment sets each
key to the value of its variable, and no other key. -/
lemma at?_setting (hname : IsNamePart name.toList) (hkey : IsNamePart key.toList)
    (hsmall : lower name.toList = name.toList ∧ lower key.toList = key.toList)
    (h : WellNamed environment) :
    Setting.IsLayer name (setting environment) ∧
      (setting environment).at? name key = (textFor? environment name key).map value := by
  obtain ⟨sorted, hperm, hsetting⟩ := exists_layerOf environment
  have hsorted : WellNamed sorted := h.perm hperm
  have htext : textFor? sorted name key = textFor? environment name key := by
    refine Option.ext fun text => ?_
    rw [textFor?_eq_some_iff hname hkey hsorted, textFor?_eq_some_iff hname hkey h]
    simp only [hperm.mem_iff]
  rw [hsetting, ← htext]
  exact at?_layerOf hname hkey hsmall hsorted

end Keys

end CrudScaffold.Environment
