import CrudScaffold.Proofs.Config.Literal
import CrudScaffold.Proofs.Config.Reading

/-!
# One more variable

A variable for a key that asks for a text is added to sources that can be loaded without it. It
changes what its key has and, if the section has been a list, lets the other keys of the section
fall back to their defaults; nothing else changes. So the configuration is loaded with the text of
the variable for the key, unless the text is taken for something else than itself.
-/

namespace CrudScaffold

/-! ### Settings -/

namespace Setting

variable {name key : String} {v w : Setting} {a b : Setting}

/-- A setting that is a text exactly if another one is the same text. -/
def SameText (v w : Setting) : Prop := ∀ t, v = .text t ↔ w = .text t

/-- What is laid over other settings is a text exactly if it is one. -/
lemma sameText_layOver (v below : Setting) : SameText v (v.layOver below) := by
  intro t
  cases v with
  | table entries => cases below <;> simp [layOver]
  | _ => rw [layOver]

/-- A layer is another one but for the setting of a key, which is a text exactly if `v` is. -/
structure Overrides (name key : String) (v a b : Setting) : Prop where
  others : ∀ n, n ≠ name → b.get? n = a.get? n
  table : ∃ inner, b.get? name = some (.table inner)
  rest : ∀ k, k ≠ key → b.at? name k = a.at? name k
  own : ∃ w, b.at? name key = some w ∧ SameText v w

variable {u : Setting} {entries : List (String × Setting)}

/-- What is laid over the setting of a key stays there. -/
lemma exists_overlay {o below : Option Setting} (h : ∃ w, o = some w ∧ SameText v w) :
    ∃ w, overlay o below = some w ∧ SameText v w := by
  obtain ⟨w, rfl, hw⟩ := h
  cases below with
  | none => exact ⟨w, rfl, hw⟩
  | some below => exact ⟨_, rfl, fun t => (hw t).trans (sameText_layOver w below t)⟩

/-- A table over anything is a table. -/
lemma exists_overlay_table (inner : List (String × Setting)) (below : Option Setting) :
    ∃ inner', overlay (some (.table inner)) below = some (.table inner') := by
  rcases below with _ | below
  · exact ⟨inner, rfl⟩
  · cases below <;> simp [overlay, Setting.layOver]

/-- Setting a key changes nothing else. -/
lemma overrides_under (name key : String) (v : Setting) (entries : List (String × Setting)) :
    Overrides name key v (.table entries) ((under [name, key] v).layOver (.table entries)) := by
  obtain ⟨hlayer, -⟩ := Environment.at?_under name key v name key
  have hget : ∀ n, (under [name, key] v).get? n =
      if n = name then some (.table [(key, v)]) else none := fun n => lookup_cons_ite name n _ []
  constructor
  · intro n hn
    rw [get?_layOver hlayer, hget, if_neg hn]
    rfl
  · rw [get?_layOver hlayer, hget, if_pos rfl]
    exact exists_overlay_table _ _
  · intro k hk
    rw [at?_layOver_table hlayer, (Environment.at?_under name key v name k).2,
      if_neg fun h => hk h.2]
    rfl
  · rw [at?_layOver_table hlayer, (Environment.at?_under name key v name key).2, if_pos ⟨rfl, rfl⟩]
    exact exists_overlay ⟨v, rfl, fun t => Iff.rfl⟩

/-- Layers that differ in a key still do when something else is laid over them. -/
lemma Overrides.below {a b : List (String × Setting)} {l : Setting}
    (h : Overrides name key v (.table a) (.table b)) (hl : IsLayer name l)
    (hnone : l.at? name key = none) :
    Overrides name key v (l.layOver (.table a)) (l.layOver (.table b)) := by
  obtain ⟨hothers, ⟨inner, hinner⟩, hrest, w, hw, hsame⟩ := h
  constructor
  · intro n hn
    rw [get?_layOver hl, get?_layOver hl]
    exact congrArg _ (hothers n hn)
  · rw [get?_layOver hl]
    change b.lookup name = _ at hinner
    rw [hinner]
    obtain ⟨upper, rfl, -, hsection⟩ := hl
    rw [get?]
    cases hu : upper.lookup name with
    | none => exact ⟨inner, rfl⟩
    | some u =>
      obtain ⟨inner', rfl, -⟩ := hsection u hu
      exact exists_overlay_table inner' _
  · intro k hk
    rw [at?_layOver_table hl, at?_layOver_table hl, hrest k hk]
  · rw [at?_layOver_table hl, hnone, hw]
    exact ⟨w, rfl, hsame⟩

/-- What differs in a key only does so when it lies over something else. -/
lemma Overrides.layOver (h : Overrides name key v a b) (ha : IsLayer name a) (hb : IsLayer name b)
    (entries : List (String × Setting)) :
    Overrides name key v (a.layOver (.table entries)) (b.layOver (.table entries)) := by
  obtain ⟨hothers, ⟨inner, hinner⟩, hrest, hown⟩ := h
  constructor
  · intro n hn
    rw [get?_layOver ha, get?_layOver hb, hothers n hn]
  · rw [get?_layOver hb, hinner]
    exact exists_overlay_table inner _
  · intro k hk
    rw [at?_layOver_table ha, at?_layOver_table hb, hrest k hk]
  · rw [at?_layOver_table hb]
    exact exists_overlay hown

end Setting

open Setting

/-! ### Variables -/

namespace Environment

/-- A variable that sets neither a key, nor a table that the key is in, nor anything within it. -/
def IsBeside (name key v : String) : Prop :=
  ∀ path, path? v = some path → ¬ path <+: [name, key] ∧ ¬ [name, key] <+: path

variable {name key x text : String} {environment : List (String × String)}

/-- Variables of one name, whatever case it is in, set the same key. -/
lemma path?_of_lower_eq (hname : IsNamePart name.toList) (hkey : IsNamePart key.toList)
    (hsmall : lower name.toList = name.toList ∧ lower key.toList = key.toList)
    (hx : lower x.toList = lower (variableName name key).toList) :
    path? x = some [name, key] := by
  have hblank := isBlank_of_mem_lower hname hkey
  have htrim : ∀ y : String, lower y.toList = lower (variableName name key).toList →
      Text.trim y = y := by
    intro y hy
    rw [Text.trim, Text.trimChars_eq_self, String.ofList_toList]
    intro c hc
    rw [← Text.isBlank_toLower]
    exact hblank _ (hy ▸ List.mem_map_of_mem hc)
  have hpath := path?_variableName hname hkey
  rw [hsmall.1, hsmall.2, String.ofList_toList, String.ofList_toList] at hpath
  rw [← hpath, path?, path?, htrim x hx, htrim _ rfl]
  rw [show x.toList.map Char.toLower = _ from hx]
  rfl

/-- What is set beside a key leaves the section of the key a table, and the key as it is. -/
lemma isLayer_under {path : List String} (h : ¬ path <+: [name, key] ∧ ¬ [name, key] <+: path)
    (v : Setting) : IsLayer name (under path v) ∧ (under path v).at? name key = none := by
  match path with
  | [] => exact absurd List.nil_prefix h.1
  | [n] =>
    have hn : name ≠ n := by
      rintro rfl
      exact h.1 ⟨[key], rfl⟩
    have hget : ([(n, under [] v)] : List (String × Setting)).lookup name = none := by
      rw [lookup_cons_ite, if_neg hn]
      rfl
    refine ⟨⟨[(n, under [] v)], rfl, List.nodup_singleton n, fun w hw => ?_⟩, ?_⟩
    · rw [hget] at hw
      cases hw
    · rw [under, at?, Setting.get?, hget]
      rfl
  | n :: k :: more =>
    obtain ⟨hlayer, hat⟩ := at?_under n k (under more v) name key
    refine ⟨hlayer, hat.trans (if_neg ?_)⟩
    rintro ⟨rfl, rfl⟩
    exact h.2 ⟨more, rfl⟩

/-- Variables that set a section as a table, if at all, make up a layer. -/
lemma isLayer_layerOf (h : ∀ v ∈ environment, ∀ path, path? v.1 = some path →
    IsLayer name (under path (value v.2))) : IsLayer name (layerOf environment) := by
  induction environment using List.reverseRecOn with
  | nil => exact ⟨[], rfl, List.nodup_nil, nofun⟩
  | append_singleton environment v ih =>
    obtain ⟨v, text⟩ := v
    have hlower := ih fun w hw => h w (List.mem_append_left _ hw)
    rw [layerOf_append_singleton]
    cases hpath : path? v with
    | none => exact hlower
    | some path => exact (h (v, text) (by simp) path hpath).layOver hlower

/-- One more variable changes the key that it sets, and nothing else. -/
lemma overrides_layerOf (hx : path? x = some [name, key]) {before after : List (String × String)}
    (hbefore : IsLayer name (layerOf before)) (hafter : ∀ v ∈ after, IsBeside name key v.1) :
    ∃ a b, layerOf (before ++ after) = .table a ∧
      layerOf (before ++ (x, text) :: after) = .table b ∧
      Overrides name key (value text) (.table a) (.table b) := by
  have hover : ∀ {l : Setting}, IsLayer name l → ∀ entries, ∃ entries',
      l.layOver (.table entries) = .table entries' := by
    rintro _ ⟨upper, rfl, -⟩ entries
    exact ⟨_, by rw [Setting.layOver]⟩
  induction after using List.reverseRecOn with
  | nil =>
    obtain ⟨a, ha, -⟩ := hbefore
    have hset := overrides_under name key (value text) a
    obtain ⟨b, hb⟩ := hover (at?_under name key (value text) name key).1 a
    rw [hb] at hset
    refine ⟨a, b, by rw [List.append_nil, ha], ?_, hset⟩
    rw [layerOf_append_singleton, hx, ha]
    exact hb
  | append_singleton after v ih =>
    obtain ⟨v, text'⟩ := v
    obtain ⟨a, b, ha, hb, hset⟩ := ih fun w hw => hafter w (List.mem_append_left _ hw)
    rw [← List.append_assoc, ← List.cons_append, ← List.append_assoc, layerOf_append_singleton,
      layerOf_append_singleton, ha, hb]
    cases hpath : path? v with
    | none => exact ⟨a, b, rfl, rfl, hset⟩
    | some path =>
      obtain ⟨hlayer, hnone⟩ := isLayer_under (hafter (v, text') (by simp) path hpath) (value text')
      obtain ⟨a', ha'⟩ := hover hlayer a
      obtain ⟨b', hb'⟩ := hover hlayer b
      have hbelow := hset.below hlayer hnone
      rw [ha', hb'] at hbelow
      exact ⟨a', b', ha', hb', hbelow⟩

/-- The settings of an environment are those of its variables in some order, in which one more
variable has its place. -/
lemma exists_setting_cons (environment : List (String × String)) (v : String × String) :
    ∃ before after, (before ++ after).Perm environment ∧
      setting environment = layerOf (before ++ after) ∧
      setting (v :: environment) = layerOf (before ++ v :: after) := by
  have htrans : ∀ a b c : String × String,
      decide (a.1 ≤ b.1) = true → decide (b.1 ≤ c.1) = true → decide (a.1 ≤ c.1) = true :=
    fun a b c hab hbc =>
      decide_eq_true (String.le_trans (of_decide_eq_true hab) (of_decide_eq_true hbc))
  have htotal : ∀ a b : String × String, (decide (a.1 ≤ b.1) || decide (b.1 ≤ a.1)) = true :=
    fun a b => by simpa using String.le_total a.1 b.1
  obtain ⟨before, after, hcons, hsorted, -⟩ := List.mergeSort_cons htrans htotal v environment
  refine ⟨before, after, ?_, ?_, ?_⟩
  · rw [← hsorted]
    exact List.mergeSort_perm _ _
  · rw [setting_eq, hsorted]
  · rw [setting_eq, hcons]

/-- **One more variable.** The settings of an environment with one more variable differ from those
without it in the key that it sets, and in nothing else. -/
lemma overrides_setting (text : String) (hx : path? x = some [name, key])
    (hothers : ∀ v ∈ environment, IsBeside name key v.1) :
    IsLayer name (setting environment) ∧ IsLayer name (setting ((x, text) :: environment)) ∧
      Overrides name key (value text) (setting environment)
        (setting ((x, text) :: environment)) := by
  obtain ⟨before, after, hperm, hsetting, hsetting'⟩ :=
    exists_setting_cons environment (x, text)
  have hbeside : ∀ v ∈ before ++ after, IsBeside name key v.1 :=
    fun v hv => hothers v (hperm.subset hv)
  have hunder : ∀ v ∈ before ++ after, ∀ path, path? v.1 = some path →
      IsLayer name (under path (value v.2)) :=
    fun v hv path hpath => (isLayer_under (hbeside v hv path hpath) _).1
  have hlayer := isLayer_layerOf hunder
  have hlayer' : IsLayer name (layerOf (before ++ (x, text) :: after)) := by
    refine isLayer_layerOf fun v hv path hpath => ?_
    rcases List.mem_append.mp hv with hv | hv
    · exact hunder v (List.mem_append_left _ hv) path hpath
    · rcases List.mem_cons.mp hv with rfl | hv
      · rw [hx] at hpath
        obtain rfl := Option.some.inj hpath
        exact (at?_under name key _ name key).1
      · exact hunder v (List.mem_append_right _ hv) path hpath
  have hbefore : IsLayer name (layerOf before) :=
    isLayer_layerOf fun v hv => hunder v (List.mem_append_left _ hv)
  obtain ⟨a, b, ha, hb, hset⟩ := overrides_layerOf hx hbefore
    fun v hv => hbeside v (List.mem_append_right _ hv)
  rw [hsetting, hsetting']
  refine ⟨hlayer, hlayer', ?_⟩
  rw [ha, hb]
  exact hset

end Environment

/-! ### Loading -/

namespace Config

open Environment

variable {s : Sources} {c c' : Config} {name key t : String} {u : Setting}
  {layers layers' : Setting}

/-- A configuration is loaded if it is read from the settings of the sources and has no faults. -/
lemma load_eq_ok_iff : load s = .ok c ↔
    ∃ layers, s.setting = .ok layers ∧ ofSetting layers = .ok c ∧ c.faults = [] := by
  have hvalidate : ∀ c₁ : Config, c₁.validate.mapError LoadError.invalid = .ok c ↔
      c₁ = c ∧ c.faults = [] := by
    intro c₁
    rw [validate]
    cases hfaults : c₁.faults with
    | nil =>
      constructor
      · intro h
        obtain rfl := Except.ok.inj h
        exact ⟨rfl, hfaults⟩
      · rintro ⟨rfl, -⟩
        rfl
    | cons fault more =>
      refine iff_of_false (fun h => by cases h) ?_
      rintro ⟨rfl, h⟩
      rw [hfaults] at h
      cases h
  rw [load]
  cases s.setting with
  | error e => simp [bind, Except.bind]
  | ok layers =>
    cases hread : ofSetting layers with
    | error e => simp [bind, Except.bind, hread]
    | ok c₁ => simp [bind, Except.bind, hread, hvalidate]

/-- The layers of files are tables, which the settings of the environment lie over. -/
lemma exists_lower (hs : s.setting = .ok layers) :
    ∃ lower : List (String × Setting),
      layers = (Environment.setting s.environment).layOver (.table lower) ∧
      ∀ environment, ({ s with environment } : Sources).setting =
        .ok ((Environment.setting environment).layOver (.table lower)) := by
  have htable : ∀ {bytes layer},
      fileLayer bytes = .ok layer → ∃ entries, layer = .table entries := by
    intro bytes layer h
    unfold fileLayer at h
    split at h
    · exact ⟨[], (Except.ok.inj h).symm⟩
    · split at h
      · exact ⟨_, (Except.ok.inj h).symm⟩
      · cases h
  obtain ⟨user, project, environment⟩ := s
  simp only [Sources.setting] at hs ⊢
  cases huser : fileLayer user with
  | error e => simp [huser, bind, Except.bind] at hs
  | ok userLayer =>
    cases hproject : fileLayer project with
    | error e => simp [huser, hproject, bind, Except.bind] at hs
    | ok projectLayer =>
      obtain ⟨upper, rfl⟩ := htable hproject
      obtain ⟨below, rfl⟩ := htable huser
      rw [huser, hproject] at hs
      have hlower : ∃ lower, (Setting.table upper).layOver
          ((Setting.table below).layOver ({} : Config).toSetting) = .table lower :=
        ⟨_, by rw [toSetting, Setting.layOver, Setting.layOver]⟩
      obtain ⟨lower, hlower⟩ := hlower
      refine ⟨lower, ?_, fun environment => ?_⟩
      · rw [← hlower]
        exact (Except.ok.inj hs).symm
      · rw [← hlower]
        rfl

/-- Of layers that differ in a key, each section that is readable in one is in the other. -/
lemma isReadable_of_overrides {v : Setting} (h : Overrides name key v layers layers') {n : String}
    (hn : IsReadable layers n) : IsReadable layers' n := by
  by_cases heq : n = name
  · obtain ⟨inner, hinner⟩ := h.table
    intro w hw
    rw [heq, hinner] at hw
    rw [← Option.some.inj hw]
    rfl
  · intro w hw
    rw [h.others n heq] at hw
    exact hn w hw

/-- A configuration is read with another text for a key; the other keys have the same settings as
before, or their defaults. -/
lemma exists_ofSetting_of_overrides (h : Overrides name key (.text t) layers layers')
    (htext : HasKind key (.text t)) (hc : ofSetting layers = .ok c) :
    ∃ c', ofSetting layers' = .ok c' ∧ ∀ n, ∀ k ∈ keys n, ∀ u,
      c'.toSetting.at? n k = some u → n = name ∧ k = key ∧ u = .text t ∨
        c.toSetting.at? n k = some u ∨ ({} : Config).toSetting.at? n k = some u := by
  obtain ⟨hreadable, hsettings⟩ := ofSetting_eq_ok_iff.mp hc
  obtain ⟨inner, hinner⟩ := h.table
  obtain ⟨w, hw, hsame⟩ := h.own
  obtain rfl : w = .text t := (hsame t).mp rfl
  have hcases : ∀ n, ∀ k ∈ keys n, ∃ u,
      (found? layers' n k).or (({} : Config).toSetting.at? n k) = some u ∧ HasKind k u ∧
        (n = name ∧ k = key ∧ u = .text t ∨
          c.toSetting.at? n k = some u ∨ ({} : Config).toSetting.at? n k = some u) := by
    intro n k hk
    by_cases hn : n = name
    · subst hn
      rw [found?_of_table hk hinner]
      by_cases hkey : k = key
      · subst hkey
        exact ⟨.text t, by rw [hw, Option.some_or], htext, .inl ⟨rfl, rfl, rfl⟩⟩
      · rw [h.rest k hkey]
        cases hu : layers.at? n k with
        | some u =>
          have hcu := at?_eq_of_ofSetting hc hk hu
          exact ⟨u, Option.some_or, hasKind_of_at?_toSetting hcu, .inr (.inl hcu)⟩
        | none =>
          obtain ⟨u, hu, hkind⟩ := exists_hasKind {} hk
          exact ⟨u, by rw [Option.none_or, hu], hkind, .inr (.inr hu)⟩
    · obtain ⟨u, hu, hkind⟩ := exists_hasKind c hk
      have hfound : found? layers' n k = found? layers n k := by
        rw [found?, found?, h.others n hn]
      rw [hfound, ← hsettings n k hk]
      exact ⟨u, hu, hkind, .inr (.inl hu)⟩
  obtain ⟨c', hc'⟩ := exists_at? fun n k hk => by
    obtain ⟨u, hu, hkind, -⟩ := hcases n k hk
    exact ⟨u, hu, hkind⟩
  refine ⟨c', ofSetting_eq_ok_iff.mpr ⟨fun n hn => isReadable_of_overrides h (hreadable n hn), hc'⟩,
    fun n k hk u hu => ?_⟩
  obtain ⟨u', hu', -, hfrom⟩ := hcases n k hk
  rw [hc' n k hk, hu'] at hu
  exact Option.some.inj hu ▸ hfrom

/-- If a configuration is loaded with a variable for a key that asks for a text, then the text of
the variable stands for the text that the key has. -/
lemma exists_value_eq_text (name key x text : String) (hkey : key ∈ keys name)
    (htext : key ≠ "port" ∧ key ≠ "console")
    (hx : lower x.toList = lower (variableName name key).toList)
    (hothers : ∀ v ∈ s.environment, IsBeside name key v.1)
    (hload : load { s with environment := (x, text) :: s.environment } = .ok c) :
    ∃ t, value text = .text t ∧ c.toSetting.at? name key = some (.text t) := by
  obtain ⟨layers, hlayers, hc, -⟩ := load_eq_ok_iff.mp hload
  obtain ⟨lower, rfl, -⟩ := exists_lower hlayers
  obtain ⟨⟨hpart, hpart'⟩, hsmall⟩ := isNamePart_of_mem_keys hkey
  obtain ⟨hlayer, hlayer', hset⟩ :=
    overrides_setting text (path?_of_lower_eq hpart hpart' hsmall hx) hothers
  obtain ⟨w, hw, hsame⟩ := (hset.layOver hlayer hlayer' lower).own
  have hat := at?_eq_of_ofSetting hc hkey hw
  have hkind := hasKind_of_at?_toSetting hat
  rw [HasKind, if_neg htext.1, if_neg htext.2] at hkind
  obtain ⟨t, rfl⟩ := hkind
  exact ⟨t, (hsame t).mpr rfl, hat⟩

/-- **Texts from variables.** Take any sources that a configuration is loaded from, and any key that
asks for a text. A variable for this key is added, while the others have nothing to do with the key.
A trimmed text that is not empty comes through, so that a configuration with this text for the key
is loaded, exactly if it is no flag, no number, no character between apostrophes, and nothing that
is complete between quotes, brackets or braces. -/
theorem load_textVariable_iff (s : Sources) (c : Config) (name key x text : String)
    (hload : load s = .ok c) (hkey : key ∈ keys name) (htext : key ≠ "port" ∧ key ≠ "console")
    (hx : lower x.toList = lower (variableName name key).toList)
    (hothers : ∀ v ∈ s.environment, IsBeside name key v.1)
    (htrim : Text.trim text = text) (hne : text ≠ "") :
    (∃ c', load { s with environment := (x, text) :: s.environment } = .ok c' ∧
      c'.toSetting.at? name key = some (.text text)) ↔ ¬ IsLiteral text := by
  rw [← value_eq_text_iff htrim]
  constructor
  · rintro ⟨c', hload', htexts⟩
    obtain ⟨t, hvalue, ht⟩ := exists_value_eq_text name key x text hkey htext hx hothers hload'
    rw [hvalue, ← Option.some.inj (htexts.symm.trans ht)]
  · intro hvalue
    obtain ⟨layers, hlayers, hc, hfaults⟩ := load_eq_ok_iff.mp hload
    obtain ⟨lower, rfl, hsetting⟩ := exists_lower hlayers
    obtain ⟨⟨hpart, hpart'⟩, hsmall⟩ := isNamePart_of_mem_keys hkey
    obtain ⟨hlayer, hlayer', hset⟩ :=
      overrides_setting text (path?_of_lower_eq hpart hpart' hsmall hx) hothers
    have hover := hset.layOver hlayer hlayer' lower
    rw [hvalue] at hover
    have hkind : HasKind key (.text text) := by
      rw [HasKind, if_neg htext.1, if_neg htext.2]
      exact ⟨text, rfl⟩
    obtain ⟨c', hc', hfrom⟩ := exists_ofSetting_of_overrides hover hkind hc
    obtain ⟨w, hw, hsame⟩ := hover.own
    obtain rfl : w = .text text := (hsame text).mp rfl
    refine ⟨c', load_eq_ok_iff.mpr ⟨_, hsetting _, hc', ?_⟩, at?_eq_of_ofSetting hc' hkey hw⟩
    rw [faults_eq_nil_iff_isFit] at hfaults ⊢
    intro n k hk u hu
    rcases hfrom n k hk u hu with ⟨-, -, rfl⟩ | hu | hu
    · refine ⟨by simp, fun _ t ht => ?_⟩
      exact Setting.text.inj ht ▸ Text.isBlankText_eq_false htrim hne
    · exact hfaults n k hk u hu
    · exact faults_eq_nil_iff_isFit.mp (rfl : ({} : Config).faults = []) n k hk u hu

/-- A release candidate as the version, beside a port. -/
theorem load_textVariable_candidate :
    load { environment := [("BLUEPRINT_SERVER__PORT", "9000")] } =
        .ok { server := { port := 9000 } } ∧
      ∃ c, load { environment := [("BLUEPRINT_PROJECT__VERSION", "1.0-RC1"),
          ("BLUEPRINT_SERVER__PORT", "9000")] } = .ok c ∧
        c.toSetting.at? "project" "version" = some (.text "1.0-RC1") := by
  have hpath : path? "BLUEPRINT_SERVER__PORT" = some ["server", "port"] :=
    path?_of_lower_eq (by decide) (by decide) (by decide) (by decide)
  have hlayers : Sources.setting { environment := [("BLUEPRINT_SERVER__PORT", "9000")] } =
      .ok ({ server := { port := 9000 } } : Config).toSetting := by
    have hport : value "9000" = .integer 9000 := rfl
    rw [Sources.setting, setting_eq, List.mergeSort_singleton, ← List.nil_append [_],
      layerOf_append_singleton, hpath, hport]
    rfl
  have hload := load_eq_ok_iff.mpr ⟨_, hlayers, ofSetting_toSetting _, rfl⟩
  refine ⟨hload, ?_⟩
  refine (load_textVariable_iff _ _ "project" "version" "BLUEPRINT_PROJECT__VERSION" "1.0-RC1" hload
    (by decide) (by decide) (by decide) ?_ rfl (by decide)).mpr
      ((value_eq_text_iff rfl).mp rfl)
  rintro v hv path hpath'
  obtain rfl := List.mem_singleton.mp hv
  obtain rfl := Option.some.inj (hpath.symm.trans hpath')
  decide

/-- A version that is a number cannot be set by a variable: not even a configuration is loaded. -/
theorem not_load_numberedVersion : ¬ ∃ c,
    load { environment := [("BLUEPRINT_PROJECT__JAVA_VERSION", "21")] } = .ok c := by
  rintro ⟨c, hload⟩
  obtain ⟨t, hvalue, -⟩ := exists_value_eq_text (s := {}) "project" "java_version" _ _
    (by decide) (by decide) (by decide) nofun hload
  cases hvalue

end Config

end CrudScaffold
