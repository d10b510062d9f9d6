import CrudScaffold.Proofs.Config.Load

/-!
# Reading layers

A configuration is read section by section and key by key. A section is a table, whose settings are
found by the names of the keys, or a list, whose settings are found by their positions. No key is
set twice, so the order is of no account: the configuration that is read is the one in which each
key has the setting that its section has for it, or else the default, and there is none if one of
these settings is of another kind than its key asks for (`ofSetting_eq_ok_iff`).
-/

namespace CrudScaffold.Config

variable {c c' : Config} {name key : String} {u : Setting}

/-- What holds of all nine keys. -/
lemma forall_keys_iff {P : String → String → Prop} : (∀ name, ∀ key ∈ keys name, P name key) ↔
    (P "project" "java_version" ∧ P "project" "spring_boot_version" ∧ P "project" "version") ∧
      P "server" "port" ∧
      (P "database" "username" ∧ P "database" "password" ∧ P "database" "ddl_auto" ∧
        P "database" "console") ∧ P "output" "dir" := by
  constructor
  · intro h
    exact ⟨⟨h _ _ (by decide), h _ _ (by decide), h _ _ (by decide)⟩, h _ _ (by decide),
      ⟨h _ _ (by decide), h _ _ (by decide), h _ _ (by decide), h _ _ (by decide)⟩,
      h _ _ (by decide)⟩
  · rintro ⟨⟨hj, hs, hv⟩, hp, ⟨hu, hw, hd, hc⟩, ho⟩ name key hkey
    unfold keys at hkey
    split at hkey <;>
      simp only [List.mem_cons, List.not_mem_nil, or_false] at hkey
    · rcases hkey with rfl | rfl | rfl <;> assumption
    · rcases hkey with rfl
      assumption
    · rcases hkey with rfl | rfl | rfl | rfl <;> assumption
    · rcases hkey with rfl
      assumption

/-- A configuration is known by the settings of its keys. -/
lemma eq_of_at? (h : ∀ name, ∀ key ∈ keys name,
    c.toSetting.at? name key = c'.toSetting.at? name key) : c = c' := by
  have hread : ofSetting c'.toSetting = .ok c := by
    refine ofSetting_eq fun s hs e he => ?_
    rw [← h, at?_toSetting_of_mem c s hs e he]
    exact (keys_settings c s hs).2.1.symm.subset (List.mem_map_of_mem he)
  rw [ofSetting_toSetting] at hread
  exact (Except.ok.inj hread).symm

/-- What comes out where nothing is set has the same settings at all keys, and is known by them. -/
lemma pure_eq_ok_iff : (pure c : Except LoadError Config) = .ok c' ↔
    ∀ name, ∀ key ∈ keys name, c'.toSetting.at? name key = c.toSetting.at? name key := by
  constructor
  · intro h name key hkey
    rw [Except.ok.inj h]
  · intro h
    rw [eq_of_at? fun name key hkey => (h name key hkey).symm]
    rfl

/-- A setting of the right kind is read. -/
lemma portOf_eq_ok {port : UInt16} (h : portOf u = .ok port) : u = .integer port.toNat := by
  unfold portOf at h
  split at h
  · rename_i n
    split_ifs at h with hfit
    obtain rfl := Except.ok.inj h
    congr 1
    rw [Nat.toUInt16, UInt16.toNat_ofNat']
    omega
  · cases h

/-- Setting a key gives it the setting and leaves the others as they are. -/
lemma at?_of_set (hkey : key ∈ keys name) (h : c.set name key u = .ok c') :
    ∀ n, ∀ k ∈ keys n, c'.toSetting.at? n k =
      if n = name ∧ k = key then some u else c.toSetting.at? n k := by
  have htext : ∀ {s}, textOf u = .ok s → u = .text s := by
    intro s hs
    cases u with
    | text t => rw [Except.ok.inj hs]
    | _ => cases hs
  have hflag : ∀ {b}, flagOf u = .ok b → u = .boolean b := by
    intro b hb
    cases u with
    | boolean t => rw [Except.ok.inj hb]
    | _ => cases hb
  have hread : ∀ {α : Type} {r : Except Misfit α} {f : α → Config},
      (do return f (← r)) = Except.ok c' → ∃ a, r = .ok a ∧ c' = f a := by
    intro α r f hr
    cases r with
    | error e => cases hr
    | ok a => exact ⟨a, rfl, (Except.ok.inj hr).symm⟩
  suffices hall : ∀ name, ∀ key ∈ keys name, c.set name key u = .ok c' → ∀ n, ∀ k ∈ keys n,
      c'.toSetting.at? n k = if n = name ∧ k = key then some u else c.toSetting.at? n k from
    hall name key hkey h
  refine forall_keys_iff.mpr ⟨⟨?_, ?_, ?_⟩, ?_, ⟨?_, ?_, ?_, ?_⟩, ?_⟩
  all_goals
    intro h
    obtain ⟨a, ha, rfl⟩ := hread h
  case refine_4 =>
    rw [portOf_eq_ok ha]
    exact forall_keys_iff.mpr ⟨⟨rfl, rfl, rfl⟩, rfl, ⟨rfl, rfl, rfl, rfl⟩, rfl⟩
  case refine_8 =>
    rw [hflag ha]
    exact forall_keys_iff.mpr ⟨⟨rfl, rfl, rfl⟩, rfl, ⟨rfl, rfl, rfl, rfl⟩, rfl⟩
  all_goals
    rw [htext ha]
    exact forall_keys_iff.mpr ⟨⟨rfl, rfl, rfl⟩, rfl, ⟨rfl, rfl, rfl, rfl⟩, rfl⟩

/-- A setting of the kind that its key asks for can be set. -/
lemma exists_set (c : Config) (hkey : key ∈ keys name) (h : HasKind key u) :
    ∃ c', c.set name key u = .ok c' := by
  suffices hall : ∀ name, ∀ key ∈ keys name, HasKind key u → ∃ c', c.set name key u = .ok c' from
    hall name key hkey h
  refine forall_keys_iff.mpr ⟨⟨?_, ?_, ?_⟩, ?_, ⟨?_, ?_, ?_, ?_⟩, ?_⟩
  case refine_4 =>
    rintro ⟨port, rfl⟩
    refine ⟨{ c with server := { c.server with port := port } }, ?_⟩
    simp only [set, portOf_toNat]
    rfl
  all_goals
    rintro ⟨s, rfl⟩
    exact ⟨_, rfl⟩

/-- Setting keys of a section one after the other, none of them twice, gives them their settings. -/
lemma foldlM_set_eq_ok_iff {settings : List (String × String × Setting)}
    (hkeys : ∀ e ∈ settings, e.2.1 ∈ keys name)
    (hdistinct : (settings.map fun e => e.2.1).Nodup) :
    settings.foldlM (fun c (step, key, s) =>
        (c.set name key s).mapError (Misfit.at [name, step])) c = .ok c' ↔
      ∀ n, ∀ k ∈ keys n, c'.toSetting.at? n k =
        if n = name then ((settings.map Prod.snd).lookup k).or (c.toSetting.at? n k)
        else c.toSetting.at? n k := by
  induction settings generalizing c with
  | nil =>
    simp only [List.foldlM_nil, List.map_nil, List.lookup_nil, Option.none_or, ite_self]
    exact pure_eq_ok_iff
  | cons e settings ih =>
    obtain ⟨step, key, u⟩ := e
    obtain ⟨hkey, hkeys⟩ := List.forall_mem_cons.mp hkeys
    obtain ⟨hnot, hdistinct⟩ := List.nodup_cons.mp hdistinct
    have hnone : (settings.map Prod.snd).lookup key = none := by
      refine lookup_eq_none_of_notMem ?_
      rwa [List.map_map]
    rw [List.foldlM_cons]
    cases hset : c.set name key u with
    | error m =>
      refine iff_of_false (by simp [hset, Except.mapError, bind, Except.bind]) fun h => ?_
      have hu := h name key hkey
      rw [if_pos rfl, List.map_cons, lookup_cons_ite, if_pos rfl, Option.some_or] at hu
      obtain ⟨c₁, hc₁⟩ := exists_set c hkey (hasKind_of_at?_toSetting hu)
      rw [hset] at hc₁
      cases hc₁
    | ok c₁ =>
      have hstep : (c.set name key u).mapError (Misfit.at [name, step]) = .ok c₁ := by
        rw [hset]
        rfl
      dsimp only
      rw [hstep]
      refine (ih hkeys hdistinct).trans ?_
      refine forall_congr' fun n => forall₂_congr fun k hk => ?_
      rw [at?_of_set hkey hset n k hk, List.map_cons, lookup_cons_ite]
      by_cases hn : n = name
      · rw [if_pos hn, if_pos hn]
        by_cases hk : k = key
        · rw [if_pos ⟨hn, hk⟩, if_pos hk, hk, hnone, Option.none_or, Option.some_or]
        · rw [if_neg fun h => hk h.2, if_neg hk]
      · rw [if_neg hn, if_neg hn, if_neg fun h => hn h.1]

/-- The setting that a section has for a key, by the name of the key or by its position. -/
def found? (layers : Setting) (name key : String) : Option Setting :=
  (layers.get? name).bind fun v => (members? name v).bind fun settings =>
    (settings.map Prod.snd).lookup key

/-- A section that is there is a table or a list. -/
def IsReadable (layers : Setting) (name : String) : Prop :=
  ∀ v, layers.get? name = some v → (members? name v).isSome

/-- No section has two keys of the same name. -/
lemma nodup_keys (name : String) : (keys name).Nodup := by
  unfold keys
  split <;> decide

/-- No section has a setting for a key twice, or for anything that is none of its keys. -/
lemma of_members? {v : Setting} {settings : List (String × String × Setting)}
    (h : members? name v = some settings) :
    (∀ e ∈ settings, e.2.1 ∈ keys name) ∧ (settings.map fun e => e.2.1).Nodup := by
  unfold members? at h
  split at h
  · obtain rfl := Option.some.inj h
    rw [List.map_filterMap]
    have hsorted := List.mergeSort_perm (keys name) fun a b => decide (a ≤ b)
    constructor
    · intro e he
      obtain ⟨key, hkey, hget⟩ := List.mem_filterMap.mp he
      obtain ⟨s, -, rfl⟩ := Option.map_eq_some_iff.mp hget
      exact hsorted.subset hkey
    · refine (hsorted.nodup_iff.mpr (nodup_keys name)).filterMap fun key key' x hx hx' => ?_
      simp only [Option.map_map, Option.mem_def, Option.map_eq_some_iff,
        Function.comp_apply] at hx hx'
      obtain ⟨-, -, rfl⟩ := hx
      obtain ⟨-, -, rfl⟩ := hx'
      rfl
  · obtain rfl := Option.some.inj h
    rename_i items
    have hkeys : (((keys name).zip items).zipIdx.map fun e => (toString e.2, e.1.1, e.1.2)).map
        (fun e => e.2.1) = ((keys name).zip items).map Prod.fst := by
      rw [List.map_map]
      conv_rhs => rw [← List.zipIdx_map_fst 0 ((keys name).zip items), List.map_map]
      rfl
    have hsub : (((keys name).zip items).map Prod.fst).Sublist (keys name) := by
      rw [List.zip_eq_zip_take_min, List.map_fst_zip (by simp)]
      exact List.take_sublist _ _
    refine ⟨fun e he => ?_, ?_⟩
    · refine hsub.subset ?_
      rw [← hkeys]
      exact List.mem_map_of_mem (f := fun e : String × String × Setting => e.2.1) he
    · rw [hkeys]
      exact hsub.nodup (nodup_keys name)
  · cases h

/-- Reading a section gives its keys the settings that it has for them. -/
lemma readSection_eq_ok_iff {layers : Setting} : readSection layers c name = .ok c' ↔
    IsReadable layers name ∧ ∀ n, ∀ k ∈ keys n, c'.toSetting.at? n k =
      if n = name then (found? layers n k).or (c.toSetting.at? n k)
      else c.toSetting.at? n k := by
  -- whether it is there or not, a readable section stands for some settings of its keys
  have hread : ∀ settings : List (String × String × Setting),
      (∀ e ∈ settings, e.2.1 ∈ keys name) → (settings.map fun e => e.2.1).Nodup →
      (∀ k, found? layers name k = (settings.map Prod.snd).lookup k) → IsReadable layers name →
      (settings.foldlM (fun c (step, key, s) =>
          (c.set name key s).mapError (Misfit.at [name, step])) c = .ok c' ↔
        IsReadable layers name ∧ ∀ n, ∀ k ∈ keys n, c'.toSetting.at? n k =
          if n = name then (found? layers n k).or (c.toSetting.at? n k)
          else c.toSetting.at? n k) := by
    intro settings hkeys hdistinct hfound hreadable
    rw [foldlM_set_eq_ok_iff hkeys hdistinct, iff_true_intro hreadable, true_and]
    refine forall_congr' fun n => forall₂_congr fun k hk => ?_
    by_cases hn : n = name
    · rw [if_pos hn, if_pos hn, hn, hfound]
    · rw [if_neg hn, if_neg hn]
  rw [readSection]
  cases hsection : layers.get? name with
  | none =>
    refine hread [] (List.forall_mem_nil _) List.nodup_nil (fun k => ?_) fun v hv => ?_
    · rw [found?, hsection]
      rfl
    · rw [hsection] at hv
      cases hv
  | some v =>
    cases hmembers : members? name v with
    | none =>
      refine iff_of_false (by simp [hmembers]) fun h => ?_
      have hsome := h.1 v hsection
      rw [hmembers] at hsome
      cases hsome
    | some settings =>
      obtain ⟨hkeys, hdistinct⟩ := of_members? hmembers
      simp only [hmembers]
      refine hread settings hkeys hdistinct (fun k => ?_) fun w hw => ?_
      · rw [found?, hsection, Option.bind_some, hmembers, Option.bind_some]
      · rw [hsection] at hw
        rw [← Option.some.inj hw, hmembers]
        rfl

/-- Settings of the right kinds are those of a configuration. -/
lemma exists_at? {w : String → String → Option Setting}
    (h : ∀ name, ∀ key ∈ keys name, ∃ v, w name key = some v ∧ HasKind key v) :
    ∃ c : Config, ∀ name, ∀ key ∈ keys name, c.toSetting.at? name key = w name key := by
  obtain ⟨c, hc⟩ := exists_settings h
  refine ⟨c, fun name key hkey => ?_⟩
  obtain ⟨s, hs, rfl⟩ : ∃ s ∈ c.settings, s.1 = name := by
    have hname := mem_of_mem_keys hkey
    simp only [List.mem_cons, List.not_mem_nil, or_false] at hname
    rcases hname with rfl | rfl | rfl | rfl <;> simp [settings]
  obtain ⟨e, he, rfl⟩ := List.mem_map.mp ((keys_settings c s hs).2.1.subset hkey)
  rw [at?_toSetting_of_mem c s hs e he, hc s hs e he]

/-- Every key of a configuration has a setting of its kind. -/
lemma exists_hasKind (c : Config) (hkey : key ∈ keys name) :
    ∃ v, c.toSetting.at? name key = some v ∧ HasKind key v := by
  obtain ⟨v, hv⟩ : ∃ v, c.toSetting.at? name key = some v := by
    suffices hall : ∀ name, ∀ key ∈ keys name, ∃ v, c.toSetting.at? name key = some v from
      hall name key hkey
    exact forall_keys_iff.mpr ⟨⟨⟨_, rfl⟩, ⟨_, rfl⟩, ⟨_, rfl⟩⟩, ⟨_, rfl⟩,
      ⟨⟨_, rfl⟩, ⟨_, rfl⟩, ⟨_, rfl⟩, ⟨_, rfl⟩⟩, ⟨_, rfl⟩⟩
  exact ⟨v, hv, hasKind_of_at?_toSetting hv⟩

/-- Reading sections one after the other, none of them twice, gives their keys the settings that
they have for them. -/
lemma foldlM_readSection_eq_ok_iff {layers : Setting} {names : List String} (hnames : names.Nodup) :
    names.foldlM (readSection layers) c = .ok c' ↔
      (∀ name ∈ names, IsReadable layers name) ∧ ∀ n, ∀ k ∈ keys n, c'.toSetting.at? n k =
        if n ∈ names then (found? layers n k).or (c.toSetting.at? n k)
        else c.toSetting.at? n k := by
  induction names generalizing c with
  | nil =>
    simp only [List.foldlM_nil, List.not_mem_nil, false_implies, implies_true, true_and, if_false]
    exact pure_eq_ok_iff
  | cons name names ih =>
    obtain ⟨hnot, hnames⟩ := List.nodup_cons.mp hnames
    have hbind : (name :: names).foldlM (readSection layers) c = .ok c' ↔
        ∃ c₁, readSection layers c name = .ok c₁ ∧
          names.foldlM (readSection layers) c₁ = .ok c' := by
      rw [List.foldlM_cons]
      cases readSection layers c name <;> simp [bind, Except.bind]
    -- the settings of the first section stand before those of the others
    have hcons : ∀ (n : String) (u v : Option Setting),
        (if n ∈ names then u.or (if n = name then u.or v else v) else
          if n = name then u.or v else v) = if n ∈ name :: names then u.or v else v := by
      intro n u v
      by_cases hn : n = name
      · rw [if_pos hn, hn, if_neg hnot, if_pos List.mem_cons_self]
      · simp [hn]
    rw [hbind]
    constructor
    · rintro ⟨c₁, hfirst, hrest⟩
      obtain ⟨hreadable, hc₁⟩ := readSection_eq_ok_iff.mp hfirst
      obtain ⟨hreadables, hc'⟩ := (ih hnames).mp hrest
      refine ⟨List.forall_mem_cons.mpr ⟨hreadable, hreadables⟩, fun n k hk => ?_⟩
      rw [hc' n k hk, hc₁ n k hk, hcons]
    · rintro ⟨hreadable, hc'⟩
      obtain ⟨c₁, hc₁⟩ : ∃ c₁ : Config, ∀ n, ∀ k ∈ keys n, c₁.toSetting.at? n k =
          if n = name then (found? layers n k).or (c.toSetting.at? n k)
          else c.toSetting.at? n k := by
        refine exists_at? fun n k hk => ?_
        split_ifs with hn
        · obtain ⟨v, hv, hkind⟩ := exists_hasKind c' hk
          rw [hc' n k hk, hn, if_pos List.mem_cons_self] at hv
          exact ⟨v, hn ▸ hv, hkind⟩
        · exact exists_hasKind c hk
      refine ⟨c₁, readSection_eq_ok_iff.mpr ⟨hreadable name List.mem_cons_self, hc₁⟩,
        (ih hnames).mpr ⟨fun n hn => hreadable n (List.mem_cons_of_mem name hn), fun n k hk => ?_⟩⟩
      rw [hc' n k hk, hc₁ n k hk, hcons]

/-- **Reading layers.** A configuration is read from layers exactly if all sections are readable
and each key has the setting that its section has for it, or else the default. -/
lemma ofSetting_eq_ok_iff {layers : Setting} : ofSetting layers = .ok c ↔
    (∀ name ∈ ["database", "output", "project", "server"], IsReadable layers name) ∧
      ∀ name, ∀ key ∈ keys name, c.toSetting.at? name key =
        (found? layers name key).or (({} : Config).toSetting.at? name key) := by
  rw [ofSetting, foldlM_readSection_eq_ok_iff (by decide)]
  refine and_congr_right' (forall_congr' fun n => forall₂_congr fun k hk => ?_)
  have hmem : n ∈ ["database", "output", "project", "server"] := by
    have hname := mem_of_mem_keys hk
    simp only [List.mem_cons, List.not_mem_nil, or_false] at hname ⊢
    tauto
  rw [if_pos hmem]

/-- The setting of a key in a table is found by the name of the key. -/
lemma found?_of_table {layers : Setting} {inner : List (String × Setting)} (hkey : key ∈ keys name)
    (h : layers.get? name = some (.table inner)) :
    found? layers name key = layers.at? name key := by
  have hlookup : ∀ names : List String, ((names.filterMap fun k =>
      ((Setting.table inner).get? k).map fun s => (k, k, s)).map Prod.snd).lookup key =
        if key ∈ names then (Setting.table inner).get? key else none := by
    intro names
    induction names with
    | nil => rfl
    | cons n names ih =>
      rw [List.filterMap_cons]
      by_cases hn : key = n
      · subst hn
        rw [if_pos List.mem_cons_self]
        cases hget : (Setting.table inner).get? key with
        | none =>
          rw [hget] at ih
          simpa using ih
        | some s => simp
      · cases hget : (Setting.table inner).get? n with
        | none => simpa [hn] using ih
        | some s => simpa [lookup_cons_ite, hn] using ih
  rw [found?, Setting.at?, h, Option.bind_some, Option.bind_some, members?, Option.bind_some,
    hlookup, if_pos (List.mem_mergeSort.mpr hkey)]

/-- A key has a setting of its kind in layers that are read, if it has one in a table. -/
lemma at?_eq_of_ofSetting {layers : Setting} (h : ofSetting layers = .ok c) (hkey : key ∈ keys name)
    (hu : layers.at? name key = some u) : c.toSetting.at? name key = some u := by
  obtain ⟨inner, hinner⟩ : ∃ inner, layers.get? name = some (.table inner) := by
    obtain ⟨v, hv, hget⟩ := Option.bind_eq_some_iff.mp hu
    cases v with
    | table inner => exact ⟨inner, hv⟩
    | _ => cases hget
  rw [(ofSetting_eq_ok_iff.mp h).2 name key hkey, found?_of_table hkey hinner, hu, Option.some_or]

/-! ### Faults -/

/-- A setting that is not refused: no port zero, and no blank version. -/
def IsFit (name : String) (u : Setting) : Prop :=
  u ≠ .integer 0 ∧ (name = "project" → ∀ t, u = .text t → Text.isBlankText t = false)

/-- A configuration has no faults exactly if none of its settings is refused. -/
lemma faults_eq_nil_iff_isFit : c.faults = [] ↔
    ∀ name, ∀ key ∈ keys name, ∀ u, c.toSetting.at? name key = some u → IsFit name u := by
  have htext : ∀ name t,
      IsFit name (.text t) ↔ (name = "project" → Text.isBlankText t = false) := by
    intro name t
    refine ⟨fun h hname => h.2 hname t rfl, fun h => ⟨nofun, fun hname s hs => ?_⟩⟩
    rw [← Setting.text.inj hs]
    exact h hname
  have hport : IsFit "server" (.integer c.server.port.toNat) ↔ c.server.port ≠ 0 := by
    refine ⟨fun h hzero => h.1 (by rw [hzero]; rfl), fun h => ⟨fun hzero => h ?_, nofun⟩⟩
    refine UInt16.toNat_inj.mp ?_
    have hnat := Setting.integer.inj hzero
    simpa using hnat
  have hflag : IsFit "database" (.boolean c.database.console) := ⟨nofun, nofun⟩
  have hone : ∀ name key {u}, c.toSetting.at? name key = some u →
      ((∀ v, c.toSetting.at? name key = some v → IsFit name v) ↔ IsFit name u) := by
    intro name key u hu
    rw [hu]
    simp
  rw [faults_eq_nil_iff, forall_keys_iff, hone "project" "java_version" rfl,
    hone "project" "spring_boot_version" rfl, hone "project" "version" rfl,
    hone "server" "port" rfl, hone "database" "username" rfl, hone "database" "password" rfl,
    hone "database" "ddl_auto" rfl, hone "database" "console" rfl, hone "output" "dir" rfl]
  simp only [htext, hport, hflag]
  simp [and_comm]

end CrudScaffold.Config
