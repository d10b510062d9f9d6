import CrudScaffold.Proofs.Config.Completion
import CrudScaffold.Proofs.Toml.Distinct

/-!
# Layers of settings

Settings are laid over each other as trees, and what counts of the result are the settings of the
keys in its sections. Where every layer has a section as a table, or not at all, laying the layers
over each other lays the settings of every key over each other (`at?_layOver`). A setting that is no
table hides whatever is below it, so the uppermost layer that has a key decides it
(`overlay_eq_some`).
-/

namespace CrudScaffold

namespace Setting

variable {name key : String} {upper lower : List (String × Setting)}

/-! ### Tables -/

@[simp] lemma lookup_map_snd {α β : Type} (f : α → β) (entries : List (String × α)) (key : String) :
    (entries.map fun e => (e.1, f e.2)).lookup key = (entries.lookup key).map f := by
  induction entries with
  | nil => rfl
  | cons e entries ih =>
    rw [List.map_cons, lookup_cons_ite, lookup_cons_ite, ih]
    split_ifs <;> rfl

/-- What is found under a key when another one, or the same, has been changed. -/
lemma lookup_change (changed : String) (f : Option Setting → Setting)
    (entries : List (String × Setting)) (key : String) :
    (change changed f entries).lookup key =
      if key = changed then some (f (entries.lookup changed)) else entries.lookup key := by
  induction entries with
  | nil =>
    rw [change, lookup_cons_ite]
    rfl
  | cons e entries ih =>
    obtain ⟨k, v⟩ := e
    rw [change]
    by_cases hk : k = changed
    · rw [if_pos hk, lookup_cons_ite, lookup_cons_ite, lookup_cons_ite, if_pos hk.symm, hk]
      split_ifs <;> rfl
    · rw [if_neg hk, lookup_cons_ite, lookup_cons_ite, lookup_cons_ite, if_neg (Ne.symm hk), ih]
      split_ifs with hkey hchanged
      · exact absurd (hkey.symm.trans hchanged) hk
      · rfl
      · rfl
      · rfl

/-- Changing a setting leaves the keys as they are, or adds the key at the end. -/
lemma keys_change (changed : String) (f : Option Setting → Setting)
    (entries : List (String × Setting)) :
    (change changed f entries).map Prod.fst = entries.map Prod.fst ∨
      changed ∉ entries.map Prod.fst ∧
        (change changed f entries).map Prod.fst = entries.map Prod.fst ++ [changed] := by
  induction entries with
  | nil => exact .inr ⟨nofun, rfl⟩
  | cons e entries ih =>
    obtain ⟨k, v⟩ := e
    rw [change]
    split_ifs with hk
    · exact .inl rfl
    · rcases ih with hsame | ⟨hnot, hadded⟩
      · exact .inl (congrArg (k :: ·) hsame)
      · refine .inr ⟨?_, congrArg (k :: ·) hadded⟩
        rw [List.map_cons, List.mem_cons, not_or]
        exact ⟨Ne.symm hk, hnot⟩

/-- What two layers have together for a key. -/
def overlay : Option Setting → Option Setting → Option Setting
  | some v, some below => some (layOver v below)
  | some v, none => some v
  | none, below => below

/-- What is found under a key when one table lies over another one. -/
lemma lookup_entriesOver (h : (upper.map Prod.fst).Nodup) (key : String) :
    (entriesOver upper lower).lookup key = overlay (upper.lookup key) (lower.lookup key) := by
  induction upper generalizing lower with
  | nil =>
    rw [entriesOver]
    rfl
  | cons e upper ih =>
    obtain ⟨k, v⟩ := e
    obtain ⟨hk, hupper⟩ := List.nodup_cons.mp h
    rw [entriesOver, ih hupper, lookup_change, lookup_cons_ite]
    by_cases hkey : key = k
    · rw [if_pos hkey, if_pos hkey, hkey, lookup_eq_none_of_notMem hk]
      cases lower.lookup k <;> rfl
    · rw [if_neg hkey, if_neg hkey]

/-- Laying a table over another one keeps the keys apart. -/
lemma nodup_entriesOver (h : (lower.map Prod.fst).Nodup) :
    ((entriesOver upper lower).map Prod.fst).Nodup := by
  induction upper generalizing lower with
  | nil =>
    rw [entriesOver]
    exact h
  | cons e upper ih =>
    obtain ⟨k, v⟩ := e
    rw [entriesOver]
    refine ih ?_
    rcases keys_change k _ lower with hsame | ⟨hnot, hadded⟩
    · rw [hsame]
      exact h
    · rw [hadded]
      exact List.nodup_append.mpr ⟨h, List.nodup_singleton k, fun a ha b hb => by
        rw [List.mem_singleton.mp hb]
        rintro rfl
        exact hnot ha⟩

/-! ### Sections -/

/-- A layer that has a section as a table, or not at all, and gives no key of it twice. -/
def IsLayer (name : String) (layer : Setting) : Prop :=
  ∃ entries, layer = .table entries ∧ (entries.map Prod.fst).Nodup ∧
    ∀ v, entries.lookup name = some v → ∃ inner, v = .table inner ∧ (inner.map Prod.fst).Nodup

/-- The setting of a key in a section. -/
def at? (layer : Setting) (name key : String) : Option Setting :=
  (layer.get? name).bind (get? key)

/-- A layer over another one is a layer. -/
lemma IsLayer.layOver {u l : Setting} (hu : IsLayer name u) (hl : IsLayer name l) :
    IsLayer name (u.layOver l) := by
  obtain ⟨upper, rfl, hupper, hsection⟩ := hu
  obtain ⟨lower, rfl, hlower, hsection'⟩ := hl
  refine ⟨entriesOver upper lower, by rw [Setting.layOver], nodup_entriesOver hlower,
    fun v hv => ?_⟩
  rw [lookup_entriesOver hupper] at hv
  rcases hu : upper.lookup name with _ | u
  · rw [hu] at hv
    exact hsection' v hv
  · obtain ⟨inner, rfl, hinner⟩ := hsection u hu
    rcases hl : lower.lookup name with _ | l
    · rw [hu, hl] at hv
      cases hv
      exact ⟨inner, rfl, hinner⟩
    · obtain ⟨below, rfl, hbelow⟩ := hsection' l hl
      rw [hu, hl] at hv
      cases hv
      exact ⟨entriesOver inner below, by rw [Setting.layOver], nodup_entriesOver hbelow⟩

/-- The sections of a layer lie over those of a table. -/
lemma get?_layOver {u : Setting} (hu : IsLayer name u) (lower : List (String × Setting))
    (n : String) : (u.layOver (.table lower)).get? n = overlay (u.get? n) (lower.lookup n) := by
  obtain ⟨upper, rfl, hupper, -⟩ := hu
  rw [Setting.layOver, get?, get?, lookup_entriesOver hupper]

/-- The setting of a key lies over the one in a table, whatever the table has for the section. -/
lemma at?_layOver_table {u : Setting} (hu : IsLayer name u) (lower : List (String × Setting))
    (key : String) : (u.layOver (.table lower)).at? name key =
      overlay (u.at? name key) ((table lower).at? name key) := by
  rw [at?, get?_layOver hu, at?, at?, get?]
  obtain ⟨upper, rfl, hupper, hsection⟩ := hu
  rw [get?]
  rcases hu : upper.lookup name with _ | u
  · rfl
  · obtain ⟨inner, rfl, hinner⟩ := hsection u hu
    rcases hl : lower.lookup name with _ | l
    · rw [overlay, Option.bind_some, Option.bind_none, get?]
      cases inner.lookup key <;> rfl
    · rw [overlay, Option.bind_some, Option.bind_some, Option.bind_some]
      cases l with
      | table below => rw [Setting.layOver, get?, get?, get?, lookup_entriesOver hinner]
      | _ =>
        rw [Setting.layOver]
        · cases get? key (table inner) <;> rfl
        · nofun

/-- The settings of a key are laid over each other when layers are. -/
lemma at?_layOver {u l : Setting} (hu : IsLayer name u) (hl : IsLayer name l) (key : String) :
    (u.layOver l).at? name key = overlay (u.at? name key) (l.at? name key) := by
  obtain ⟨lower, rfl, -⟩ := hl
  exact at?_layOver_table hu lower key

/-- A setting that is not a table. -/
def IsPlain : Setting → Prop
  | .table _ => False
  | _ => True

/-- A plain setting hides what is below it. -/
lemma layOver_of_isPlain {v : Setting} (h : v.IsPlain) (below : Setting) :
    v.layOver below = v := by
  cases v with
  | table => exact absurd h id
  | _ => rw [Setting.layOver]

/-- The uppermost layer that has a key decides it, if its setting is plain. -/
lemma overlay_eq_some {u l below : Option Setting} {v : Setting} (hv : v.IsPlain)
    (h : u.or l = some v) (hbelow : l = some v → below = some v) : overlay u below = some v := by
  cases u with
  | none => exact hbelow h
  | some w =>
    obtain rfl : w = v := Option.some.inj h
    cases below with
    | none => rfl
    | some below => rw [overlay, layOver_of_isPlain hv]

/-! ### Documents -/

/-- The settings that entries of a document stand for one by one. -/
lemma ofEntries_eq_map (entries : List (String × Toml.Value)) :
    ofEntries entries = entries.map fun e => (e.1, ofValue e.2) := by
  induction entries with
  | nil => rw [ofEntries, List.map_nil]
  | cons e entries ih =>
    obtain ⟨k, v⟩ := e
    rw [ofEntries, ih, List.map_cons]

/-- What is found under a key of the settings of a document. -/
lemma lookup_ofEntries (entries : List (String × Toml.Value)) (key : String) :
    (ofEntries entries).lookup key = (entries.lookup key).map ofValue := by
  rw [ofEntries_eq_map, lookup_map_snd]

/-- The settings of a table have the keys of the table. -/
lemma nodup_ofEntries {entries : List (String × Toml.Value)} (h : (entries.map Prod.fst).Nodup) :
    ((ofEntries entries).map Prod.fst).Nodup := by
  rw [ofEntries_eq_map, List.map_map]
  exact h

/-- A document is a layer if a section that it has is a table. -/
lemma isLayer_ofEntries {entries : List (String × Toml.Value)}
    (hdistinct : (Toml.Value.table entries).Distinct)
    (htable : ∀ v, entries.lookup name = some v → ∃ inner, v = .table inner) :
    IsLayer name (.table (ofEntries entries)) := by
  cases hdistinct with
  | table hkeys hentries =>
    refine ⟨_, rfl, nodup_ofEntries hkeys, fun v hv => ?_⟩
    rw [lookup_ofEntries] at hv
    obtain ⟨w, hw, rfl⟩ := Option.map_eq_some_iff.mp hv
    obtain ⟨inner, rfl⟩ := htable w hw
    obtain ⟨front, back, hsplit, -⟩ := List.lookup_eq_some_iff.mp hw
    have hinner := hentries (name, .table inner) (by rw [hsplit]; simp)
    cases hinner with
    | table hinner _ => exact ⟨_, by rw [ofValue], nodup_ofEntries hinner⟩

/-- The setting of a key in a document is the value that the document has for it. -/
lemma at?_ofEntries {d : Toml.Document}
    (htable : ∀ v, d.values.lookup name = some v → ∃ inner, v = .table inner) (key : String) :
    (Setting.table (ofEntries d.values)).at? name key = (d.value? name key).map ofValue := by
  rw [at?, get?, lookup_ofEntries, Toml.Document.value?_of_values rfl]
  rcases hv : d.values.lookup name with _ | v
  · rfl
  · obtain ⟨inner, rfl⟩ := htable v hv
    rw [Option.map_some, Option.bind_some, ofValue, get?, lookup_ofEntries]

end Setting

/-! ### Configurations -/

/-- A configuration is a layer. -/
lemma Config.isLayer_toSetting (c : Config) (name : String) :
    Setting.IsLayer name c.toSetting := by
  have hsections := wellformed_settings c
  refine ⟨_, rfl, ?_, fun v hv => ?_⟩
  · rw [List.map_map]
    exact hsections.names
  · rw [Setting.lookup_map_snd] at hv
    obtain ⟨entries, hentries, rfl⟩ := Option.map_eq_some_iff.mp hv
    obtain ⟨front, back, hsplit, -⟩ := List.lookup_eq_some_iff.mp hentries
    exact ⟨entries, rfl, hsections.keys (name, entries) (by rw [hsplit]; simp)⟩

/-- The setting of a key in a configuration. -/
lemma Config.at?_toSetting (c : Config) (name key : String) :
    c.toSetting.at? name key = (c.settings.lookup name).bind (List.lookup key) := by
  rw [Setting.at?, toSetting, Setting.get?, Setting.lookup_map_snd, Option.bind_map]
  rfl

end CrudScaffold
