import CrudScaffold.Proofs.Toml.Reading

/-!
# Spelling does not matter

How keys are spelled, where a piece stands in its document and what is written around it decides
neither whether the piece can be put into a table nor what values the table then has: putting pieces
in and dropping all of this can be done in either order (`Toml.Entries.addAll?_unspelled`).
-/

namespace CrudScaffold.Toml

/-! ### Dropping what is only written -/

/-- A key with nothing but its name. -/
def Key.unspelled (k : Key) : Key := .ofWord k.name

/-- The head of a table without its place and what stands around its header. -/
def Head.unspelled (h : Head) : Head := { implicit := h.implicit, dotted := h.dotted }

mutual

/-- An item with nothing but the names of its keys and their values. -/
def Item.unspelled : Item → Item
  | .value literal _ => .value literal none
  | .table head entries => .table head.unspelled (unspelledEntries entries)
  | .tables members => .tables (unspelledMembers members)

/-- Entries with nothing but their names and values. -/
def unspelledEntries : List (Key × Item) → List (Key × Item)
  | [] => []
  | (key, item) :: rest => (key.unspelled, item.unspelled) :: unspelledEntries rest

/-- The members of a list of tables with nothing but their names and values. -/
def unspelledMembers : List (Head × List (Key × Item)) → List (Head × List (Key × Item))
  | [] => []
  | (head, entries) :: rest => (head.unspelled, unspelledEntries entries) :: unspelledMembers rest

end

lemma unspelledEntries_eq (entries : List (Key × Item)) :
    unspelledEntries entries = entries.map fun e => (e.1.unspelled, e.2.unspelled) := by
  induction entries with
  | nil => rfl
  | cons e entries ih => rw [unspelledEntries, ih, List.map_cons]

lemma unspelledMembers_eq (members : List (Head × List (Key × Item))) :
    unspelledMembers members = members.map fun m => (m.1.unspelled, unspelledEntries m.2) := by
  induction members with
  | nil => rfl
  | cons m members ih => rw [unspelledMembers, ih, List.map_cons]

mutual

lemma Item.toValue_unspelled (item : Item) : item.unspelled.toValue = item.toValue := by
  match item with
  | .value literal around => rfl
  | .table head entries => rw [Item.unspelled, Item.toValue, toValues_unspelled, Item.toValue]
  | .tables members => rw [Item.unspelled, Item.toValue, memberValues_unspelled, Item.toValue]

lemma toValues_unspelled (entries : List (Key × Item)) :
    Entries.toValues (unspelledEntries entries) = Entries.toValues entries := by
  match entries with
  | [] => rfl
  | (key, item) :: rest =>
    rw [unspelledEntries, Entries.toValues, Item.toValue_unspelled item, toValues_unspelled rest,
      Entries.toValues]
    rfl

lemma memberValues_unspelled (members : List (Head × List (Key × Item))) :
    memberValues (unspelledMembers members) = memberValues members := by
  match members with
  | [] => rfl
  | (head, entries) :: rest =>
    rw [unspelledMembers, memberValues, toValues_unspelled entries, memberValues_unspelled rest,
      memberValues]

end

namespace Entries

variable {entries : Entries} {key : Key} {item : Item}

/-- Entries with nothing but their names and values. -/
def unspelled (entries : Entries) : Entries := unspelledEntries entries

@[simp] lemma unspelled_nil : unspelled [] = [] := rfl

@[simp] lemma unspelled_cons (e : Key × Item) (entries : Entries) :
    unspelled (e :: entries) = (e.1.unspelled, e.2.unspelled) :: unspelled entries := rfl

lemma get?_unspelled (name : String) (entries : Entries) :
    entries.unspelled.get? name = (entries.get? name).map Item.unspelled := by
  induction entries with
  | nil => rfl
  | cons e entries ih =>
    obtain ⟨key, item⟩ := e
    rw [unspelled_cons, get?, get?, ih]
    change (if key.name = name then _ else _) = _
    split <;> rfl

lemma erase_unspelled (name : String) (entries : Entries) :
    entries.unspelled.erase name = (entries.erase name).unspelled := by
  induction entries with
  | nil => rfl
  | cons e entries ih =>
    obtain ⟨key, item⟩ := e
    rw [unspelled_cons, erase, erase, ih]
    change (if key.name = name then _ else _) = _
    split <;> rfl

/-! ### Putting in -/

/-- An alteration that looks at names and values alone may be made before or after the rest has been
dropped. -/
lemma alter?_unspelled {f g : Option Item → Option Item}
    (h : ∀ o, (f o).map Item.unspelled = g (o.map Item.unspelled)) (key : Key) (entries : Entries) :
    (entries.alter? key f).map unspelled = entries.unspelled.alter? key.unspelled g := by
  induction entries with
  | nil =>
    have hnone := h none
    rw [Option.map_none] at hnone
    rw [alter?, unspelled_nil, alter?, ← hnone]
    cases f none <;> rfl
  | cons e entries ih =>
    obtain ⟨known, old⟩ := e
    rw [alter?, unspelled_cons, alter?]
    by_cases hknown : known.name = key.name
    · have hsome := h (some old)
      rw [Option.map_some] at hsome
      rw [if_pos hknown, if_pos (by exact hknown), ← hsome]
      cases f (some old) <;> rfl
    · rw [if_neg hknown, if_neg (by exact hknown), ← ih]
      cases alter? key f entries <;> rfl

lemma add?_unspelled (key : Key) (item : Item) (entries : Entries) :
    (entries.add? key item).map unspelled = entries.unspelled.add? key.unspelled item.unspelled :=
  alter?_unspelled (fun o => by cases o <;> rfl) key entries

lemma getLast?_unspelledMembers (members : List (Head × Entries)) :
    (unspelledMembers members).getLast? =
      members.getLast?.map fun m => (m.1.unspelled, unspelledEntries m.2) := by
  rw [unspelledMembers_eq, List.getLast?_map]

lemma within?_unspelled {f g : Head → Entries → Option Entries}
    (h : ∀ head inner, (f head inner).map unspelled = g head.unspelled inner.unspelled)
    (dotted : Bool) (path : List Key) (head : Head) (entries : Entries) :
    (within? dotted path f head entries).map unspelled =
      within? dotted (path.map Key.unspelled) g head.unspelled entries.unspelled := by
  induction path generalizing head entries with
  | nil => exact h head entries
  | cons key path ih =>
    rw [within?, List.map_cons, within?]
    refine alter?_unspelled (fun o => ?_) key entries
    rcases o with _ | ⟨literal, around⟩ | ⟨head', inner⟩ | members
    · have hnew := ih { implicit := true, dotted } []
      change _ = within? dotted (path.map Key.unspelled) g { implicit := true, dotted } [] at hnew
      dsimp only [Option.map_none]
      rw [← hnew]
      cases within? dotted path f { implicit := true, dotted } [] <;> rfl
    · rfl
    · have hinner := ih head' inner
      dsimp only [Option.map_some, Item.unspelled]
      change Option.map Item.unspelled (if (dotted && !head'.implicit) = true then _ else _) =
        if (dotted && !head'.implicit) = true then _ else
          (within? dotted (path.map Key.unspelled) g head'.unspelled (unspelled inner) >>= _)
      rw [← hinner]
      split
      · rfl
      · cases within? dotted path f head' inner <;> rfl
    · dsimp only [Option.map_some, Item.unspelled]
      rw [getLast?_unspelledMembers]
      cases hlast : members.getLast? with
      | none => rfl
      | some m =>
        obtain ⟨head', inner⟩ := m
        have hinner := ih head' inner
        have hdrop : (unspelledMembers members).dropLast = unspelledMembers members.dropLast := by
          rw [unspelledMembers_eq, unspelledMembers_eq, List.map_dropLast]
        change Option.map Item.unspelled (within? dotted path f head' inner >>= _) =
          (within? dotted (path.map Key.unspelled) g head'.unspelled (unspelled inner) >>= _)
        rw [← hinner, hdrop]
        cases within? dotted path f head' inner with
        | none => rfl
        | some inner' =>
          change some (Item.tables (unspelledMembers (members.dropLast ++ [(head', inner')]))) =
            some (.tables (unspelledMembers members.dropLast ++
              [(head'.unspelled, unspelled inner')]))
          rw [unspelledMembers_eq, List.map_append, unspelledMembers_eq]
          rfl

end Entries

/-- A path with nothing but its names. -/
def Path.unspelled (p : Path) : Path := ⟨p.parents.map Key.unspelled, p.key.unspelled⟩

/-- A line with nothing but its names and its value. -/
def Line.unspelled (l : Line) : Line := ⟨l.path.unspelled, l.literal, none⟩

/-- A stanza with nothing but its names and its values. -/
def Stanza.unspelled (s : Stanza) : Stanza :=
  ⟨s.path.unspelled, s.repeated, s.head.unspelled, s.lines.map Line.unspelled⟩

/-- A piece with nothing but its names and its values. -/
def Piece.unspelled : Piece → Piece
  | line l => line l.unspelled
  | stanza s => stanza s.unspelled

namespace Entries

lemma put?_unspelled (path : Path) (item : Item) (entries : Entries) :
    (entries.put? path item).map unspelled =
      entries.unspelled.put? path.unspelled item.unspelled := by
  have hput : ∀ (head : Head) (inner : Entries),
      (if head.dotted = path.parents.isEmpty then none else inner.add? path.key item).map
        unspelled =
        if head.unspelled.dotted = path.unspelled.parents.isEmpty then none
        else inner.unspelled.add? path.unspelled.key item.unspelled := by
    intro head inner
    rw [Path.unspelled, List.isEmpty_map]
    change _ = if head.dotted = path.parents.isEmpty then none else _
    split
    · rfl
    · exact add?_unspelled path.key item inner
  exact @within?_unspelled _ (fun head inner => if head.dotted = path.unspelled.parents.isEmpty
    then none else inner.add? path.unspelled.key item.unspelled) hput true path.parents {} entries

lemma addAll?_unspelled_of {pieces : List Piece}
    (h : ∀ p ∈ pieces, ∀ entries : Entries,
      (p.put? entries).map unspelled = p.unspelled.put? entries.unspelled) (entries : Entries) :
    (addAll? pieces entries).map unspelled =
      addAll? (pieces.map Piece.unspelled) entries.unspelled := by
  induction pieces generalizing entries with
  | nil => rfl
  | cons p pieces ih =>
    obtain ⟨hp, hpieces⟩ := List.forall_mem_cons.mp h
    rw [List.map_cons, addAll?_cons, addAll?_cons, ← hp]
    cases p.put? entries with
    | none => rfl
    | some next => exact ih hpieces next

lemma putAll?_unspelled (s : Stanza) (entries : Entries) :
    (putAll? s.section.body entries).map unspelled =
      putAll? s.unspelled.section.body entries.unspelled := by
  have hbody : s.section.body = s.lines.map Line.member := rfl
  have hbody' : s.unspelled.section.body = (s.lines.map Line.unspelled).map Line.member := rfl
  have hlines : (s.lines.map Line.unspelled).map Piece.line =
      (s.lines.map Piece.line).map Piece.unspelled := by
    rw [List.map_map, List.map_map]
    rfl
  rw [hbody, hbody', putAll?_member, putAll?_member, hlines]
  refine addAll?_unspelled_of (fun p hp entries => ?_) entries
  obtain ⟨l, -, rfl⟩ := List.mem_map.mp hp
  exact put?_unspelled l.path (.value l.literal l.around) entries

lemma addBeside?_unspelled (s : Stanza) (entries : Entries) :
    (entries.addBeside? s.section).map unspelled =
      entries.unspelled.addBeside? s.unspelled.section := by
  have hnew := putAll?_unspelled s []
  rw [unspelled_nil] at hnew
  unfold addBeside?
  change Option.map unspelled (if s.repeated = true then _ else _) =
    if s.repeated = true then _ else _
  split
  · rw [← hnew]
    cases putAll? s.section.body [] with
    | none => rfl
    | some body =>
      refine alter?_unspelled (fun o => ?_) s.path.key entries
      rcases o with _ | ⟨literal, around⟩ | ⟨head, inner⟩ | members
      · rfl
      · rfl
      · rfl
      · change some (Item.tables (unspelledMembers (members ++ [(s.head, body)]))) =
          some (.tables (unspelledMembers members ++ [(s.head.unspelled, body.unspelled)]))
        rw [unspelledMembers_eq, List.map_append, unspelledMembers_eq]
        rfl
  · have hget : entries.unspelled.get? s.unspelled.section.path.key.name =
        (entries.get? s.section.path.key.name).map Item.unspelled := get?_unspelled _ _
    rw [hget]
    rcases entries.get? s.section.path.key.name with _ | ⟨literal, around⟩ | ⟨head, known⟩ | members
    · dsimp only [Option.map_none]
      rw [← hnew]
      cases putAll? s.section.body [] with
      | none => rfl
      | some body => exact add?_unspelled s.path.key (.table s.head body) entries
    · rfl
    · have hknown := putAll?_unspelled s known
      dsimp only [Option.map_some, Item.unspelled]
      change Option.map unspelled (if (head.implicit && !head.dotted) = true then _ else none) =
        if (head.implicit && !head.dotted) = true then
          (putAll? s.unspelled.section.body (unspelled known) >>= _) else none
      rw [← hknown]
      split
      · cases putAll? s.section.body known with
        | none => rfl
        | some body =>
          have hadd := add?_unspelled s.path.key (.table s.head body)
            (entries.erase s.path.key.name)
          rw [← erase_unspelled] at hadd
          exact hadd
      · rfl
    · rfl

end Entries

lemma Piece.put?_unspelled (p : Piece) (entries : Entries) :
    (p.put? entries).map Entries.unspelled = p.unspelled.put? entries.unspelled := by
  cases p with
  | line l => exact Entries.put?_unspelled l.path (.value l.literal l.around) entries
  | stanza s =>
    exact Entries.within?_unspelled (fun _ inner => Entries.addBeside?_unspelled s inner) false
      s.path.parents {} entries

/-- **Spelling does not matter.** Pieces may be put into a table before or after the spelling, the
places and what is written around has been dropped. -/
lemma Entries.addAll?_unspelled (pieces : List Piece) (entries : Entries) :
    (addAll? pieces entries).map unspelled =
      addAll? (pieces.map Piece.unspelled) entries.unspelled :=
  addAll?_unspelled_of (fun p _ => p.put?_unspelled) entries

/-- Pieces that differ in spelling alone make tables that differ in it alone. -/
lemma Entries.exists_addAll?_of_unspelled {pieces pieces' : List Piece} {entries : Entries}
    (hadd : addAll? pieces [] = some entries)
    (h : pieces'.map Piece.unspelled = pieces.map Piece.unspelled) :
    ∃ entries', addAll? pieces' [] = some entries' ∧ entries'.unspelled = entries.unspelled := by
  have hall := addAll?_unspelled pieces' []
  rw [h, ← addAll?_unspelled pieces [], hadd] at hall
  exact Option.map_eq_some_iff.mp hall

lemma map_unspelled_of_names {keys keys' : List Key} (h : keys'.map Key.name = keys.map Key.name) :
    keys'.map Key.unspelled = keys.map Key.unspelled := by
  have hwords := congrArg (List.map Key.ofWord) h
  rw [List.map_map, List.map_map] at hwords
  exact hwords

lemma Path.unspelled_eq {p p' : Path} (hparents : p'.parents.map Key.name = p.parents.map Key.name)
    (hname : p'.key.name = p.key.name) : p'.unspelled = p.unspelled := by
  rw [Path.unspelled, Path.unspelled, map_unspelled_of_names hparents, Key.unspelled, Key.unspelled,
    hname]

lemma Line.Respells.unspelled_eq {l l' : Line} (h : l'.Respells l) :
    l'.unspelled = l.unspelled := by
  rw [Line.unspelled, Line.unspelled, Path.unspelled_eq h.parents
    (congrArg Key.name h.key), h.literal]

lemma map_eq_of_forall₂ {α β : Type*} {R : α → α → Prop} {f : α → β}
    (hf : ∀ a' a, R a' a → f a' = f a) {l l' : List α} (h : List.Forall₂ R l' l) :
    l'.map f = l.map f := by
  rw [← List.forall₂_eq_eq_eq, List.forall₂_map_left_iff, List.forall₂_map_right_iff]
  exact h.imp hf

lemma Piece.Respells.unspelled_eq {p p' : Piece} (h : p'.Respells p) :
    p'.unspelled = p.unspelled := by
  cases h with
  | line h => exact congrArg Piece.line h.unspelled_eq
  | stanza h =>
    have hlines := map_eq_of_forall₂ (f := Line.unspelled)
      (fun _ _ hl => Line.Respells.unspelled_eq hl) h.lines
    rw [Piece.unspelled, Piece.unspelled, Stanza.unspelled, Stanza.unspelled,
      Path.unspelled_eq h.parents h.key, h.repeated, h.head, hlines]

end CrudScaffold.Toml
