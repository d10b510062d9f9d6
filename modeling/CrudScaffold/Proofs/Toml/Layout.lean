import CrudScaffold.Proofs.Toml.Statement

/-!
# How a document is printed

The text of a document is made of lines and stanzas: the lines of the document itself come first,
then every header with the lines under it (`Toml.Document.layout`). Each of them is printed as one
statement, and the statements are taken apart into the same lines and stanzas
(`Toml.sections_statements`).
-/

namespace CrudScaffold.Toml

/-! ### Keys and paths as they are printed -/

/-- A key as it is printed in front of others in a path. -/
def Key.bare (k : Key) : Key := { k with outer := none, place := none }

/-- The keys in front of the last one of a path as they are printed. -/
def bareParents : List Key → List Key
  | [] => []
  | first :: more => { first.bare with inner := ⟨"", first.inner.after⟩ } :: more.map Key.bare

/-- A path as it is printed. -/
def Path.printed (p : Path) (standard : Around) : Path where
  parents := bareParents p.parents
  key := { p.key with
    inner := ⟨if p.parents.isEmpty then "" else p.key.inner.before, ""⟩
    outer := some (p.key.outer.getD standard) }

/-- A path without the place of its last key. -/
def Path.unplaced (p : Path) : Path := { p with key := { p.key with place := none } }

@[simp] lemma Path.write_unplaced (p : Path) (standard : Around) :
    p.unplaced.write standard = p.write standard := rfl

lemma Path.write_printed (p : Path) (standard standard' : Around) :
    (p.printed standard).write standard' = p.write standard := by
  obtain ⟨_ | ⟨first, more⟩, key⟩ := p
  · rfl
  · have hparents : ∀ ks : List Key, ((ks.map Key.bare).zipIdx 1).map (fun x =>
        (if x.2 = 0 then "" else x.1.inner.before) ++ x.1.raw ++ x.1.inner.after ++ ".") =
        (ks.zipIdx 1).map fun x =>
          (if x.2 = 0 then "" else x.1.inner.before) ++ x.1.raw ++ x.1.inner.after ++ "." := by
      intro ks
      rw [List.zipIdx_map, List.map_map]
      rfl
    unfold Path.write Path.printed bareParents
    simp only [List.zipIdx_cons, List.map_cons, Nat.zero_add, hparents, Option.getD_some,
      List.isEmpty_cons]
    rfl

/-! ### Lines -/

/-- A line as it is printed. -/
def Line.printed (l : Line) : Line where
  path := l.path.printed ⟨"", " "⟩
  literal := l.literal
  around := some (l.around.getD ⟨" ", ""⟩)

/-- A line as a statement. -/
def Line.statement (l : Line) : Statement :=
  let outer := l.path.key.outer.getD ⟨"", " "⟩
  .entry outer.before
    { l.path with key := { l.path.key with outer := some ⟨"", outer.after⟩, place := none } }
    l.literal (l.around.getD ⟨" ", ""⟩)

lemma Line.text_statement (l : Line) :
    l.printed.statement.text = l.write ⟨"", " "⟩ ⟨" ", ""⟩ ++ "\n" := by
  have hwrite := Path.write_printed l.path ⟨"", " "⟩ ⟨"", " "⟩
  unfold Line.write
  rw [← hwrite]
  simp [Line.statement, Line.printed, Statement.text, Path.write, Path.printed, String.append_assoc]

/-! ### Stanzas -/

/-- A header with the lines under it. -/
structure Stanza where
  path : Path
  repeated : Bool
  head : Head
  lines : List Line

/-- The stanza of a block that has a header. -/
def Block.stanza? (b : Block) : Option Stanza :=
  b.path.bind fun path =>
    if b.hasHeader then
      some ⟨(path.printed ⟨"", ""⟩).unplaced, b.repeated, b.head, b.lines.map Line.printed⟩
    else none

namespace Stanza

/-- The header of a stanza. The very first statement of a document has nothing in front of it and
any other header has an empty line, if it was never written. -/
def header (first : Bool) (s : Stanza) : Statement :=
  let around := s.head.around.getD ⟨if first then "" else "\n", ""⟩
  .header around.before s.repeated s.path around.after

/-- The statements of stanzas one after the other. -/
def statements (first : Bool) : List Stanza → List Statement
  | [] => []
  | s :: rest => s.header first :: (s.lines.map Line.statement ++ statements false rest)

end Stanza

/-- The statements of lines are printed as the lines are. -/
lemma join_lines (lines : List Line) :
    String.join (((lines.map Line.printed).map Line.statement).map Statement.text) =
      String.join (lines.map fun l => l.write ⟨"", " "⟩ ⟨" ", ""⟩ ++ "\n") := by
  rw [List.map_map, List.map_map]
  exact congrArg String.join (List.map_congr_left fun l _ => l.text_statement)

lemma Block.text_header (b : Block) (path : Path) (first : Bool) (lines : List Line) :
    ((⟨(path.printed ⟨"", ""⟩).unplaced, b.repeated, b.head, lines⟩ : Stanza).header first).text =
      b.header path first := by
  unfold Block.header Stanza.header Statement.text
  dsimp only
  rw [Path.write_unplaced, Path.write_printed]

/-- Blocks that all have a path are printed as the statements of their stanzas. -/
lemma Block.writeAll_eq {blocks : List Block} (h : ∀ b ∈ blocks, b.path.isSome) (first : Bool) :
    Block.writeAll first blocks =
      String.join ((Stanza.statements first (blocks.filterMap Block.stanza?)).map
        Statement.text) := by
  induction blocks generalizing first with
  | nil => rfl
  | cons b blocks ih =>
    obtain ⟨hb, hmore⟩ := List.forall_mem_cons.mp h
    obtain ⟨path, hpath⟩ := Option.isSome_iff_exists.mp hb
    rw [Block.writeAll, hpath, List.filterMap_cons]
    dsimp only
    by_cases hheader : b.hasHeader
    · have hstanza : b.stanza? = some ⟨(path.printed ⟨"", ""⟩).unplaced, b.repeated, b.head,
          b.lines.map Line.printed⟩ := by
        rw [Block.stanza?, hpath, Option.bind_some, if_pos hheader]
      rw [if_pos hheader, hstanza, ih hmore]
      dsimp only
      rw [Stanza.statements, List.map_cons, List.map_append, String.join_cons, String.join_append,
        Block.text_header, join_lines, Block.body, String.append_assoc]
    · have hstanza : b.stanza? = none := by
        rw [Block.stanza?, hpath, Option.bind_some, if_neg hheader]
      rw [if_neg hheader, hstanza, ih hmore]

/-! ### Documents -/

namespace Document

/-- The lines of a document and its stanzas as they are printed. -/
def layout (d : Document) : List Line × List Stanza :=
  ((Entries.lines d.entries).map Line.printed, d.blocks.filterMap Block.stanza?)

/-- The statements of a document as they are printed. -/
def statements (d : Document) : List Statement :=
  d.layout.1.map Line.statement ++ Stanza.statements d.layout.1.isEmpty d.layout.2

end Document

mutual

lemma Item.isSome_path {parents : List Key} {key : Key} {item : Item} {b : Block}
    (hb : b ∈ item.blocks parents key) : b.path.isSome := by
  match item with
  | .value literal around => cases hb
  | .table head entries =>
    rw [Item.blocks, List.mem_append] at hb
    rcases hb with hb | hb
    · split at hb
      · cases hb
      · rw [List.mem_singleton.mp hb]
        rfl
    · exact isSome_path_of_mem_blocksOf hb
  | .tables members => exact isSome_path_of_mem_memberBlocks hb

lemma isSome_path_of_mem_blocksOf {parents : List Key} {entries : List (Key × Item)} {b : Block}
    (hb : b ∈ blocksOf parents entries) : b.path.isSome := by
  match entries with
  | [] => cases hb
  | (key, item) :: rest =>
    rw [blocksOf, List.mem_append] at hb
    rcases hb with hb | hb
    · exact Item.isSome_path hb
    · exact isSome_path_of_mem_blocksOf hb

lemma isSome_path_of_mem_memberBlocks {parents : List Key} {key : Key}
    {members : List (Head × List (Key × Item))} {b : Block}
    (hb : b ∈ memberBlocks parents key members) : b.path.isSome := by
  match members with
  | [] => cases hb
  | (head, entries) :: rest =>
    rw [memberBlocks, List.mem_append, List.mem_append, List.mem_singleton] at hb
    rcases hb with (rfl | hb) | hb
    · rfl
    · exact isSome_path_of_mem_blocksOf hb
    · exact isSome_path_of_mem_memberBlocks hb

end

lemma map_snd_ranked (last : Nat) (blocks : List Block) :
    (ranked last blocks).map Prod.snd = blocks := by
  induction blocks generalizing last with
  | nil => rfl
  | cons b blocks ih => rw [ranked, List.map_cons, ih]

namespace Document

variable (d : Document)

/-- The blocks of a document that have a header, in the order of their ranks. -/
def headed : List Block :=
  ((ranked 0 (blocksOf [] d.entries)).mergeSort fun a b => decide (a.1 ≤ b.1)).map Prod.snd

lemma blocks_eq : d.blocks = ⟨none, false, {}, Entries.lines d.entries⟩ :: d.headed := by
  unfold blocks headed
  dsimp only
  rw [ranked]
  have hle : ∀ a b c : Nat × Block, decide (a.1 ≤ b.1) = true → decide (b.1 ≤ c.1) = true →
      decide (a.1 ≤ c.1) = true := by
    intro a b c hab hbc
    simp only [decide_eq_true_eq] at hab hbc ⊢
    omega
  have htotal : ∀ a b : Nat × Block, (decide (a.1 ≤ b.1) || decide (b.1 ≤ a.1)) = true := by
    intro a b
    simp only [Bool.or_eq_true, decide_eq_true_eq]
    omega
  obtain ⟨l₁, l₂, hsorted, hrest, hbefore⟩ := List.mergeSort_cons hle htotal
    (0, ⟨none, false, {}, Entries.lines d.entries⟩) (ranked 0 (blocksOf [] d.entries))
  -- nothing has a rank below that of the entries of the document itself
  have hnil : l₁ = [] := by
    refine List.eq_nil_iff_forall_not_mem.mpr fun b hb => ?_
    simpa using hbefore b hb
  subst hnil
  rw [List.nil_append] at hsorted hrest
  change ((((0 : Nat), (⟨none, false, {}, Entries.lines d.entries⟩ : Block)) ::
    ranked 0 (blocksOf [] d.entries)).mergeSort _).map Prod.snd = _
  rw [hsorted, hrest]
  rfl

lemma perm_headed : d.headed.Perm (blocksOf [] d.entries) := by
  have h := (List.mergeSort_perm (ranked 0 (blocksOf [] d.entries))
    fun a b => decide (a.1 ≤ b.1)).map Prod.snd
  rwa [map_snd_ranked] at h

/-- A document is printed as its statements, with what stands at its end. -/
lemma write_eq : d.write = String.join (d.statements.map Statement.text) ++ d.after := by
  have hpaths : ∀ b ∈ d.headed, b.path.isSome :=
    fun b hb => isSome_path_of_mem_blocksOf (d.perm_headed.subset hb)
  unfold write statements layout
  rw [blocks_eq, Block.writeAll]
  dsimp only
  rw [Block.writeAll_eq hpaths, List.map_append, String.join_append, join_lines, Block.body,
    Bool.true_and, List.isEmpty_map]
  rfl

end Document

/-! ### Places -/

/-- A stanza as the reader of documents puts it in. -/
def Stanza.section (s : Stanza) : Section where
  path := s.path
  repeated := s.repeated
  head := s.head
  body := s.lines.map Line.member

/-- A line at a place. -/
def Line.placed (place : Nat) (l : Line) : Line :=
  { l with path := { l.path with key := { l.path.key with place := some place } } }

/-- Lines at the places from some number on. -/
def placedLines (place : Nat) : List Line → List Line
  | [] => []
  | l :: rest => l.placed place :: placedLines (place + 1) rest

/-- Stanzas at the places from some number on, which their headers share with their lines. -/
def Stanza.placed (first : Bool) (place : Nat) : List Stanza → List Stanza
  | [] => []
  | s :: rest =>
    { s with
      head := { place := some place
                around := some (s.head.around.getD ⟨if first then "" else "\n", ""⟩) }
      lines := placedLines (place + 1) s.lines } ::
      Stanza.placed false (place + 1 + s.lines.length) rest

/-- A line that tells what stands around its parts. -/
structure Line.IsPrinted (l : Line) : Prop where
  outer : l.path.key.outer.isSome
  around : l.around.isSome

lemma Line.isPrinted_printed (l : Line) : l.printed.IsPrinted := ⟨rfl, rfl⟩

lemma sections_lines {lines : List Line} (h : ∀ l ∈ lines, l.IsPrinted) (place : Nat)
    (more : List Statement) :
    sections ((lines.map Line.statement ++ more).zipIdx place) =
      ((placedLines place lines).map Line.member ++
          (sections (more.zipIdx (place + lines.length))).1,
        (sections (more.zipIdx (place + lines.length))).2) := by
  induction lines generalizing place with
  | nil => rfl
  | cons l lines ih =>
    obtain ⟨hl, hlines⟩ := List.forall_mem_cons.mp h
    obtain ⟨⟨parents, name, raw, inner, outer, old⟩, literal, around⟩ := l
    obtain ⟨⟨before, after⟩, rfl⟩ := Option.isSome_iff_exists.mp hl.outer
    obtain ⟨around, rfl⟩ := Option.isSome_iff_exists.mp hl.around
    have hplace : place + (lines.length + 1) = place + 1 + lines.length := by omega
    rw [List.map_cons, List.cons_append, List.zipIdx_cons, Line.statement, sections, ih hlines,
      List.length_cons, hplace]
    simp [placedLines, Line.placed, Line.member]

/-- The statements of lines and stanzas are read as those lines and stanzas in their places. -/
lemma sections_statements {lines : List Line} {stanzas : List Stanza}
    (hlines : ∀ l ∈ lines, l.IsPrinted) (hstanzas : ∀ s ∈ stanzas, ∀ l ∈ s.lines, l.IsPrinted)
    (first : Bool) (place : Nat) :
    sections ((lines.map Line.statement ++ Stanza.statements first stanzas).zipIdx place) =
      ((placedLines place lines).map Line.member,
        (Stanza.placed first (place + lines.length) stanzas).map Stanza.section) := by
  induction stanzas generalizing lines first place with
  | nil =>
    have h := sections_lines hlines place []
    rw [Stanza.statements, h]
    simp [sections, Stanza.placed]
  | cons s stanzas ih =>
    obtain ⟨hs, hmore⟩ := List.forall_mem_cons.mp hstanzas
    rw [sections_lines hlines, Stanza.statements, List.zipIdx_cons, Stanza.header, sections,
      ih hs hmore]
    simp [Stanza.placed, Stanza.section]

end CrudScaffold.Toml
