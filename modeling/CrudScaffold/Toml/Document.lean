import CrudScaffold.Toml.Literal

/-!
# Setting documents

A document is a table: entries in front of the first header, and the tables that headers name. It
is read as a list of statements, and each section of it, a header with the entries under it, is
put into the table as a whole. What is written in front of a statement goes with the statement,
and what is written behind the last one stays at the end of the document.

Printing goes the other way. The blocks of a document are its tables in the order of their
headers. A table without a header of its own stands where the search for tables meets it.
-/

namespace CrudScaffold.Toml

/-! ### Statements -/

/-- A statement of a document with what is written in front of it. -/
inductive Statement
  | entry (before : String) (path : Path) (literal : Literal) (around : Around)
  | header (before : String) (repeated : Bool) (path : Path) (after : String)
deriving Repr, Inhabited

/-- Reads a header behind its first bracket. -/
def header? (before : String) : Parser Statement
  | '[' :: cs => do
    let (path, cs) ← path? cs
    match cs with
    | ']' :: ']' :: cs =>
      let (after, cs) ← lineRest? cs
      return (.header before true path after, cs)
    | _ => none
  | cs => do
    let (path, cs) ← path? cs
    match cs with
    | ']' :: cs =>
      let (after, cs) ← lineRest? cs
      return (.header before false path after, cs)
    | _ => none

/-- Reads an entry. -/
def assignment? (before : String) : Parser Statement := fun cs => do
  let (path, cs) ← path? cs
  match cs with
  | '=' :: cs =>
    let start := skipSpace cs
    let (literal, stop) ← literal? start
    let (after, rest) ← lineRest? stop
    return (.entry before path literal ⟨written cs start, after⟩, rest)
  | _ => none

/-- Reads the statements of a document and what is written behind the last one. -/
def statements? : Nat → List Char → Option (List Statement × String)
  | 0, _ => none
  | fuel + 1, cs =>
    match gap cs with
    | (before, []) => some ([], before)
    | (before, '[' :: cs) => do
      let (statement, rest) ← header? before cs
      let (statements, after) ← statements? fuel rest
      return (statement :: statements, after)
    | (before, cs) => do
      let (statement, rest) ← assignment? before cs
      let (statements, after) ← statements? fuel rest
      return (statement :: statements, after)

/-! ### Sections -/

/-- A header with the entries under it. -/
structure Section where
  path : Path
  repeated : Bool
  head : Head
  body : List (Path × Item)
deriving Repr, Inhabited

/-- The entries in front of the first header, and the sections. -/
def sections : List (Statement × Nat) → List (Path × Item) × List Section
  | [] => ([], [])
  | (.entry before path literal around, place) :: rest =>
    let (body, more) := sections rest
    let outer := path.key.outer.getD ⟨"", ""⟩
    let key := { path.key with outer := some { outer with before := before ++ outer.before }
                               place := some place }
    (({ path with key }, .value literal (some around)) :: body, more)
  | (.header before repeated path after, place) :: rest =>
    let (body, more) := sections rest
    ([], ⟨path, repeated, { place := some place, around := some ⟨before, after⟩ }, body⟩ :: more)

/-- Puts entries into a table one by one. -/
def Entries.putAll? (body : List (Path × Item)) (entries : Entries) : Option Entries :=
  body.foldlM (fun entries (path, item) => entries.put? path item) entries

/-- Puts a section beside other entries. A table that has come into being by headers of tables
inside it is continued, and moves to the end. -/
def Entries.addBeside? (s : Section) (entries : Entries) : Option Entries :=
  if s.repeated then do
    let body ← Entries.putAll? s.body []
    entries.alter? s.path.key fun
      | none => some (.tables [(s.head, body)])
      | some (.tables members) => some (.tables (members ++ [(s.head, body)]))
      | some _ => none
  else match entries.get? s.path.key.name with
    | none => do
      entries.add? s.path.key (.table s.head (← Entries.putAll? s.body []))
    | some (.table head known) =>
      if head.implicit && !head.dotted then do
        (entries.erase s.path.key.name).add? s.path.key
          (.table s.head (← Entries.putAll? s.body known))
      else none
    | some _ => none

/-- Puts a section where its header says. -/
def Entries.addSection? (entries : Entries) (s : Section) : Option Entries :=
  entries.within? false s.path.parents (fun _ inner => inner.addBeside? s) {}

/-! ### Documents -/

/-- A document: its entries and what is written at its end. -/
structure Document where
  entries : Entries := []
  after : String := ""
deriving Repr, Inhabited

namespace Document

/-- Drops the mark that a text may begin with to show its encoding. -/
def dropMark : List Char → List Char
  | '\uFEFF' :: cs => cs
  | cs => cs

/-- Reads a document. -/
def parse? (s : String) : Option Document := do
  let cs := dropMark s.toList
  let (statements, after) ← statements? (cs.length + 1) cs
  let (body, more) := sections (statements.zipIdx 1)
  let entries ← Entries.putAll? body []
  return { entries := ← more.foldlM Entries.addSection? entries, after }

/-- The values of a document by their names. -/
def values (d : Document) : List (String × Value) := Entries.toValues d.entries

end Document

/-! ### Printing -/

/-- A table with its lines. -/
structure Block where
  path : Option Path
  repeated : Bool
  head : Head
  lines : List Line
deriving Repr, Inhabited

mutual

/-- The blocks of an item. -/
def Item.blocks (parents : List Key) (key : Key) : Item → List Block
  | .value .. => []
  | .table head entries =>
    (if head.dotted then [] else [⟨some ⟨parents, key⟩, false, head, Entries.lines entries⟩]) ++
      blocksOf (parents ++ [key]) entries
  | .tables members => memberBlocks parents key members

/-- The blocks of entries in the order of their keys. -/
def blocksOf (parents : List Key) : List (Key × Item) → List Block
  | [] => []
  | (key, item) :: rest => item.blocks parents key ++ blocksOf parents rest

/-- The blocks of a list of tables. -/
def memberBlocks (parents : List Key) (key : Key) : List (Head × List (Key × Item)) → List Block
  | [] => []
  | (head, entries) :: rest =>
    [⟨some ⟨parents, key⟩, true, head, Entries.lines entries⟩] ++
      blocksOf (parents ++ [key]) entries ++ memberBlocks parents key rest

end

/-- Blocks with their ranks. A block without a place has the rank of the last one that had one. -/
def ranked (last : Nat) : List Block → List (Nat × Block)
  | [] => []
  | b :: rest =>
    let rank := b.head.place.getD last
    (rank, b) :: ranked rank rest

namespace Block

/-- The block has a header. -/
def hasHeader (b : Block) : Bool := b.repeated || !(b.head.implicit && b.lines.isEmpty)

/-- The header of a block. The first one has nothing in front of it and any other one has an
empty line, if it was never written. -/
def header (b : Block) (path : Path) (first : Bool) : String :=
  let around := b.head.around.getD ⟨if first then "" else "\n", ""⟩
  let name := path.write ⟨"", ""⟩
  around.before ++ (if b.repeated then "[[" ++ name ++ "]]" else "[" ++ name ++ "]") ++
    around.after ++ "\n"

/-- The lines of a block. -/
def body (b : Block) : String :=
  String.join (b.lines.map fun l => l.write ⟨"", " "⟩ ⟨" ", ""⟩ ++ "\n")

/-- Blocks one after the other. -/
def writeAll (first : Bool) : List Block → String
  | [] => ""
  | b :: rest =>
    match b.path with
    | none => b.body ++ writeAll (first && b.lines.isEmpty) rest
    | some path =>
      if b.hasHeader then b.header path first ++ b.body ++ writeAll false rest
      else writeAll first rest

end Block

namespace Document

/-- The blocks of a document in the order they are printed. -/
def blocks (d : Document) : List Block :=
  let all := ⟨none, false, {}, Entries.lines d.entries⟩ :: blocksOf [] d.entries
  ((ranked 0 all).mergeSort fun a b => decide (a.1 ≤ b.1)).map Prod.snd

/-- The text of a document. -/
def write (d : Document) : String := Block.writeAll true d.blocks ++ d.after

end Document

end CrudScaffold.Toml
