import CrudScaffold.Archive.Gzip
import CrudScaffold.Archive.Tar.Writer

/-!
# Reading archives

An archive is read entry by entry up to its first block of zeros. An entry can carry the name or
the size of the next one. Plain files are kept and everything else is passed over.

Every step gives the rest of the archive behind the header it has read, so the archive gets
shorter from entry to entry.
-/

namespace CrudScaffold.Tar

/-- Why an archive cannot be read. -/
inductive Fault
  /-- The archive itself is at fault. -/
  | archive
  /-- The content of a file is at fault. -/
  | content (path : String)
deriving Repr, DecidableEq

/-! ### What entries say about the next one -/

/-- The lines of an extension up to the first empty one. -/
def extensionLines (current : Bytes) : Bytes → List Bytes
  | [] => if current.isEmpty then [] else [current]
  | b :: rest =>
    if b = 0x0A then if current.isEmpty then [] else current :: extensionLines [] rest
    else extensionLines (current ++ [b]) rest

/-- The number that decimal digits spell, which may have a sign. -/
def ofDecimal? (b : Bytes) : Option Nat := do
  let s ← Text.ofBytes? b
  let digits := match s.toList with
    | '+' :: digits => digits
    | digits => digits
  if digits.isEmpty || !digits.all Char.isDigit then none
  else
    let n := digits.foldl (fun n d => 10 * n + (d.toNat - '0'.toNat)) 0
    if n < Bytes.wordLimit then some n else none

/-- The key and the value of a line: a length, a key and a value. The length counts the whole line
with its end. -/
def keyValue? (line : Bytes) : Option (Bytes × Bytes) := do
  let length := line.takeWhile (· ≠ 0x20)
  let n ← ofDecimal? length
  if n ≠ line.length + 1 ∨ length.length = line.length then none
  else
    let rest := line.drop (length.length + 1)
    let key := rest.takeWhile (· ≠ 0x3D)
    if key.length = rest.length then none else some (key, rest.drop (key.length + 1))

/-- The name that an extension gives. Lines that cannot be read are passed over. -/
def extensionName? (extension : Bytes) : Option Bytes :=
  ((extensionLines [] extension).filterMap keyValue?).lookup (Text.bytes "path")

/-- The size that some lines of an extension give, if all lines before can be read. -/
def sizeOfLines? : List Bytes → Option Nat
  | [] => none
  | line :: rest => do
    let (key, value) ← keyValue? line
    if key = Text.bytes "size" then ofDecimal? value else sizeOfLines? rest

/-- The size that an extension gives. -/
def extensionSize? (extension : Bytes) : Option Nat := sizeOfLines? (extensionLines [] extension)

/-- What has been said about the next entry. -/
structure Announced where
  name : Option Bytes := none
  link : Bool := false
  extension : Option Bytes := none
deriving Repr

/-- Something has been said about the next entry. -/
def Announced.any (a : Announced) : Bool := a.name.isSome || a.link || a.extension.isSome

/-! ### Entries -/

/-- A header with the size of its entry and everything behind it. -/
structure Entry where
  header : Bytes
  size : Nat
  rest : Bytes
deriving Repr

/-- The size of an entry. An extension overrides the header, which still has to state one. -/
def entrySize? (a : Announced) (h : Bytes) : Option Nat := do
  let size ← size? h
  let size := (a.extension.bind extensionSize?).getD size
  if size + 511 < Bytes.wordLimit then some size else none

/-- The next entry of an archive, or none at its end. `sound` says that nothing is lost behind the
bytes that are given. -/
def nextEntry (sound : Bool) (a : Announced) (b : Bytes) : Except Fault (Option Entry) :=
  if b.isEmpty then if sound then .ok none else .error .archive
  else
    let h := b.take blockSize
    if h.length < blockSize then .error .archive
    else if h.all (· == 0) then .ok none
    else if agrees h then
      match entrySize? a h with
      | some size => .ok (some ⟨h, size, b.drop blockSize⟩)
      | none => .error .archive
    else .error .archive

/-- Passes over the content of an entry. -/
def skip (size : Nat) (b : Bytes) : Except Fault Bytes :=
  let n := blocksFor size
  if (b.take n).length < n then .error .archive else .ok (b.drop n)

/-- The name of an entry. -/
def entryName (a : Announced) (h : Bytes) : Bytes :=
  match a.name with
  | some name => if name.getLast? = some 0 then name.dropLast else name
  | none => ((a.extension.bind extensionName?).getD (name h))

/-- The content of an entry as a file. -/
def readFile (sound : Bool) (a : Announced) (e : Entry) : Except Fault File :=
  let path := Text.ofBytes (entryName a e.header)
  let content := e.rest.take e.size
  if content.length < e.size ∧ !sound then .error (.content path)
  else match Text.ofBytes? content with
    | some text => .ok ⟨path, text⟩
    | none => .error (.content path)

/-! ### Entries with holes -/

/-- A part of a file with holes: where it stands and how long it is. -/
def part (h : Bytes) (start : Nat) : Option (Option (Nat × Nat)) :=
  let offset := Bytes.slice h start 12
  let length := Bytes.slice h (start + 12) 12
  if offset.head? = some 0 ∨ length.head? = some 0 then some none
  else do
    let offset ← number? offset
    let length ← number? length
    return some (offset, length)

/-- Where a file with holes has been read up to, and how much of its content is left. -/
structure Progress where
  position : Nat
  left : Nat

/-- Takes in the parts at some places of a block. Parts come in order, begin at the start of a block
and do not hold more than the entry. -/
def takeParts (size : Nat) (block : Bytes) : List Nat → Progress → Option Progress
  | [], p => some p
  | start :: starts, p => do
    match ← part block start with
    | none => takeParts size block starts p
    | some (offset, length) =>
      if (length ≠ 0 ∧ (size - p.left) % blockSize ≠ 0) ∨ offset < p.position ∨
          Bytes.wordLimit ≤ offset + length ∨ p.left < length then none
      else takeParts size block starts ⟨offset + length, p.left - length⟩

/-- The places of four parts in a header. -/
def headerParts : List Nat := [386, 410, 434, 458]

/-- The places of the parts in a block behind a header. -/
def blockParts : List Nat := (List.range 21).map (24 * ·)

/-- Takes in the blocks of parts behind a header, as long as each announces another. -/
def takeBlocks (size : Nat) : Nat → Bool → Bytes → Progress → Option (Progress × Bytes)
  | _, false, b, p => some (p, b)
  | 0, true, _, _ => none
  | fuel + 1, true, b, p =>
    let block := b.take blockSize
    if block.length < blockSize then none
    else do
      let p ← takeParts size block blockParts p
      takeBlocks size fuel (block[504]? == some 1) (b.drop blockSize) p

/-- Checks an entry with holes and gives what follows its header. -/
def skipParts (e : Entry) : Except Fault Bytes :=
  let result := do
    if standard e.header ≠ .gnu then none
    let p ← takeParts e.size e.header headerParts ⟨0, e.size⟩
    let more := e.header[482]? == some 1
    let (p, rest) ← takeBlocks e.size e.rest.length more e.rest p
    let full ← number? (Bytes.slice e.header 483 12)
    if p.position = full ∧ p.left = 0 then some rest else none
  match result with
  | some rest => .ok rest
  | none => .error .archive

/-! ### Archives -/

/-- What an entry is there for. -/
inductive Role
  /-- It names the next entry. -/
  | nextName
  /-- It names what the next entry links to. -/
  | nextLink
  /-- It extends the header of the next entry. -/
  | nextExtension
  /-- It is a file that may have holes. -/
  | holes
  /-- It is a plain file. -/
  | plain
  /-- It is something else. -/
  | other
deriving Repr, DecidableEq

/-- The role of an entry. Old headers describe files alone. -/
def role (h : Bytes) : Role :=
  let k := kind h
  if k = 0 ∨ k = plainKind then .plain
  else if k = 0x53 then .holes
  else if standard h = .old then .other
  else if k = longNameKind then .nextName
  else if k = 0x4B then .nextLink
  else if k = 0x78 then .nextExtension
  else .other

/-- Takes in an entry that says something about the next one. Nothing can be said twice. -/
def announce (a : Announced) (e : Entry) : Except Fault Announced :=
  let content := e.rest.take e.size
  match role e.header with
  | .nextName => if a.name.isSome then .error .archive else .ok { a with name := some content }
  | .nextLink => if a.link then .error .archive else .ok { a with link := true }
  | .nextExtension =>
    if a.extension.isSome then .error .archive else .ok { a with extension := some content }
  | _ => .ok {}

/-- The file of an entry, if it is a plain one, and what follows its header. -/
def entryFile (sound : Bool) (a : Announced) (e : Entry) : Except Fault (List File × Bytes) :=
  match role e.header with
  | .plain => (readFile sound a e).map fun f => ([f], e.rest)
  | .holes => (skipParts e).map fun rest => ([], rest)
  | _ => .ok ([], e.rest)

/-- The files of an archive. Every entry takes a block, which bounds the steps. -/
def filesFrom (sound : Bool) : Nat → Announced → Bytes → Except Fault (List File)
  | 0, _, _ => .error .archive
  | fuel + 1, a, b => do
    match ← nextEntry sound a b with
    | none => if a.any then throw .archive else return []
    | some e =>
      let a' ← announce a e
      let (files, rest) ← entryFile sound a e
      let rest ← skip e.size rest
      let more ← filesFrom sound fuel a' rest
      return files ++ more

/-- The files of an archive in order. -/
def files (c : Gzip.Contents) : Except Fault (List File) :=
  filesFrom c.sound (c.bytes.length + 1) {} c.bytes

end CrudScaffold.Tar
