import CrudScaffold.Archive.Words

/-!
# Inflating

Reads compressed data: stored blocks, and blocks of symbols under prefix codes that are fixed or
given in the block. A symbol is a byte or a reference to bytes that were written before. What has
been written when the data turn out to be unfinished or damaged is kept.
-/

namespace CrudScaffold.Inflate

/-- Why compressed data cannot be read on. -/
inductive Fault
  /-- The data end too early. -/
  | unfinished
  /-- The data break a rule. -/
  | damaged
deriving Repr, DecidableEq

/-! ### Bits -/

/-- Bytes of which the first `taken` bits are taken, low bits first. -/
structure Bits where
  bytes : Bytes
  taken : Nat := 0
deriving Repr

namespace Bits

/-- Takes a bit. -/
def next (b : Bits) : Except Fault (Bool × Bits) :=
  match b.bytes with
  | [] => .error .unfinished
  | x :: rest =>
    let after := if b.taken = 7 then { bytes := rest } else { b with taken := b.taken + 1 }
    .ok (x.toNat.testBit b.taken, after)

/-- Takes a number of `count` bits, the lowest first. -/
def number : Nat → Bits → Except Fault (Nat × Bits)
  | 0, b => .ok (0, b)
  | count + 1, b => do
    let (bit, b) ← b.next
    let (n, b) ← number count b
    return (bit.toNat + 2 * n, b)

/-- The bytes that are not begun. -/
def align (b : Bits) : Bytes := if b.taken = 0 then b.bytes else b.bytes.drop 1

end Bits

/-! ### Prefix codes -/

/-- A prefix code as a tree of symbols. -/
inductive Code
  | none
  | symbol (n : Nat)
  | node (zero one : Code)
deriving Repr, Inhabited

namespace Code

/-- Adds a symbol under a word. -/
def add (n : Nat) : List Bool → Code → Code
  | [], _ => symbol n
  | bit :: word, code =>
    let (zero, one) := match code with
      | node zero one => (zero, one)
      | _ => (none, none)
    if bit then node zero (add n word one) else node (add n word zero) one

/-- The word of a number with `length` bits, the highest first. -/
def word (length n : Nat) : List Bool := (List.range length).reverse.map n.testBit

/-- Reads a symbol. -/
def read : Code → Bits → Except Fault (Nat × Bits)
  | none, _ => .error .damaged
  | symbol n, b => .ok (n, b)
  | node zero one, b => do
    let (bit, b) ← b.next
    if bit then read one b else read zero b

/-- The symbols of a list of word lengths, shorter words first. -/
def sorted (lengths : List Nat) : List (Nat × Nat) :=
  (List.range 15).flatMap fun l =>
    lengths.zipIdx.filter fun (length, _) => length = l + 1

/-- Gives words to symbols in order: each word is the next one after the last, filled up with
zeros where words get longer. -/
def assign (next last : Nat) (code : Code) : List (Nat × Nat) → Code
  | [] => code
  | (length, n) :: rest =>
    let value := next <<< (length - last)
    assign (value + 1) length (code.add n (word length value)) rest

/-- The words of the lengths fill the code exactly, in units of the longest words. -/
def isComplete (lengths : List Nat) : Bool :=
  (lengths.filter (0 < ·)).foldl (fun n l => n + (1 <<< (15 - l))) 0 = 1 <<< 15

/-- The code of a list of word lengths. It has to be complete, unless `lenient` allows a code
with a single word or none. -/
def ofLengths? (lenient : Bool) (lengths : List Nat) : Except Fault Code :=
  if isComplete lengths || (lenient && (lengths.countP (0 < ·)) ≤ 1) then
    .ok (assign 0 0 none (sorted lengths))
  else .error .damaged

end Code

/-- The two codes of a block: bytes and lengths, and distances. -/
structure Codes where
  literal : Code
  distance : Code
deriving Inhabited

/-- The word lengths of the fixed code of bytes and lengths. -/
def fixedLiteralLengths : List Nat :=
  List.replicate 144 8 ++ List.replicate 112 9 ++ List.replicate 24 7 ++ List.replicate 8 8

/-- The codes that need not be given. -/
def fixedCodes : Codes where
  literal := .assign 0 0 .none (Code.sorted fixedLiteralLengths)
  distance := .assign 0 0 .none (Code.sorted (List.replicate 32 5))

/-- The order in which the lengths of the code of lengths are given. -/
def lengthOrder : List Nat := [16, 17, 18, 0, 8, 7, 9, 6, 10, 5, 11, 4, 12, 3, 13, 2, 14, 1, 15]

/-- Reads some numbers of three bits. -/
def shortNumbers : Nat → Bits → Except Fault (List Nat × Bits)
  | 0, b => .ok ([], b)
  | count + 1, b => do
    let (n, b) ← b.number 3
    let (rest, b) ← shortNumbers count b
    return (n :: rest, b)

/-- Reads `count` word lengths behind those in `before`, the last of which comes first. -/
def wordLengths (code : Code) (count : Nat) : Nat → List Nat → Bits →
    Except Fault (List Nat × Bits)
  | 0, _, _ => .error .damaged
  | fuel + 1, before, b =>
    if count < before.length then .error .damaged
    else if before.length = count then .ok (before.reverse, b)
    else do
      let (n, b) ← code.read b
      if n < 16 then wordLengths code count fuel (n :: before) b
      else if n = 16 then
        match before with
        | [] => .error .damaged
        | last :: _ =>
          let (times, b) ← b.number 2
          wordLengths code count fuel (List.replicate (times + 3) last ++ before) b
      else if n = 17 then
        let (times, b) ← b.number 3
        wordLengths code count fuel (List.replicate (times + 3) 0 ++ before) b
      else
        let (times, b) ← b.number 7
        wordLengths code count fuel (List.replicate (times + 11) 0 ++ before) b

/-- Reads the codes that a block gives. -/
def givenCodes (b : Bits) : Except Fault (Codes × Bits) := do
  let (literals, b) ← b.number 5
  let (distances, b) ← b.number 5
  let (lengths, b) ← b.number 4
  if 29 < literals ∨ 29 < distances then throw .damaged
  let (given, b) ← shortNumbers (lengths + 4) b
  let code ← Code.ofLengths? false
    ((List.range 19).map fun n => ((lengthOrder.zip given).lookup n).getD 0)
  let count := literals + 257 + (distances + 1)
  let (all, b) ← wordLengths code count (count + 1) [] b
  let literal ← Code.ofLengths? true (all.take (literals + 257))
  let distance ← Code.ofLengths? true (all.drop (literals + 257))
  return (⟨literal, distance⟩, b)

/-! ### Blocks -/

/-- The first lengths of the length symbols, and how many bits are added to each. -/
def lengthBases : List (Nat × Nat) :=
  [(3, 0), (4, 0), (5, 0), (6, 0), (7, 0), (8, 0), (9, 0), (10, 0), (11, 1), (13, 1), (15, 1),
    (17, 1), (19, 2), (23, 2), (27, 2), (31, 2), (35, 3), (43, 3), (51, 3), (59, 3), (67, 4),
    (83, 4), (99, 4), (115, 4), (131, 5), (163, 5), (195, 5), (227, 5), (258, 0)]

/-- The first distances of the distance symbols, and how many bits are added to each. -/
def distanceBases : List (Nat × Nat) :=
  [(1, 0), (2, 0), (3, 0), (4, 0), (5, 1), (7, 1), (9, 2), (13, 2), (17, 3), (25, 3), (33, 4),
    (49, 4), (65, 5), (97, 5), (129, 6), (193, 6), (257, 7), (385, 7), (513, 8), (769, 8),
    (1025, 9), (1537, 9), (2049, 10), (3073, 10), (4097, 11), (6145, 11), (8193, 12), (12289, 12),
    (16385, 13), (24577, 13)]

/-- Reads what a symbol of a list of bases stands for. -/
def measure (bases : List (Nat × Nat)) (n : Nat) (b : Bits) : Except Fault (Nat × Bits) :=
  match bases[n]? with
  | none => .error .damaged
  | some (base, extra) => do
    let (more, b) ← b.number extra
    return (base + more, b)

/-- Writes `length` bytes again that were written `distance` bytes ago. Before the start there
are zeros. -/
def repeatBytes (distance : Nat) : Nat → Array UInt8 → Array UInt8
  | 0, out => out
  | length + 1, out =>
    let b := if distance ≤ out.size then out[out.size - distance]?.getD 0 else 0
    repeatBytes distance length (out.push b)

/-- Reads the length and the distance of a reference. -/
def reference (codes : Codes) (n : Nat) (b : Bits) : Except Fault (Nat × Nat × Bits) := do
  let (length, b) ← measure lengthBases (n - 257) b
  let (n, b) ← codes.distance.read b
  let (distance, b) ← measure distanceBases n b
  return (length, distance, b)

/-- Reads symbols up to the end of a block. Every symbol takes a bit, which bounds the steps. -/
def symbols (codes : Codes) : Nat → Bits → Array UInt8 → Array UInt8 × Except Fault Bits
  | 0, _, out => (out, .error .unfinished)
  | fuel + 1, b, out =>
    match codes.literal.read b with
    | .error e => (out, .error e)
    | .ok (n, b) =>
      if n < 256 then symbols codes fuel b (out.push n.toUInt8)
      else if n = 256 then (out, .ok b)
      else match reference codes n b with
        | .error e => (out, .error e)
        | .ok (length, distance, b) =>
          symbols codes fuel b (repeatBytes distance length out)

/-- Reads a stored block. -/
def stored (b : Bytes) (out : Array UInt8) : Array UInt8 × Except Fault Bits :=
  if b.length < 4 then (out, .error .unfinished)
  else
    let length := Bytes.ofLowFirst (b.take 2)
    if length + Bytes.ofLowFirst (Bytes.slice b 2 2) ≠ 65535 then (out, .error .damaged)
    else
      let b := b.drop 4
      let out := out ++ b.take length
      if b.length < length then (out, .error .unfinished)
      else (out, .ok { bytes := b.drop length })

/-- Reads a block of some kind. -/
def block (fuel kind : Nat) (b : Bits) (out : Array UInt8) : Array UInt8 × Except Fault Bits :=
  match kind with
  | 0 => stored b.align out
  | 1 => symbols fixedCodes fuel b out
  | 2 => match givenCodes b with
    | .ok (codes, b) => symbols codes fuel b out
    | .error e => (out, .error e)
  | _ => (out, .error .damaged)

/-- Reads the mark of the last block and the kind of a block. -/
def blockHead (b : Bits) : Except Fault (Bool × Nat × Bits) := do
  let (last, b) ← b.next
  let (kind, b) ← b.number 2
  return (last, kind, b)

/-- Reads blocks up to the last one. -/
def blocks (size : Nat) : Nat → Bits → Array UInt8 → Array UInt8 × Except Fault Bytes
  | 0, _, out => (out, .error .unfinished)
  | fuel + 1, b, out =>
    match blockHead b with
    | .error e => (out, .error e)
    | .ok (last, kind, b) =>
      match block size kind b out with
      | (out, .error e) => (out, .error e)
      | (out, .ok b) => if last then (out, .ok b.align) else blocks size fuel b out

/-- The bytes that compressed data stand for, and what follows the data. -/
def inflate (b : Bytes) : Bytes × Except Fault Bytes :=
  let size := 8 * b.length + 1
  let (out, result) := blocks size size { bytes := b } #[]
  (out.toList, result)

end CrudScaffold.Inflate
