import CrudScaffold.Toml.Quoted

/-!
# Keys

A key is a word or a text in quotes. Keys stand in paths, with a dot and perhaps space between
them. Every key remembers how it is written, so that a document can be printed as it was.
-/

namespace CrudScaffold.Toml

/-- What is written in front of something and behind it. -/
structure Around where
  before : String
  after : String
deriving Repr, DecidableEq, Inhabited

/-- A key of a path. -/
structure Key where
  /-- The name that the key stands for. -/
  name : String
  /-- The key as it is written. -/
  raw : String
  /-- The space between the key and its neighbours in the path. -/
  inner : Around := ⟨"", ""⟩
  /-- What stands around the whole path that ends in the key, if it was ever written. -/
  outer : Option Around := none
  /-- The rank of the entry that the key names among the written ones. -/
  place : Option Nat := none
deriving Repr, DecidableEq, Inhabited

/-- A key that was never written. -/
def Key.ofWord (word : String) : Key := { name := word, raw := word }

/-- A character of a word. -/
def isWordChar (c : Char) : Bool := c.isAlphanum || c == '_' || c == '-'

/-- Reads a name. -/
def name? : Parser String
  | cs@('"' :: _) => (quotedLine? cs).map fun (s, rest) => (String.ofList s, rest)
  | cs@('\'' :: _) => (quotedLine? cs).map fun (s, rest) => (String.ofList s, rest)
  | cs =>
    match cs.takeWhile isWordChar with
    | [] => none
    | word => some (String.ofList word, cs.dropWhile isWordChar)

/-- Reads a key with the space around it. -/
def key? : Parser Key := fun cs => do
  let start := skipSpace cs
  let (name, stop) ← name? start
  let rest := skipSpace stop
  return ({ name, raw := written start stop, inner := ⟨written cs start, written stop rest⟩ }, rest)

/-- Reads the keys of a path. The number bounds how many there are. -/
def keys? : Nat → Parser (List Key)
  | 0 => fun _ => none
  | bound + 1 => fun cs => do
    let (key, rest) ← key? cs
    match rest with
    | '.' :: rest =>
      let (keys, rest) ← keys? bound rest
      return (key :: keys, rest)
    | rest => return ([key], rest)

/-- A path: the keys that lead to a table, and the key of an entry in it. -/
structure Path where
  parents : List Key
  key : Key
deriving Repr, Inhabited

/-- A path has at most this many keys. -/
def longestPath : Nat := 79

/-- The path of some keys. The space around the first and the last belongs to the whole path. -/
def Path.ofKeys? : List Key → Option Path
  | [] => none
  | [key] => some ⟨[], { key with inner := ⟨"", ""⟩, outer := some key.inner }⟩
  | first :: rest => do
    let last ← rest.getLast?
    return {
      parents := { first with inner := ⟨"", first.inner.after⟩ } :: rest.dropLast
      key := { last with
        inner := ⟨last.inner.before, ""⟩
        outer := some ⟨first.inner.before, last.inner.after⟩ } }

/-- Reads a path. -/
def path? : Parser Path := fun cs => do
  let (keys, rest) ← keys? longestPath cs
  return (← Path.ofKeys? keys, rest)

/-- A path as it is written, between what stands around it. -/
def Path.write (p : Path) (standard : Around) : String :=
  let outer := p.key.outer.getD standard
  let before := if p.parents.isEmpty then "" else p.key.inner.before
  outer.before ++
    String.join ((p.parents.zipIdx).map fun (k, i) =>
      (if i = 0 then "" else k.inner.before) ++ k.raw ++ k.inner.after ++ ".") ++
    before ++ p.key.raw ++ outer.after

end CrudScaffold.Toml
