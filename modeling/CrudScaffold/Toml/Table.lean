import CrudScaffold.Toml.Key
import CrudScaffold.Toml.Number

/-!
# Tables

A table is a list of entries. An entry is a value, a table, or a list of tables. Tables come into
being in three ways: a header names one, a header names a table inside one, or a path of keys in
front of a value goes through one. How a table came into being decides what may be added to it
later, and how it is printed.
-/

namespace CrudScaffold.Toml

/-- A value with the text it is written as. -/
structure Literal where
  value : Value
  text : String
deriving Repr, Inhabited

/-- What is known of a table besides its entries. -/
structure Head where
  /-- No header of its own names the table. -/
  implicit : Bool := false
  /-- The table is there for the keys of a path. -/
  dotted : Bool := false
  /-- The rank of its header among the written ones. -/
  place : Option Nat := none
  /-- What stands around its header, if it was ever written. -/
  around : Option Around := none
deriving Repr, Inhabited

/-- What a key names. -/
inductive Item
  | value (literal : Literal) (around : Option Around)
  | table (head : Head) (entries : List (Key × Item))
  | tables (members : List (Head × List (Key × Item)))
deriving Repr, Inhabited

/-- The entries of a table. -/
abbrev Entries := List (Key × Item)

namespace Entries

/-- The item of a name. -/
def get? (name : String) : Entries → Option Item
  | [] => none
  | (key, item) :: rest => if key.name = name then some item else get? name rest

/-- Removes the item of a name. -/
def erase (name : String) : Entries → Entries
  | [] => []
  | (key, item) :: rest => if key.name = name then rest else (key, item) :: erase name rest

/-- Puts an item under a name. A key that is there stays as it is; a new one goes to the end. -/
def set (key : Key) (item : Item) : Entries → Entries
  | [] => [(key, item)]
  | (known, old) :: rest =>
    if known.name = key.name then (known, item) :: rest else (known, old) :: set key item rest

/-- Changes the item of a name. The key of an item that is there stays as it is; a new item goes
to the end. -/
def alter? (key : Key) (f : Option Item → Option Item) : Entries → Option Entries
  | [] => do return [(key, ← f none)]
  | (known, item) :: rest =>
    if known.name = key.name then do return (known, ← f (some item)) :: rest
    else do return (known, item) :: (← alter? key f rest)

/-- Puts an item at the end under a new name. -/
def add? (key : Key) (item : Item) (entries : Entries) : Option Entries :=
  alter? key (fun | none => some item | some _ => none) entries

/-- Changes the entries of the table that a path leads to. Missing tables come into being on the
way, and the last member stands for a list of tables. With `dotted` a table that has a header of
its own is not entered. -/
def within? (dotted : Bool) :
    List Key → (Head → Entries → Option Entries) → Head → Entries → Option Entries
  | [], f, head, entries => f head entries
  | key :: path, f, _, entries =>
    entries.alter? key fun
      | none =>
        let head : Head := { implicit := true, dotted }
        do return .table head (← within? dotted path f head [])
      | some (.table head inner) =>
        if dotted && !head.implicit then none
        else do return .table head (← within? dotted path f head inner)
      | some (.tables members) => do
        let (head, inner) ← members.getLast?
        return .tables (members.dropLast ++ [(head, ← within? dotted path f head inner)])
      | some (.value ..) => none

/-- Puts a value under a path of keys. -/
def put? (path : Path) (item : Item) (entries : Entries) : Option Entries :=
  within? true path.parents
    (fun head inner =>
      if head.dotted = path.parents.isEmpty then none else inner.add? path.key item)
    {} entries

end Entries

/-! ### Contents -/

mutual

/-- The value of an item. -/
def Item.toValue : Item → Value
  | .value literal _ => literal.value
  | .table _ entries => .table (Entries.toValues entries)
  | .tables members => .list (memberValues members)

/-- The values of entries by their names. -/
def Entries.toValues : List (Key × Item) → List (String × Value)
  | [] => []
  | (key, item) :: rest => (key.name, item.toValue) :: Entries.toValues rest

/-- The values of the members of a list of tables. -/
def memberValues : List (Head × List (Key × Item)) → List Value
  | [] => []
  | (_, entries) :: rest => .table (Entries.toValues entries) :: memberValues rest

end

/-! ### Lines -/

/-- A value with the path that it is written under. -/
structure Line where
  path : Path
  literal : Literal
  around : Option Around
deriving Repr, Inhabited

mutual

/-- The lines of an item: its own for a value, those of its entries for a table that is there for
the keys of a path, none for any other. -/
def Item.lines (parents : List Key) (key : Key) : Item → List Line
  | .value literal around => [⟨⟨parents, key⟩, literal, around⟩]
  | .table head entries => if head.dotted then linesOf (parents ++ [key]) entries else []
  | .tables _ => []

/-- The lines of entries in the order of their keys. -/
def linesOf (parents : List Key) : List (Key × Item) → List Line
  | [] => []
  | (key, item) :: rest => item.lines parents key ++ linesOf parents rest

end

/-- One line stands in front of another. Lines that were never written come last. -/
def Line.before (a b : Line) : Bool :=
  match a.path.key.place, b.path.key.place with
  | some i, some j => i ≤ j
  | some _, none => true
  | none, some _ => false
  | none, none => true

/-- The lines of a table in the order they are printed. -/
def Entries.lines (entries : Entries) : List Line := (linesOf [] entries).mergeSort Line.before

/-- A line as it is written. -/
def Line.write (l : Line) (standardKey standardValue : Around) : String :=
  let around := l.around.getD standardValue
  l.path.write standardKey ++ "=" ++ around.before ++ l.literal.text ++ around.after

end CrudScaffold.Toml
