import CrudScaffold.Event
import CrudScaffold.Naming
import CrudScaffold.Snapshot.Basic

/-!
# Names of classes

Every class of a diagram has one type name, found by its id. A class whose name has no words is
called `Entity<N>` after its position, counted from one. Of several classes with one id the last
one names it.
-/

namespace CrudScaffold

open Naming

/-- The name of the class at position `i`, counted from zero. -/
def ClassDef.resolvedName (c : ClassDef) (i : Nat) : String :=
  let name := typeName c.name
  if name.isEmpty then "Entity" ++ toString (i + 1) else name

/-- Type names by class id, in the order of the diagram. -/
structure ClassNames where
  entries : List (String × String)
deriving Repr, DecidableEq

namespace ClassNames

/-- The names of the classes of a diagram. -/
def ofSnapshot (s : Snapshot) : ClassNames :=
  ⟨s.classes.mapIdx fun i c => (c.id, c.resolvedName i)⟩

/-- The type name of a class. -/
def typeName? (names : ClassNames) (id : String) : Option String :=
  names.entries.reverse.lookup id

/-- The diagram has a class with the id. -/
def contains (names : ClassNames) (id : String) : Bool := (names.typeName? id).isSome

/-- The classes that had to be named by their position. -/
def notices (s : Snapshot) : List Event :=
  (s.classes.mapIdx fun i c =>
    if (typeName c.name).isEmpty then [Event.unusableClassName c.id c.name (c.resolvedName i)]
    else []).flatten

end ClassNames

end CrudScaffold
