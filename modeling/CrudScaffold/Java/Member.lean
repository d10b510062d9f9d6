import CrudScaffold.Java.Source
import CrudScaffold.Naming

/-!
# Members

A member is a private field of a generated class. It is read and written through one method each,
named after the field.
-/

namespace CrudScaffold

open Naming

/-- A typed private field. -/
structure Member where
  type : String
  name : String
deriving Repr, DecidableEq, Inhabited

namespace Member

/-- The declaration of a field. -/
def declaration (m : Member) : String := s!"private {m.type} {m.name};"

/-- The declaration of a field that holds a collection from the start. -/
def declarationWith (m : Member) (collection : String) : String :=
  s!"private {m.type} {m.name} = new {collection}<>();"

/-- The method that reads a field. -/
def reader (m : Member) : Code :=
  .braces s!"public {m.type} {getter m.name}()" [.line s!"return {m.name};"]

/-- The method that writes a field. -/
def writer (m : Member) : Code :=
  .braces s!"public void {setter m.name}({m.type} {m.name})" [.line s!"this.{m.name} = {m.name};"]

/-- Both methods of a field, each after a blank line. -/
def accessors (m : Member) : List Code := [.blank, m.reader, .blank, m.writer]

end Member

end CrudScaffold
