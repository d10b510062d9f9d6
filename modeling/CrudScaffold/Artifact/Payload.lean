import CrudScaffold.Artifact.Model

/-!
# Payloads

What travels through the routes of an entity: its attributes, never its relationship fields. The
request states what it requires of them and the response does not.
-/

namespace CrudScaffold

/-- A rule that a request states of a field. -/
inductive Constraint
  /-- A value must be there. -/
  | notNull
  /-- A text must be there and must not be blank. -/
  | notBlank
  /-- A text has a greatest length. -/
  | size (max : UInt32)
deriving Repr, DecidableEq

/-- A rule as it is written over a field. -/
def Constraint.annotationLine : Constraint → String
  | notNull => "@NotNull"
  | notBlank => "@NotBlank"
  | size max => s!"@Size(max = {max})"

namespace Attribute

/-- The constraints of an attribute. -/
def constraints (a : Attribute) : List Constraint :=
  (if a.isRequired then [if a.java.isText then .notBlank else .notNull] else []) ++
    a.textLimit.toList.map .size

/-- The imports that the constraints of an attribute need. -/
def constraintImports (a : Attribute) : List String :=
  (if a.isRequired then
    [if a.java.isText then "jakarta.validation.constraints.NotBlank"
      else "jakarta.validation.constraints.NotNull"]
  else []) ++
    if a.maxLength.isSome && a.java.isText then ["jakarta.validation.constraints.Size"] else []

end Attribute

/-- The two payloads of an entity. -/
inductive Payload
  | request
  | response
deriving Repr, DecidableEq

namespace Payload

/-- What the name of a payload ends in. -/
def ending : Payload → String
  | .request => "Request"
  | .response => "Response"

/-- The constraints that a payload states of an attribute. -/
def constraintsOn (p : Payload) (a : Attribute) : List Constraint :=
  match p with
  | .request => a.constraints
  | .response => []

end Payload

namespace Entity

/-- The imports of a payload. -/
def payloadImports (e : Entity) (p : Payload) : List String :=
  e.attributeImports ++
    match p with
    | .request => e.attributes.flatMap Attribute.constraintImports
    | .response => []

/-- The body of a payload. -/
def payloadBody (e : Entity) (p : Payload) : List Code :=
  e.attributes.flatMap (fun a =>
    declared ((p.constraintsOn a).map Constraint.annotationLine) a.member.declaration) ++
    e.attributes.flatMap fun a => a.member.accessors

/-- The file of a payload. -/
def payloadFile (e : Entity) (p : Payload) : List Code :=
  preamble (e.layerPackage "dto") (e.payloadImports p) ++
    [.braces s!"public class {e.typeName}{p.ending}" (e.payloadBody p)]

end Entity

end CrudScaffold
