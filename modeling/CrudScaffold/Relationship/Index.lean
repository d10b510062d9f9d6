import CrudScaffold.Relationship.Basic

/-!
# The relationship index

The relationship fields of every class of a diagram, found by class id and listed in the order
of ids. The notices name relations that lead nowhere and fields that share a name.
-/

namespace CrudScaffold

/-- Relationship fields by class id. -/
structure RelationshipIndex where
  entries : List (String × List RelationshipField)
deriving Repr, DecidableEq

namespace RelationshipIndex

/-- Puts an entry in its place by id. An entry with the same id is replaced. -/
def insertEntry (id : String) (fields : List RelationshipField) :
    List (String × List RelationshipField) → List (String × List RelationshipField)
  | [] => [(id, fields)]
  | (id', fields') :: rest =>
    if id < id' then (id, fields) :: (id', fields') :: rest
    else if id = id' then (id, fields) :: rest
    else (id', fields') :: insertEntry id fields rest

/-- The index of a diagram. Its links are found once, and every class picks its fields. -/
def build (s : Snapshot) (names : ClassNames) : RelationshipIndex :=
  let links := Link.all s names
  ⟨s.classes.foldl
    (fun entries c => insertEntry c.id (Link.fieldsAmong names links c.id) entries) []⟩

/-- The fields of a class, none for an id that is not listed. -/
def fieldsFor (index : RelationshipIndex) (classId : String) : List RelationshipField :=
  (index.entries.lookup classId).getD []

/-- The fields that have the name of an earlier one. -/
def repeatedNames (classId : String) (seen : List String) : List RelationshipField → List Event
  | [] => []
  | f :: rest =>
    (if f.fieldName ∈ seen then [Event.repeatedRelationshipField classId f.fieldName] else []) ++
      repeatedNames classId (f.fieldName :: seen) rest

/-- The ends of relations that are not classes. -/
def danglingEnds (s : Snapshot) (names : ClassNames) : List Event :=
  s.relations.flatMap fun r =>
    ([r.sourceId, r.targetId].filter fun id => !names.contains id).map fun id =>
      Event.unknownEndpoint r.id id

/-- What there is to report about the relations of a diagram. -/
def notices (s : Snapshot) (names : ClassNames) : List Event :=
  let links := Link.all s names
  danglingEnds s names ++
    s.classes.flatMap fun c => repeatedNames c.id [] (Link.fieldsAmong names links c.id)

end RelationshipIndex

end CrudScaffold
