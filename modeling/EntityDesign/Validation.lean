import EntityDesign.Design

/-! Structural problems of a design. A design read from a document need not keep the rules that
editing keeps; all problems are reported. -/
namespace EntityDesign

inductive Problem where
  | emptyEntityName
  | duplicateEntity (name : String)
  | unsafeEntityName (name : String)
  | duplicateProperty (entity property : String)
  | unknownDbType (entity property dbType : String)
  | duplicateQuery (entity query : String)
  | unsafeQueryName (entity query : String)
  | columnsWithoutReader (entity : String)
  deriving DecidableEq, Repr

namespace Problem

def message : Problem → String
  | emptyEntityName => "entity name cannot be empty"
  | duplicateEntity name => "duplicate entity: " ++ name
  | unsafeEntityName name => "entity name is not a valid identifier: " ++ name
  | duplicateProperty entity property =>
    "duplicate column '" ++ property ++ "' in entity '" ++ entity ++ "'"
  | unknownDbType entity property dbType =>
    "column '" ++ property ++ "' in entity '" ++ entity ++ "' has unknown db type '" ++ dbType ++
      "'"
  | duplicateQuery entity query =>
    "duplicate query '" ++ query ++ "' in entity '" ++ entity ++ "'"
  | unsafeQueryName entity query =>
    "query name in entity '" ++ entity ++ "' is not a valid identifier: " ++ query
  | columnsWithoutReader entity =>
    "entity '" ++ entity ++ "' declares columns but has no reader query"

end Problem

namespace Property

/-- The problems of properties that follow properties with the names in `seen`. -/
def problems (entity : String) (seen : List String) : List Property → List Problem
  | [] => []
  | p :: ps =>
    (if p.name ∈ seen then [.duplicateProperty entity p.name] else []) ++
    (if (DbType.read p.dbType).isOk then [] else [.unknownDbType entity p.name p.dbType]) ++
    problems entity (p.name :: seen) ps

end Property

namespace Query

/-- The problems of queries that follow queries with the names in `seen`. -/
def problems (entity : String) (seen : List String) : List Query → List Problem
  | [] => []
  | q :: qs =>
    (if q.name ∈ seen then [.duplicateQuery entity q.name] else []) ++
    (if q.name = "" ∨ Identifier.sanitize q.name ≠ q.name then [.unsafeQueryName entity q.name]
      else []) ++
    problems entity (q.name :: seen) qs

end Query

namespace Entity

/-- The problems inside an entity. -/
def problems (e : Entity) : List Problem :=
  Property.problems e.name [] e.properties ++ Query.problems e.name [] e.queries ++
    if e.properties ≠ [] ∧ !e.hasReader then [.columnsWithoutReader e.name] else []

/-- The problems of entities that follow entities with the names in `seen`. What is inside a
nameless entity is not looked at. -/
def listProblems (seen : List String) : List Entity → List Problem
  | [] => []
  | e :: es =>
    if e.name = "" then .emptyEntityName :: listProblems seen es
    else
      (if e.name ∈ seen then [.duplicateEntity e.name] else []) ++
      (if Identifier.sanitize e.name ≠ e.name then [.unsafeEntityName e.name] else []) ++
      e.problems ++ listProblems (e.name :: seen) es

end Entity

/-- All problems of a design, entity by entity. -/
def Design.problems (d : Design) : List Problem := Entity.listProblems [] d.entities

end EntityDesign
