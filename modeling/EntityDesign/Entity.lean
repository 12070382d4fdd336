import EntityDesign.Identifier
import EntityDesign.Signature

/-! Entities: named record shapes with columns and the queries that fill them. -/
namespace EntityDesign

/-- A typed column declared on an entity. -/
structure Property where
  name : String
  hostType : String
  dbType : String
  deriving DecidableEq, Repr

namespace Property

/-- The property that describes a column exactly. -/
def ofColumn (c : Column) : Property := ⟨c.name, c.hostType, c.dbType⟩

def isNullable (p : Property) : Bool := HostName.isNullable p.hostType

end Property

/-- A command bound to an entity. -/
structure Query where
  name : String
  command : String
  kind : CommandKind
  execution : Execution
  parameters : List Parameter := []
  /-- The last analysis failed or its result no longer fits the entity. Stored. -/
  showError : Bool := false
  /-- The last analysis succeeded. Not stored. -/
  showOk : Bool := false
  /-- Not stored. -/
  isSelected : Bool := false
  deriving DecidableEq, Repr

namespace Query

/-- A query named by the identifier made from `name`. -/
def named (name command : String) (kind : CommandKind) (execution : Execution) : Query :=
  { name := Identifier.sanitize name, command, kind, execution }

def isReader (q : Query) : Bool := q.execution == .reader

def approve (q : Query) : Query := { q with showError := false, showOk := true }

def flag (q : Query) : Query := { q with showError := true, showOk := false }

/-- The query without its presentation flags. -/
def stored (q : Query) : Query := { q with showOk := false, isSelected := false }

end Query

/-- Why an edit is refused. -/
inductive EditError where
  | duplicateEntity (name : String)
  | duplicateQuery (entity query : String)
  | entityNotFound (name : String)
  | queryNotFound (entity query : String)
  deriving DecidableEq, Repr

def EditError.message : EditError → String
  | duplicateEntity name => "an entity named '" ++ name ++ "' already exists"
  | duplicateQuery entity query =>
    "entity '" ++ entity ++ "' already has a query named '" ++ query ++ "'"
  | entityNotFound name => "entity not found: " ++ name
  | queryNotFound entity query => "query '" ++ query ++ "' not found in entity '" ++ entity ++ "'"

/-- Renames something in place, where `index?` finds it by its name and `put` gives it the new one.
Nothing if the new identifier is its name already or is taken, or if there is no such thing. -/
def rename {α : Type} (index? : α → String → Option Nat) (put : α → Nat → String → α)
    (current new : String) : StateM α Bool := do
  let a ← get
  let name := Identifier.sanitize new
  if name = current ∨ (index? a name).isSome then return false
  else
    match index? a current with
    | none => return false
    | some i =>
      set (put a i name)
      return true

/-- A named record shape. -/
structure Entity where
  name : String
  x : Int32 := 0
  y : Int32 := 0
  properties : List Property := []
  queries : List Query := []
  deriving DecidableEq, Repr

namespace Entity

/-- An empty entity named by the identifier made from `name`. -/
def named (name : String) : Entity := { name := Identifier.sanitize name }

def queryIndex? (e : Entity) (name : String) : Option Nat := e.queries.findIdx? (·.name == name)

def query? (e : Entity) (name : String) : Option Query := e.queries.find? (·.name == name)

def readers (e : Entity) : List Query := e.queries.filter (·.isReader)

def hasReader (e : Entity) : Bool := e.queries.any (·.isReader)

/-- Without a reader the columns mean nothing. -/
def dropOrphanedColumns (e : Entity) : Entity :=
  if e.hasReader then e else { e with properties := [] }

def modifyQuery (e : Entity) (index : Nat) (f : Query → Query) : Entity :=
  { e with queries := e.queries.modify index f }

/-! Edits in place result in an answer and leave an entity, also where they are refused. -/
namespace InPlace

/-- Appends a query whose name is free. -/
def addQuery (q : Query) : StateM Entity (Except EditError Unit) := do
  let e ← get
  if (e.queryIndex? q.name).isSome then return .error (.duplicateQuery e.name q.name)
  else
    modify fun e => { e with queries := e.queries ++ [q] }
    return .ok ()

/-- Takes out the query at an index, and the columns with the last reader. -/
def removeQuery (index : Nat) : StateM Entity (Option Query) := do
  match (← get).queries[index]? with
  | none => return none
  | some q =>
    modify fun e => { e with queries := e.queries.eraseIdx index }
    modify dropOrphanedColumns
    return some q

def renameQuery (current new : String) : StateM Entity Bool :=
  rename queryIndex? (fun e i name => e.modifyQuery i fun q => { q with name }) current new

end InPlace

/-- The entity with one more query. -/
def addQuery (e : Entity) (q : Query) : Except EditError Entity :=
  let (result, e) := ((InPlace.addQuery q).run e).run
  result.map fun _ => e

/-- A query, and the entity without it. -/
def removeQuery (e : Entity) (index : Nat) : Option (Query × Entity) :=
  let (removed, e) := ((InPlace.removeQuery index).run e).run
  removed.map (·, e)

/-- The entity with a query under another name. -/
def renameQuery (e : Entity) (current new : String) : Option Entity :=
  let (renamed, e) := ((InPlace.renameQuery current new).run e).run
  if renamed then some e else none

/-- The entity without the presentation flags of its queries. -/
def stored (e : Entity) : Entity := { e with queries := e.queries.map (·.stored) }

end Entity
end EntityDesign
