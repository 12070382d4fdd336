import EntityDesign.Entity
import EntityDesign.Registry

/-! A design: the entities of one document, with its connection and the size of its dialog. -/
namespace EntityDesign

/-- The connection a document was built against. -/
structure Connection where
  /-- A registry name, possibly dotted. -/
  name : String := ""
  /-- The connection string captured with the document. -/
  text : String := ""
  source : ConnectionSource := .settings
  deriving DecidableEq, Repr

/-- The last dotted segment of the name. -/
def Connection.lastSegment (c : Connection) : String :=
  String.ofList (c.name.toList.reverse.takeWhile (· != '.')).reverse

structure Design where
  entities : List Entity := []
  connection : Connection := {}
  dialogWidth : UInt32 := 406
  dialogHeight : UInt32 := 371
  /-- A connection string that wins over all others. Not stored. -/
  override : Option String := none
  deriving DecidableEq, Repr

namespace Design

def entityIndex? (d : Design) (name : String) : Option Nat :=
  d.entities.findIdx? (·.name == name)

def entity? (d : Design) (name : String) : Option Entity := d.entities.find? (·.name == name)

/-- The first entity of a name. -/
def findEntity (d : Design) (name : String) : Except EditError Entity :=
  match d.entity? name with
  | some e => .ok e
  | none => .error (.entityNotFound name)

/-- Puts a new value in the place of the first entity of a name. -/
def setEntity (d : Design) (name : String) (e : Entity) : Design :=
  match d.entityIndex? name with
  | some i => { d with entities := d.entities.set i e }
  | none => d

/-! Edits in place result in an answer and leave a design, also where they are refused. -/
namespace InPlace

/-- Adds an empty entity at a position. -/
def addEntity (name : String) (x y : Int32) : StateM Design (Except EditError Entity) := do
  let e : Entity := { Entity.named name with x, y }
  if ((← get).entityIndex? e.name).isSome then return .error (.duplicateEntity e.name)
  else
    modify fun d => { d with entities := d.entities ++ [e] }
    return .ok e

def removeEntity (name : String) : StateM Design (Option Entity) := do
  let d ← get
  match d.entityIndex? name with
  | none => return none
  | some i =>
    modify fun d => { d with entities := d.entities.eraseIdx i }
    return d.entities[i]?

def renameEntity (current new : String) : StateM Design Bool :=
  rename entityIndex? (fun d i name =>
    { d with entities := d.entities.modify i fun e => { e with name } }) current new

end InPlace

/-- A new entity, and the design with it. -/
def addEntity (d : Design) (name : String) (x y : Int32) : Except EditError (Entity × Design) :=
  let (added, d) := ((InPlace.addEntity name x y).run d).run
  added.map (·, d)

/-- An entity, and the design without it. -/
def removeEntity (d : Design) (name : String) : Option (Entity × Design) :=
  let (removed, d) := ((InPlace.removeEntity name).run d).run
  removed.map (·, d)

/-- The design with an entity under another name. -/
def renameEntity (d : Design) (current new : String) : Option Design :=
  let (renamed, d) := ((InPlace.renameEntity current new).run d).run
  if renamed then some d else none

/-- The connection string to analyze against: the override, then the registered value of the
connection's name, then the string of the document. An empty override, name or document string
counts as absent. -/
def resolve (d : Design) (r : Registry) : Option String :=
  match d.override.filter (· ≠ "") with
  | some text => some text
  | none =>
    match if d.connection.name = "" then none else r.get? d.connection.name with
    | some text => some text
    | none => if d.connection.text = "" then none else some d.connection.text

/-- The part of a design that is stored. -/
def stored (d : Design) : Design :=
  { d with entities := d.entities.map (·.stored), override := none }

/-- Whether two designs store the same. -/
def sameStored (a b : Design) : Bool := a.stored == b.stored

end Design
end EntityDesign
