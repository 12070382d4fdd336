import EntityDesign.Entity

/-! Whether the columns of a result fit the properties of an entity. -/
namespace EntityDesign

/-- One way in which a result fails to fit. -/
inductive Mismatch where
  | additional (name hostType : String)
  | differs (name actual expected : String)
  | missing (name hostType : String)
  deriving DecidableEq, Repr

namespace Mismatch

def message : Mismatch → String
  | additional name hostType => "additional column: " ++ hostType ++ " " ++ name
  | differs name actual expected =>
    "column '" ++ name ++ "' is of type '" ++ actual ++ "' instead of '" ++ expected ++ "'"
  | missing name hostType => "missing column: " ++ hostType ++ " " ++ name

/-- Matches each column with the first unmatched property of its name; what is left is missing. -/
def all (properties : List Property) : List Column → List Mismatch
  | [] => properties.map fun p => missing p.name p.hostType
  | c :: cs =>
    match properties.find? (·.name == c.name) with
    | none => additional c.name c.hostType :: all properties cs
    | some p =>
      let rest := properties.eraseP (·.name == c.name)
      if p.hostType = c.hostType then all rest cs
      else differs c.name c.hostType p.hostType :: all rest cs

/-- Stops at the first mismatch. -/
def first (properties : List Property) : List Column → Option Mismatch
  | [] => properties.head?.map fun p => missing p.name p.hostType
  | c :: cs =>
    match properties.find? (·.name == c.name) with
    | none => some (additional c.name c.hostType)
    | some p =>
      if p.hostType = c.hostType then first (properties.eraseP (·.name == c.name)) cs
      else some (differs c.name c.hostType p.hostType)

end Mismatch

namespace Entity

/-- How a result fails to fit the entity, or only the first way. -/
def mismatches (e : Entity) (s : Signature) (firstOnly : Bool) : List Mismatch :=
  if firstOnly then (Mismatch.first e.properties s.columns).toList
  else Mismatch.all e.properties s.columns

/-- Whether the properties differ from the columns in number, order, name or either type. -/
def columnsDiffer (e : Entity) (s : Signature) : Bool :=
  e.properties.length != s.columns.length ||
    (e.properties.zip s.columns).any fun (p, c) =>
      p.name != c.name || p.hostType != c.hostType || p.dbType != c.dbType

/-- Makes the columns of a result the properties of the entity, and says whether they changed. -/
def adoptColumns (e : Entity) (s : Signature) : Bool × Entity :=
  if e.columnsDiffer s then (true, { e with properties := s.columns.map .ofColumn })
  else (false, e)

end Entity
end EntityDesign
