import EntityDesign.Distinct
import EntityDesign.TypeName

/-! What is known about a command: its parameters and the columns of its result. -/
namespace EntityDesign

/-- A parameter of a command. -/
structure Parameter where
  name : String
  hostType : String
  dbType : DbType
  isOutput : Bool := false
  deriving DecidableEq, Repr

/-- A column of a result. -/
structure Column where
  name : String
  hostType : String
  /-- The stored spelling of a database type. -/
  dbType : String
  isNullable : Bool
  deriving DecidableEq, Repr

/-- A column that is nullable when its host type says so. -/
def Column.ofTypes (name hostType : String) (dbType : DbType) : Column :=
  ⟨name, hostType, dbType.word, HostName.isNullable hostType⟩

/-- The parameters and columns of one analyzed command. -/
structure Signature where
  parameters : List Parameter := []
  columns : List Column := []
  deriving DecidableEq, Repr

/-- Gives each column the distinct name at its position. -/
def Column.distinct (columns : List Column) : List Column :=
  columns.zipWith (fun c name => { c with name }) (Distinct.names (columns.map (·.name)))

@[simp] theorem Column.length_distinct (columns : List Column) :
    (Column.distinct columns).length = columns.length := by
  simp [Column.distinct]

end EntityDesign
