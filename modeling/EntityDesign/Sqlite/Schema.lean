import EntityDesign.Database
import EntityDesign.Sqlite.ConnectionString
import EntityDesign.Sqlite.DeclaredType
import EntityDesign.Sqlite.Location
import EntityDesign.Sqlite.Statement
import EntityDesign.Sqlite.Table

/-! SQLite databases by their tables, and what a statement over them returns. -/
namespace EntityDesign.Sqlite

/-- What an opened file holds. -/
inductive Schema where
  | tables (all : List Table)
  | notADatabase
  deriving DecidableEq, Repr, Inhabited

/-- Whether two names are the same. Only ASCII letters fold. -/
def sameName (a b : String) : Bool := a.toList.map Char.toLower == b.toList.map Char.toLower

def Schema.table (s : Schema) (name : String) : Except Fault Table :=
  match s with
  | notADatabase => .error .notADatabase
  | tables all =>
    match all.find? fun t => sameName t.name name with
    | some t => .ok t
    | none => .error (.noSuchTable name)

def TableColumn.result (c : TableColumn) (title : Option String) : ResultColumn where
  name := title.getD c.name
  relationalType := (c.declaredType?.map DeclaredType.normalize).getD DeclaredType.untyped
  allowsNull := true

/-- The column that an operand names, if any. A name in double quotes that fits no column is a
text. -/
def Operand.resolve (columns : List TableColumn) : Operand → Except Fault (Option TableColumn)
  | constant | count _ => .ok none
  | column t =>
    match columns.find? fun c => sameName c.name t.name with
    | some c => .ok (some c)
    | none => if t.written.head? = some '"' then .ok none else .error (.noSuchColumn t)

def Item.results (columns : List TableColumn) : Item → Except Fault (List ResultColumn)
  | all => .ok (columns.map (·.result none))
  | value operands plain title written => do
    match ← operands.mapM (·.resolve columns), plain with
    | [some c], true => return [c.result title]
    | _, _ => return [⟨title.getD (String.ofList written), DeclaredType.untyped, true⟩]

/-- Looks up an operand of a condition, where the titles of items count as columns too. Gives the
word that asks for the number of rows, if the operand stands for that. -/
def Operand.check (columns : List TableColumn) (items : List Item) :
    Operand → Except Fault (Option Token)
  | constant => .ok none
  | count call =>
    if items.any (·.count?.isSome) then .ok (some call) else .error (.misplacedCount call false)
  | column t =>
    match (column t).resolve columns with
    | .ok (some _) => .ok none
    | r =>
      match items.find? fun i => i.title?.any (sameName · t.name) with
      | some i => .ok i.count?
      | none => r.map fun _ => none

/-- Looks up a condition. It cannot count rows. -/
def checkCondition (columns : List TableColumn) (items : List Item) (condition : List Operand) :
    Except Fault Unit := do
  let found ← condition.mapM (·.check columns items)
  match found.findSome? id with
  | some call => throw (.misplacedCount call true)
  | none => return ()

namespace Statement

/-- The result columns of a statement. The table is looked up first, then the columns in the order
of the text. -/
def results (schema : Schema) : Statement → Except Fault (List ResultColumn)
  | empty => .ok []
  | select items table condition => do
    let columns ← match table with
      | some name => (schema.table name).map (·.columns)
      | none => if items.contains .all then throw .noTables else pure []
    let rows ← items.mapM (·.results columns)
    checkCondition columns items condition
    return rows.flatten
  | delete table condition => do
    let t ← schema.table table
    checkCondition t.columns [] condition
    return []

end Statement

/-- Describes a statement over the tables of a schema. A text ends at its first NUL. -/
def describe (schema : Schema) (sql : String) : Except String (List ResultColumn) :=
  let text := sql.toList.takeWhile (· != '\x00')
  ((Statement.parse text).bind (·.results schema)).mapError (·.message sql text)

def noProcedures : String := "SQLite does not support stored procedures"

/-- The database that a connection string names, where `open?` gives the schema of a path. The
state is what is open. -/
def database (open? : String → Except OpenError Schema) (connection : String) :
    Database (Option Schema) where
  connect state :=
    match ConnectionString.path? connection with
    | none => (.error OpenError.noPath.message, state)
    | some path =>
      match open? path with
      | .ok schema => (.ok (), some schema)
      | .error e => (.error e.message, state)
  routines state := (.ok [], state)
  parameters _ state := (.error noProcedures, state)
  describe command kind _ state :=
    match kind, state with
    | .procedure, _ => (.error noProcedures, state)
    | .text, some schema => (EntityDesign.Sqlite.describe schema command, state)
    | .text, none => (.error OpenError.unreadable.message, state)

end EntityDesign.Sqlite
