import EntityDesign.Database
import EntityDesign.Identifier
import EntityDesign.Placeholder

/-! Analysis of commands: parameters and result columns, as a database reports them. -/
namespace EntityDesign

inductive AnalysisFault where
  | database (text : String)
  | emptyCommand
  deriving DecidableEq, Repr

def AnalysisFault.message : AnalysisFault → String
  | database text => text
  | emptyCommand => "command text is empty"

/-- Finds the signature of a command in a source of answers with state `σ`. -/
abbrev Analyzer (σ : Type) := String → CommandKind → σ → Except AnalysisFault Signature × σ

namespace Parameter

/-- The parameter of a stored procedure as declared, without any `@`. -/
def ofDeclared (p : DeclaredParameter) : Parameter :=
  let type := RelationalType.ofName p.relationalType
  { name := String.ofList (p.name.toList.filter (· != '@'))
    hostType := type.hostName false
    dbType := type.db
    isOutput := p.mode == "INOUT" }

/-- Declared parameters in the order of their ordinals. -/
def ofProcedure (rows : List DeclaredParameter) : List Parameter :=
  (rows.mergeSort fun a b => a.ordinal ≤ b.ordinal).map ofDeclared

def binding (p : Parameter) : Binding := ⟨p.name, p.dbType⟩

end Parameter

def Placeholder.binding (p : Placeholder) : Binding := ⟨p.token, p.parameter.dbType⟩

namespace Column

def ofResult (r : ResultColumn) : Column :=
  let type := RelationalType.ofName r.relationalType
  ⟨Identifier.sanitize r.name, type.hostName r.allowsNull, type.db.word, r.allowsNull⟩

/-- The columns of a result, with distinct names. -/
def ofResults (rows : List ResultColumn) : List Column := Column.distinct (rows.map ofResult)

end Column

namespace Routine

/-- Procedures other than those of the system. -/
def isListed (r : Routine) : Bool :=
  r.type == "PROCEDURE" && !("sp_".toList.isPrefixOf r.name.toList)

/-- The names of the listed procedures in order. -/
def listing (rows : List Routine) : List String :=
  ((rows.filter isListed).map (·.name)).mergeSort fun a b => a ≤ b

end Routine

namespace Database
variable {σ : Type}

/-- The parameters of a command and what is bound for them. -/
def bind (db : Database σ) (command : String) (kind : CommandKind) (s : σ) :
    Except String (List Parameter × List Binding) × σ :=
  match kind with
  | .procedure =>
    match db.parameters command s with
    | (.error m, s) => (.error m, s)
    | (.ok rows, s) =>
      let parameters := Parameter.ofProcedure rows
      (.ok (parameters, parameters.map (·.binding)), s)
  | .text =>
    let found := Placeholder.scan command
    (.ok (found.map (·.parameter), found.map (·.binding)), s)

/-- Asks an open database for the signature of a command. -/
def signature (db : Database σ) (command : String) (kind : CommandKind) (s : σ) :
    Except String Signature × σ :=
  match db.bind command kind s with
  | (.error m, s) => (.error m, s)
  | (.ok (parameters, bound), s) =>
    match db.describe command kind bound s with
    | (.error m, s) => (.error m, s)
    | (.ok rows, s) => (.ok { parameters, columns := Column.ofResults rows }, s)

def isBlankText (text : String) : Bool := (Text.trim text.toList).isEmpty

/-- Analyzes a command over a connection of its own. An empty command is refused before any
connection is opened. -/
def analyze (db : Database σ) : Analyzer σ := fun command kind s =>
  if isBlankText command then (.error .emptyCommand, s)
  else
    match db.connect s with
    | (.error m, s) => (.error (.database m), s)
    | (.ok (), s) =>
      match db.signature command kind s with
      | (.error m, s) => (.error (.database m), s)
      | (.ok signature, s) => (.ok signature, s)

/-- The user's stored procedures over a connection of its own. -/
def procedures (db : Database σ) (s : σ) : Except AnalysisFault (List String) × σ :=
  match db.connect s with
  | (.error m, s) => (.error (.database m), s)
  | (.ok (), s) =>
    match db.routines s with
    | (.error m, s) => (.error (.database m), s)
    | (.ok rows, s) => (.ok (Routine.listing rows), s)

end Database
end EntityDesign
