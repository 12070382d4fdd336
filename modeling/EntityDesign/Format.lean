import EntityDesign.Database
import EntityDesign.Json
import EntityDesign.Listing
import EntityDesign.Yaml.Printer

/-! The output formats of signatures, mismatches, reports and procedure names. -/
namespace EntityDesign

inductive Format where
  | json | yaml | table
  deriving DecidableEq, Repr, Inhabited

namespace Format

def all : List Format := [json, yaml, table]

def word : Format → String
  | json => "json"
  | yaml => "yaml"
  | table => "table"

def ofWord? (s : String) : Option Format := all.find? (·.word == s)

/-- A value in a format, given its data and its table. -/
def render (f : Format) (data : Data) (table : String) : String :=
  match f with
  | .json => Json.print data
  | .yaml => Yaml.print data
  | .table => table

end Format

def Parameter.data (p : Parameter) : Data :=
  .record [("name", .text p.name), ("sys_type", .text p.hostType), ("db_type", .text p.dbType.word),
    ("is_output", .flag p.isOutput)]

def Column.data (c : Column) : Data :=
  .record [("name", .text c.name), ("sys_type", .text c.hostType), ("db_type", .text c.dbType),
    ("is_nullable", .flag c.isNullable)]

namespace Signature

def data (s : Signature) : Data :=
  .record [("parameters", .list (s.parameters.map (·.data))),
    ("columns", .list (s.columns.map (·.data)))]

def format (s : Signature) (f : Format) : String := f.render s.data (Listing.signature s)

end Signature

namespace Mismatch

def data : Mismatch → Data
  | additional name hostType =>
    .record [
      ("kind", .text "additional_column"), ("name", .text name), ("sys_type", .text hostType)]
  | differs name actual expected =>
    .record [("kind", .text "type_mismatch"), ("name", .text name), ("actual", .text actual),
      ("expected", .text expected)]
  | missing name hostType =>
    .record [("kind", .text "missing_column"), ("name", .text name), ("type_name", .text hostType)]

def format (l : List Mismatch) (f : Format) : String :=
  f.render (.list (l.map (·.data))) (Listing.mismatches l)

end Mismatch

def Failure.data (f : Failure) : Data :=
  .record [("query", .text f.query), ("message", .text f.message)]

namespace ChangeReport

def data (r : ChangeReport) : Data :=
  .record [("entity", .text r.entity), ("accepted", .flag r.accepted),
    ("columns_changed", .flag r.columnsChanged),
    ("discrepancies", .list (r.mismatches.map (·.data))),
    ("ok", .texts r.ok), ("errored", .texts r.unfit),
    ("failures", .list (r.failures.map (·.data))), ("suppressed", .flag r.suppressed)]

def format (r : ChangeReport) (f : Format) : String := f.render r.data (Listing.report r)

end ChangeReport

/-- Procedure names, one a line in a table. -/
def Routine.format (names : List String) (f : Format) : String :=
  f.render (.texts names) (Listing.lines names)

end EntityDesign
