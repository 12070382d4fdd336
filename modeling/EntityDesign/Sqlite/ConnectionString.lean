import EntityDesign.Text.Blank

/-! Connection strings for SQLite: a bare path, or `key=value` pairs divided by `;`. -/
namespace EntityDesign.Sqlite
namespace ConnectionString

/-- Splits at the first `=`. -/
def pair? (s : List Char) : Option (List Char × List Char) :=
  match s.dropWhile (· != '=') with
  | [] => none
  | _ :: value => some (s.takeWhile (· != '='), value)

/-- Whether a key stands for the path of the database. Only ASCII letters fold. -/
def isPathKey (key : List Char) : Bool :=
  let key := String.ofList ((Text.trim key).map Char.toLower)
  key == "data source" || key == "datasource"

/-- The path of the database, if the text names one. -/
def path? (text : String) : Option String :=
  let s := Text.trim text.toList
  if s.isEmpty then none
  else if !s.contains '=' then some (String.ofList s)
  else
    match ((s.splitOn ';').filterMap pair?).find? fun p => isPathKey p.1 with
    | none => none
    | some (_, value) =>
      let path := Text.trim value
      if path.isEmpty then none else some (String.ofList path)

end ConnectionString
end EntityDesign.Sqlite
