import EntityDesign.CommandLine.Command
import EntityDesign.Storage
import EntityDesign.Validation

/-! What a command does, as data: what it prints, and the one file that it writes at most. -/
namespace EntityDesign.CommandLine

/-- What a command sees of its surroundings. -/
structure View where
  read : String → Except FileError Content
  /-- The database behind a connection string. Whatever it is asked, it leaves the directory alone.
  -/
  connect : String → Database (Option Sqlite.Schema)
  /-- What the user has typed. -/
  input : String

/-- A file to write. -/
structure NewFile where
  path : String
  text : String
  /-- What is said in front of the reason if the file cannot be written. -/
  refusal : String
  deriving DecidableEq, Repr

/-- What remains to be done after the output. Here alone a file is written, after everything else
that can fail. -/
inductive Ending where
  | done
  | failed (message : String)
  /-- Writes a file and prints a text if that succeeds. -/
  | write (file : NewFile) (output : String)
  deriving DecidableEq, Repr

structure Plan where
  /-- What is printed first. -/
  output : String := ""
  /-- The question that is put to the user. -/
  prompt : String := ""
  ending : Ending := .done
  deriving DecidableEq, Repr

def ofEdit {α : Type} (r : Except EditError α) : Except String α := r.mapError (·.message)

def ofAnalysis {α : Type} (r : Except AnalysisFault α) : Except String α := r.mapError (·.message)

namespace View

def design (v : View) (path : String) : Except String Design :=
  (Design.ofFile (v.read path)).mapError fun e =>
    "Failed to load '" ++ path ++ "': " ++ e.message

/-- The design of a document, or a new one without a document. -/
def designOr (v : View) (path : Option String) : Except String Design :=
  match path with
  | some path => v.design path
  | none => .ok {}

def registry (v : View) (path : String) : Except String Registry :=
  (Registry.ofFileOrEmpty (v.read path)).mapError fun e =>
    "Failed to read connections from '" ++ path ++ "': " ++ e.message

/-- The connection string to work with. -/
def connection (v : View) (d : Design) (o : ConnectionOptions) : Except String String := do
  let registry ← v.registry o.registry
  match { d with override := o.override }.resolve registry with
  | some text => return text
  | none => throw "no connection string: pass --connection or set one in the document"

def database (v : View) (d : Design) (o : ConnectionOptions) :
    Except String (Database (Option Sqlite.Schema)) := do
  return v.connect (← v.connection d o)

/-- The first line that the user has typed. -/
def line (v : View) : List Char := v.input.toList.takeWhile (· != '\n')

end View

/-- Whether an answer means yes. -/
def affirms (answer : List Char) : Bool :=
  ["y", "yes"].contains (String.ofList ((Text.trim answer).map Char.toLower))

/-- Whether the columns of an entity may be replaced: by an option, or by what the user types. -/
def View.agrees (v : View) (yes : Bool) : Question → Bool := fun _ => yes || affirms v.line

/-- The question whether the columns of an entity are to be replaced. -/
def promptFor (q : Question) : String :=
  "The result of query '" ++ q.query ++ "' does not match the entity columns:\n" ++
    String.join (q.mismatches.map fun m => "  " ++ m.message ++ "\n") ++
    "Replace the entity columns? [y/N] "

/-- Writes a design to its document. -/
def saveDesign (d : Design) (path : String) (output : String) : Ending :=
  let refusal := "Failed to write '" ++ path ++ "': "
  match d.write with
  | .ok text => .write ⟨path, text, refusal⟩ output
  | .error e => .failed (refusal ++ e.message)

def saveRegistry (r : Registry) (path : String) : Ending :=
  .write ⟨path, r.write, "Failed to write connections to '" ++ path ++ "': "⟩ ""

/-- The first entity of a name. -/
def findEntity (d : Design) (name : String) : Except String Entity := ofEdit (d.findEntity name)

def planProcedures (v : View) (document : Option String) (o : ConnectionOptions) (f : Format) :
    Except String Plan := do
  let db ← v.database (← v.designOr document) o
  let names ← ofAnalysis (db.procedures none).1
  return { output := Routine.format names f }

def planDescribe (v : View) (command : String) (kind : CommandKind) (document : Option String)
    (o : ConnectionOptions) (f : Format) : Except String Plan := do
  let db ← v.database (← v.designOr document) o
  let signature ← ofAnalysis (db.analyze command kind none).1
  return { output := signature.format f }

def planCheck (v : View) (document entity command : String) (kind : CommandKind)
    (firstOnly : Bool) (o : ConnectionOptions) (f : Format) : Except String Plan := do
  let d ← v.design document
  let e ← findEntity d entity
  let db ← v.database d o
  let signature ← ofAnalysis (db.analyze command kind none).1
  let found := e.mismatches signature firstOnly
  if found.isEmpty then return { output := "compatible with entity '" ++ e.name ++ "'\n" }
  else return {
    output := Mismatch.format found f
    ending := .failed
      (toString found.length ++ " discrepancy(ies) with entity '" ++ e.name ++ "'") }

def planValidate (v : View) (document : String) : Except String Plan := do
  let d ← v.design document
  let problems := d.problems
  if problems.isEmpty then return {
    output := "Validated " ++ toString d.entities.length ++ " entity(ies) in '" ++ document ++
      "'.\n" }
  else return {
    output := String.join (problems.map fun p => p.message ++ "\n")
    ending := .failed (toString problems.length ++ " problem(s) found") }

def planAddEntity (v : View) (document name : String) (x y : Int32) : Except String Plan := do
  let d ← v.design document
  let (e, d) ← ofEdit (d.addEntity name x y)
  return { ending := saveDesign d document ("Added entity '" ++ e.name ++ "'.\n") }

def planAddQuery (v : View) (document entity : String) (draft : Draft) (yes : Bool)
    (o : ConnectionOptions) (f : Format) : Except String Plan := do
  let d ← v.design document
  let e ← findEntity d entity
  let db ← v.database d o
  let added := Reconciliation.add db.analyze draft (v.agrees yes) e none
  let (report, asked) ← ofEdit added.result
  return {
    output := report.format f
    prompt := if yes then "" else (asked.map promptFor).getD ""
    ending := if report.accepted then saveDesign (d.setEntity entity added.entity) document ""
      else .done }

def planEditQuery (v : View) (document entity query : String) (change : Change)
    (o : ConnectionOptions) (f : Format) : Except String Plan := do
  let d ← v.design document
  let e ← findEntity d entity
  match e.query? query with
  | none => throw (EditError.queryNotFound e.name query).message
  | some q =>
    let db ← v.database d o
    let edited := Reconciliation.edit db.analyze query (change.draft q) e none
    let report ← ofEdit edited.result
    return {
      output := report.format f
      ending := saveDesign (d.setEntity entity edited.entity) document "" }

def planRefresh (v : View) (document entity : String) (query : Option String)
    (o : ConnectionOptions) (f : Format) : Except String Plan := do
  let d ← v.design document
  let e ← findEntity d entity
  let db ← v.database d o
  let (report, e) ← match query with
    | some query =>
      let refreshed := Reconciliation.refresh db.analyze query e none
      (ofEdit refreshed.result).map (·, refreshed.entity)
    | none =>
      let refreshed := Reconciliation.refreshAll db.analyze e none
      pure (refreshed.report, refreshed.entity)
  return { output := report.format f, ending := saveDesign (d.setEntity entity e) document "" }

def planDeleteQuery (v : View) (document entity query : String) : Except String Plan := do
  let d ← v.design document
  let e ← findEntity d entity
  let deleted := Reconciliation.delete query e ()
  let q ← ofEdit deleted.result
  let rest := if deleted.entity.properties.isEmpty then
      "Entity '" ++ entity ++ "' has no properties left.\n"
    else ""
  return {
    ending := saveDesign (d.setEntity entity deleted.entity) document
      ("Deleted query '" ++ q.name ++ "'.\n" ++ rest) }

def planConnections (v : View) (path : String) (action : RegistryAction) : Except String Plan := do
  let r ← v.registry path
  match action with
  | .list => return {
      output := String.join (r.entries.map fun (name, value) => name ++ "\t" ++ value ++ "\n") }
  | .add name value =>
    if (r.get? name).isSome then throw ("connection '" ++ name ++ "' already exists")
    else return {
      output := "Added connection '" ++ name ++ "'.\n"
      ending := saveRegistry (r.add name value) path }
  | .update name value =>
    if (r.get? name).isNone then throw ("connection not found: " ++ name)
    else return {
      output := "Updated connection '" ++ name ++ "'.\n"
      ending := saveRegistry (r.update name value) path }

/-- The document that a command reads. -/
def Command.document? : Command → Option String
  | procedures document _ _ | describe _ _ document _ _ => document
  | check document .. | validate document | addEntity document .. | addQuery document ..
  | editQuery document .. | refresh document .. | deleteQuery document .. => some document
  | connections .. => none

/-- How a command finds its database, if it asks one. -/
def Command.source? : Command → Option ConnectionOptions
  | procedures _ o _ | describe _ _ _ o _ | check _ _ _ _ _ o _ | addQuery _ _ _ _ o _
  | editQuery _ _ _ _ o _ | refresh _ _ _ o _ => some o
  | _ => none

/-- The registry that a command reads. -/
def Command.registry? : Command → Option String
  | connections registry _ => some registry
  | c => c.source?.map (·.registry)

/-- The files that a command reads. -/
def Command.files (c : Command) : List String := c.document?.toList ++ c.registry?.toList

/-- The database that a command opens. -/
def Command.database? (v : View) (c : Command) : Option String := do
  let d ← (v.designOr c.document?).toOption
  let text ← (v.connection d (← c.source?)).toOption
  Sqlite.ConnectionString.path? text

/-- What a command does, or why it fails before it does anything. -/
def Command.plan (v : View) : Command → Except String Plan
  | procedures document o f => planProcedures v document o f
  | describe command kind document o f => planDescribe v command kind document o f
  | check document entity command kind firstOnly o f =>
    planCheck v document entity command kind firstOnly o f
  | validate document => planValidate v document
  | addEntity document name x y => planAddEntity v document name x y
  | addQuery document entity draft yes o f => planAddQuery v document entity draft yes o f
  | editQuery document entity query change o f => planEditQuery v document entity query change o f
  | refresh document entity query o f => planRefresh v document entity query o f
  | deleteQuery document entity query => planDeleteQuery v document entity query
  | connections registry action => planConnections v registry action

end EntityDesign.CommandLine
