import EntityDesign.CommandLine.Arguments
import EntityDesign.Format
import EntityDesign.Reconciliation

/-! The commands of the command line and their arguments. -/
namespace EntityDesign.CommandLine

/-- How the connection string is found. -/
structure ConnectionOptions where
  /-- Wins over the document and the registry. -/
  override : Option String
  registry : String
  deriving DecidableEq, Repr

/-- New parts for a query; what is missing stays. -/
structure Change where
  name : Option String
  command : Option String
  kind : Option CommandKind
  execution : Option Execution
  deriving DecidableEq, Repr

def Change.draft (c : Change) (q : Query) : Draft where
  name := c.name.getD q.name
  command := c.command.getD q.command
  kind := c.kind.getD q.kind
  execution := c.execution.getD q.execution

inductive RegistryAction where
  | list
  | add (name value : String)
  | update (name value : String)
  deriving DecidableEq, Repr

inductive Command where
  | procedures (document : Option String) (source : ConnectionOptions) (format : Format)
  | describe (command : String) (kind : CommandKind) (document : Option String)
    (source : ConnectionOptions) (format : Format)
  | check (document entity command : String) (kind : CommandKind) (firstOnly : Bool)
    (source : ConnectionOptions) (format : Format)
  | validate (document : String)
  | addEntity (document name : String) (x y : Int32)
  | addQuery (document entity : String) (draft : Draft) (yes : Bool)
    (source : ConnectionOptions) (format : Format)
  | editQuery (document entity query : String) (change : Change) (source : ConnectionOptions)
    (format : Format)
  | refresh (document entity : String) (query : Option String) (source : ConnectionOptions)
    (format : Format)
  | deleteQuery (document entity query : String)
  | connections (registry : String) (action : RegistryAction)
  deriving DecidableEq, Repr

def kinds : List (String × CommandKind) := [("text", .text), ("stored-procedure", .procedure)]

def executions : List (String × Execution) :=
  [("reader", .reader), ("scalar", .scalar), ("non-query", .nonQuery)]

def kindValue : ValueKind := .word (kinds.map (·.1))

def executionValue : ValueKind := .word (executions.map (·.1))

def formatValue : ValueKind := .word (Format.all.map (·.word))

def defaultRegistry : String := "connections.yaml"

/-- The options of every command that asks a database. -/
def sourceOptions : List (String × ValueKind) :=
  [("connection", .text), ("config", .path), ("format", formatValue)]

namespace Found

def source (f : Found) : ConnectionOptions :=
  ⟨f.option? "connection", (f.option? "config").getD defaultRegistry⟩

def format? (f : Found) : Option Format := Format.ofWord? ((f.option? "format").getD "table")

def kind? (f : Found) : Option CommandKind := (f.option? "command-type").bind (List.lookup · kinds)

def execution? (f : Found) : Option Execution :=
  (f.option? "execute-method").bind (List.lookup · executions)

def integer (f : Found) (name : String) : Int32 := ((f.option? name).bind Text.int32?).getD 0

end Found

/-- A command by its name, with what it takes and what it makes of that. -/
structure Form where
  name : String
  shape : Shape
  build : Found → Option Command

def forms : List Form := [
  { name := "procs"
    shape := { options := ("document", .path) :: sourceOptions }
    build := fun f => do return .procedures (f.option? "document") f.source (← f.format?) },
  { name := "describe"
    shape := {
      options := ("command-type", kindValue) :: ("document", .path) :: sourceOptions
      operands := [.text] }
    build := fun f => do
      return .describe (← f.operand? 0) (f.kind?.getD .text) (f.option? "document") f.source
        (← f.format?) },
  { name := "check"
    shape := {
      options := ("entity", .text) :: ("command-type", kindValue) :: sourceOptions
      flags := ["first-only"]
      operands := [.path, .text] }
    build := fun f => do
      return .check (← f.operand? 0) (← f.option? "entity") (← f.operand? 1) (f.kind?.getD .text)
        (f.flag "first-only") f.source (← f.format?) },
  { name := "validate"
    shape := { operands := [.path] }
    build := fun f => do return .validate (← f.operand? 0) },
  { name := "add-entity"
    shape := { options := [("x", .integer), ("y", .integer)], operands := [.path, .text] }
    build := fun f => do
      return .addEntity (← f.operand? 0) (← f.operand? 1) (f.integer "x") (f.integer "y") },
  { name := "add-query"
    shape := {
      options := ("entity", .text) :: ("name", .text) :: ("command-type", kindValue) ::
        ("execute-method", executionValue) :: sourceOptions
      flags := ["yes"]
      operands := [.path, .text] }
    build := fun f => do
      let draft : Draft := ⟨← f.option? "name", ← f.operand? 1, f.kind?.getD .text,
        f.execution?.getD .reader⟩
      return .addQuery (← f.operand? 0) (← f.option? "entity") draft (f.flag "yes") f.source
        (← f.format?) },
  { name := "edit-query"
    shape := {
      options := ("entity", .text) :: ("query", .text) :: ("name", .text) ::
        ("command-text", .text) :: ("command-type", kindValue) ::
        ("execute-method", executionValue) :: sourceOptions
      operands := [.path] }
    build := fun f => do
      return .editQuery (← f.operand? 0) (← f.option? "entity") (← f.option? "query")
        ⟨f.option? "name", f.option? "command-text", f.kind?, f.execution?⟩ f.source
        (← f.format?) },
  { name := "refresh"
    shape := {
      options := ("entity", .text) :: ("query", .text) :: sourceOptions
      operands := [.path] }
    build := fun f => do
      return .refresh (← f.operand? 0) (← f.option? "entity") (f.option? "query") f.source
        (← f.format?) },
  { name := "delete-query"
    shape := { options := [("entity", .text), ("query", .text)], operands := [.path] }
    build := fun f => do
      return .deleteQuery (← f.operand? 0) (← f.option? "entity") (← f.option? "query") }]

/-- The forms below `connections`, which works on a registry. -/
def registryForms (registry : String) : List Form := [
  { name := "list", shape := {}, build := fun _ => some (.connections registry .list) },
  { name := "add"
    shape := { operands := [.text, .text] }
    build := fun f => do
      return .connections registry (.add (← f.operand? 0) (← f.operand? 1)) },
  { name := "update"
    shape := { operands := [.text, .text] }
    build := fun f => do
      return .connections registry (.update (← f.operand? 0) (← f.operand? 1)) }]

def Form.read (form : Form) (args : List String) : Except Refusal Command := do
  match form.build (← scan form.shape {} args) with
  | some c => return c
  | none => throw .usage

/-- Reads the arguments of the form that the first of them names. -/
def readForm (forms : List Form) : List String → Except Refusal Command
  | [] => .error .usage
  | name :: args =>
    match forms.find? (·.name == name) with
    | some form => form.read args
    | none => .error .usage

/-- Whether `help` may be asked about these names. -/
def hasHelp : List String → Bool
  | [] | ["help"] | ["connections"] | ["connections", "help"] => true
  | [name] => forms.any (·.name == name)
  | ["connections", name] => (registryForms "").any (·.name == name)
  | _ => false

def help (names : List String) : Except Refusal Command :=
  .error (if hasHelp names then .help else .usage)

def Command.read (args : List String) : Except Refusal Command := do
  match (← scan { nested := true } {} args).rest with
  | "help" :: names => help names
  | "connections" :: args =>
    let f ← scan { options := [("config", .path)], nested := true } {} args
    match f.rest with
    | "help" :: names => help ("connections" :: names)
    | rest => readForm (registryForms ((f.option? "config").getD defaultRegistry)) rest
  | rest => readForm forms rest

end EntityDesign.CommandLine
