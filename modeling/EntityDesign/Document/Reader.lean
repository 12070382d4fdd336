import EntityDesign.Document.Writer
import EntityDesign.Xml.Tree

/-! Reading a design from its stored form. Names are taken as they are. -/
namespace EntityDesign
open Xml Text

namespace Xml.Element

def require (e : Element) (tag key : String) : Except DocumentFault String :=
  match e.attribute? key with
  | some value => .ok value
  | none => .error (.missingAttribute tag key)

/-- A required attribute whose value is read by `f`. -/
def requireAs {α : Type} (e : Element) (tag key : String) (f : String → Option α) :
    Except DocumentFault α := do
  let value ← e.require tag key
  match f value with
  | some a => return a
  | none => throw (.invalidValue tag key value)

/-- All elements called `item` in all child elements called `section`. -/
def items (e : Element) (sectionTag item : String) : List Element :=
  (e.elements sectionTag).flatMap (·.elements item)

end Xml.Element

def Property.ofXml (e : Element) : Except DocumentFault Property := do
  let name ← e.require "Property" "name"
  let hostType ← e.require "Property" "type"
  let dbType ← e.require "Property" "dbType"
  return { name, hostType, dbType }

def Parameter.ofXml (e : Element) : Except DocumentFault Parameter := do
  let name ← e.require "Parameter" "name"
  let hostType ← e.require "Parameter" "sysType"
  let dbType ← e.requireAs "Parameter" "dbType" fun s => (DbType.read s).toOption
  return { name, hostType, dbType, isOutput := (e.attribute? "output").isSome }

def Query.ofXml (e : Element) : Except DocumentFault Query := do
  let command ← e.require "Query" "command"
  let kind ← e.requireAs "Query" "type" fun s => (CommandKind.read s).toOption
  let execution ← e.requireAs "Query" "method" fun s => (Execution.read s).toOption
  let name ← e.require "Query" "name"
  let parameters ← (e.items "Parameters" "Parameter").mapM Parameter.ofXml
  return { name, command, kind, execution, parameters, showError := (e.attribute? "error").isSome }

def Entity.ofXml (e : Element) : Except DocumentFault Entity := do
  let name ← e.require "Entity" "name"
  let x ← e.requireAs "Entity" "x" int32?
  let y ← e.requireAs "Entity" "y" int32?
  let properties ← (e.items "Properties" "Property").mapM Property.ofXml
  let queries ← (e.items "Queries" "Query").mapM Query.ofXml
  return { name, x, y, properties, queries }

namespace Connection

/-- Absent attributes are empty, and any unknown storage means the settings. -/
def ofXml (e : Element) : Connection where
  name := (e.attribute? "name").getD ""
  text := (e.attribute? "connectionString").getD ""
  source := if e.attribute? "storage" = some ConnectionSource.webConfig.word then .webConfig
    else .settings

end Connection

namespace Design

/-- The value of an optional number of the dialog. -/
def readSize (e : Option Element) (key : String) (default : UInt32) : Except DocumentFault UInt32 :=
  match e with
  | some e =>
    if (e.attribute? key).isSome then e.requireAs "AddQueryDialog" key uint32? else .ok default
  | none => .ok default

/-- Reads a design from its root element. -/
def ofXml (root : Element) : Except DocumentFault Design := do
  if root.name.localName ≠ rootTag then throw (.unexpectedRoot root.name.localName)
  let blank : Design := {}
  let connection := ((root.elements "ConnectionString").head?.map Connection.ofXml).getD {}
  let dialog := (root.elements "AddQueryDialog").head?
  let dialogWidth ← readSize dialog "width" blank.dialogWidth
  let dialogHeight ← readSize dialog "height" blank.dialogHeight
  let entities ← (root.items "Entities" "Entity").mapM Entity.ofXml
  return { entities, connection, dialogWidth, dialogHeight }

/-- Reads a design from the text of a document. -/
def read (text : String) : Except DocumentFault Design :=
  match Xml.parse text with
  | .ok root => ofXml root
  | .error fault => .error (.malformed fault)

end Design
end EntityDesign
