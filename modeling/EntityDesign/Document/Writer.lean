import EntityDesign.Design
import EntityDesign.Document.Fault
import EntityDesign.Text.Integer

/-! The stored form of a design. -/
namespace EntityDesign
open Xml Text

namespace Property

def markup (p : Property) : Markup :=
  .leaf "Property" [("type", p.hostType), ("name", p.name), ("dbType", p.dbType)]

end Property

namespace Parameter

def markup (p : Parameter) : Markup :=
  .leaf "Parameter" ([("name", p.name), ("dbType", p.dbType.word), ("sysType", p.hostType)] ++
    if p.isOutput then [("output", "output")] else [])

end Parameter

namespace Query

def attributes (q : Query) : List (String × String) :=
  [("name", q.name), ("method", q.execution.word), ("command", q.command), ("type", q.kind.word)] ++
    if q.showError then [("error", "error")] else []

def markup (q : Query) : Markup :=
  .branch "Query" q.attributes [.branch "Parameters" [] (q.parameters.map (·.markup))]

end Query

namespace Entity

def markup (e : Entity) : Markup :=
  .branch "Entity" [("name", e.name), ("x", ofInt32 e.x), ("y", ofInt32 e.y)] [
    .branch "Properties" [] (e.properties.map (·.markup)),
    .branch "Queries" [] (e.queries.map (·.markup))]

end Entity

namespace Connection

def markup (c : Connection) : Markup :=
  .leaf "ConnectionString"
    [("name", c.name), ("connectionString", c.text), ("storage", c.source.word)]

end Connection

namespace Design

/-- The name of the root element. -/
def rootTag : String := "DsLight"

def dialogMarkup (d : Design) : Markup :=
  .leaf "AddQueryDialog" [("width", ofUInt32 d.dialogWidth), ("height", ofUInt32 d.dialogHeight)]

/-- The document of a design. Flags are stored by the presence of an attribute; the presentation
flags of queries and the override are not stored. -/
def markup (d : Design) : Markup :=
  .branch rootTag [("version", "1.0")] [
    d.connection.markup,
    d.dialogMarkup,
    .branch "Entities" [] (d.entities.map (·.markup))]

/-- The text of the document. -/
def write (d : Design) : Except DocumentFault String :=
  d.markup.write.mapError .unwritable

end Design
end EntityDesign
