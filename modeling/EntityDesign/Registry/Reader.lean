import EntityDesign.Registry
import EntityDesign.Text.Encoding
import EntityDesign.Yaml.Node

/-! Reading a registry from a YAML document: a mapping with an optional mapping `connections` of
texts. Other keys say nothing. -/
namespace EntityDesign

/-- Why a document holds no registry. -/
inductive RegistryError where
  | malformed (fault : Yaml.Fault)
  | encoding
  | notMapping
  | notText
  | duplicateConnections
  | unreadable
  deriving DecidableEq, Repr

def RegistryError.message : RegistryError → String
  | malformed fault => fault.message
  | encoding => "an unknown encoding"
  | notMapping => "a mapping is expected"
  | notText => "a text is expected"
  | duplicateConnections => "more than one mapping of connections"
  | unreadable => "a file is expected"

namespace Registry
open Yaml

def text : Node → Except RegistryError String
  | .scalar _ s => .ok s
  | _ => .error .notText

/-- The entries of a mapping. An empty plain scalar is an empty mapping. -/
def entriesOf : Node → Except RegistryError (List (Node × Node))
  | .mapping entries => .ok entries
  | .scalar true "" => .ok []
  | _ => .error .notMapping

/-- The registry of the mapping `connections`, in which the last value of a name counts. -/
def ofConnections (n : Node) : Except RegistryError Registry := do
  let l ← (← entriesOf n).mapM fun (name, value) => return (← text name, ← text value)
  return ofList l

def ofNode (n : Node) : Except RegistryError Registry := do
  let fields ← (← entriesOf n).mapM fun (key, value) => return (← text key, value)
  match fields.filter (·.1 == "connections") with
  | [] => return empty
  | [(_, connections)] => ofConnections connections
  | _ => throw .duplicateConnections

/-- Reads a document. One without any value is an empty registry. -/
def read (document : List Char) : Except RegistryError Registry :=
  match Yaml.read document with
  | .error fault => .error (.malformed fault)
  | .ok none => .ok empty
  | .ok (some n) => ofNode n

def readBytes (bytes : List UInt8) : Except RegistryError Registry :=
  match Text.ofMarked? bytes with
  | some document => read document
  | none => .error .encoding

end Registry
end EntityDesign
