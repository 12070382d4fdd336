/-! Trees of XML documents. -/
namespace EntityDesign.Xml

/-- A name with the namespace it belongs to. -/
structure Name where
  uri : Option String := none
  localName : String
  deriving DecidableEq, Repr

structure Attribute where
  name : Name
  value : String
  deriving DecidableEq, Repr

inductive Node where
  | element (name : Name) (attributes : List Attribute) (children : List Node)
  | text (content : String)
  | comment (content : String)
  | instruction (target content : String)
  deriving Repr

/-- The parts of an element. -/
structure Element where
  name : Name
  attributes : List Attribute
  children : List Node
  deriving Repr

def Node.element? : Node → Option Element
  | element name attributes children => some ⟨name, attributes, children⟩
  | _ => none

namespace Element

/-- The value of the first attribute of that local name, in whatever namespace. -/
def attribute? (e : Element) (localName : String) : Option String :=
  (e.attributes.find? (·.name.localName == localName)).map (·.value)

/-- The child elements of that local name, in whatever namespace. -/
def elements (e : Element) (localName : String) : List Element :=
  (e.children.filterMap Node.element?).filter (·.name.localName == localName)

end Element
end EntityDesign.Xml
