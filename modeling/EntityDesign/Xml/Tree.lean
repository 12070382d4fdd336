import EntityDesign.Xml.Node
import EntityDesign.Xml.Token

/-! The tree of a document: elements nested by their tags, names resolved in the namespaces that
are declared around them. -/
namespace EntityDesign.Xml

/-- Declared namespaces by qualifier, the innermost first; the default one under `""`. -/
abbrev Scope := List (String × String)

namespace Scope

def xmlUri : String := "http://www.w3.org/XML/1998/namespace"

def xmlnsUri : String := "http://www.w3.org/2000/xmlns/"

/-- The namespace bound to a qualifier. -/
def resolve (scope : Scope) (qualifier : String) : Except Fault (Option String) :=
  if qualifier = "xml" then .ok (some xmlUri)
  else
    match scope.lookup qualifier with
    | some uri => .ok (some uri)
    | none => if qualifier = "" then .ok none else .error (.unknownNamespace qualifier)

/-- Adds the namespace that an attribute declares, if it is a declaration. `own` holds what the
same tag has declared so far. -/
def declare (own : Scope) (name : QName) (value : String) : Except Fault Scope :=
  if name.qualifier = "xmlns" then
    if value = xmlnsUri ∨ (name.localPart = "xml" ∧ value ≠ xmlUri) ∨
        (name.localPart ≠ "xml" ∧ value = xmlUri) then .error .reservedNamespace
    else if (own.lookup name.localPart).isSome then .error (.duplicateAttribute name.text)
    else .ok (if value = xmlUri then own else (name.localPart, value) :: own)
  else if name.localPart = "xmlns" then
    if value = xmlnsUri ∨ value = xmlUri then .error .reservedNamespace
    else if (own.lookup "").isSome then .error (.duplicateAttribute name.text)
    else .ok (("", value) :: own)
  else .ok own

def isDeclaration (name : QName) : Bool := name.qualifier == "xmlns" || name.localPart == "xmlns"

/-- The declarations of one tag. -/
def declarations (attributes : List (QName × String)) : Except Fault Scope :=
  attributes.foldlM (fun own a => declare own a.1 a.2) []

end Scope

/-- An attribute without qualifier is in no namespace. -/
def Name.ofAttribute (scope : Scope) (name : QName) : Except Fault Name :=
  if name.qualifier = "" then .ok { localName := name.localPart }
  else (scope.resolve name.qualifier).map fun uri => { uri, localName := name.localPart }

def Name.ofTag (scope : Scope) (name : QName) : Except Fault Name :=
  if name.qualifier = "xmlns" then .error .reservedNamespace
  else (scope.resolve name.qualifier).map fun uri => { uri, localName := name.localPart }

/-- Resolves the attributes of a tag; no two may have the same name. -/
def Attribute.resolveAll (scope : Scope) :
    List Attribute → List (QName × String) → Except Fault (List Attribute)
  | done, [] => .ok done
  | done, (name, value) :: rest => do
    let resolved ← Name.ofAttribute scope name
    if done.any (·.name == resolved) then throw (.duplicateAttribute name.text)
    resolveAll scope (done ++ [⟨resolved, value⟩]) rest

/-- An element whose end tag has not come yet, with its children in reverse. -/
structure Pending where
  tag : QName
  scope : Scope
  name : Name
  attributes : List Attribute
  children : List Node := []

namespace Pending

def open? (scope : Scope) (tag : QName) (attributes : List (QName × String)) :
    Except Fault Pending := do
  let own ← Scope.declarations attributes
  let scope := own ++ scope
  let name ← Name.ofTag scope tag
  let attributes ← Attribute.resolveAll scope []
    (attributes.filter fun a => !Scope.isDeclaration a.1)
  return { tag, scope, name, attributes }

def element (p : Pending) : Element := ⟨p.name, p.attributes, p.children.reverse⟩

def push (p : Pending) (n : Node) : Pending := { p with children := n :: p.children }

end Pending

def Element.node (e : Element) : Node := .element e.name e.attributes e.children

/-- A document under construction: the open elements from the inside out, and the root once it is
closed. -/
structure Forest where
  pending : List Pending := []
  root : Option Element := none

namespace Forest

def scope (f : Forest) : Scope :=
  match f.pending with
  | [] => []
  | p :: _ => p.scope

/-- Adds a finished element. -/
def close (f : Forest) (e : Element) : Except Fault Forest :=
  match f.pending with
  | p :: ps => .ok { f with pending := p.push e.node :: ps }
  | [] => if f.root.isSome then .error .secondRoot else .ok { f with root := some e }

/-- Adds a node that is no element; outside the root it is dropped. -/
def push (f : Forest) (n : Node) : Forest :=
  match f.pending with
  | p :: ps => { f with pending := p.push n :: ps }
  | [] => f

def step (f : Forest) : Token → Except Fault Forest
  | .start tag attributes isEmpty => do
    let p ← Pending.open? f.scope tag attributes
    if isEmpty then f.close p.element
    else if f.pending.isEmpty && f.root.isSome then throw .secondRoot
    else return { f with pending := p :: f.pending }
  | .finish tag =>
    match f.pending with
    | p :: ps =>
      if p.tag = tag then close { f with pending := ps } p.element
      else .error (.mismatchedEnd tag.text)
    | [] => .error (.mismatchedEnd tag.text)
  | .space content => .ok (f.push (.text content))
  | .text content =>
    if f.pending.isEmpty then .error .textOutsideRoot else .ok (f.push (.text content))
  | .comment content => .ok (f.push (.comment content))
  | .instruction target content => .ok (f.push (.instruction target content))

/-- Runs over the tokens of a document. -/
def steps (f : Forest) : List Token → Except Fault Forest
  | [] => .ok f
  | t :: ts => (f.step t).bind fun f => steps f ts

end Forest

/-- The root element of a token sequence. -/
def Element.ofTokens (ts : List Token) : Except Fault Element := do
  let f ← Forest.steps {} ts
  match f.pending, f.root with
  | [], some e => return e
  | [], none => throw .noRoot
  | p :: _, _ => throw (.unclosed p.tag.text)

/-- The text behind a byte order mark. -/
def skipMark : List Char → List Char
  | '\uFEFF' :: s => s
  | s => s

/-- The root element of a document. -/
def parse (text : String) : Except Fault Element := do
  let s := skipMark text.toList
  if !s.all isChar then throw .invalidCharacter
  let tokens ← Token.all (← Token.skipDeclaration s)
  Element.ofTokens tokens

end EntityDesign.Xml
