import EntityDesign.Xml.AttributeValue

/-! Elements as they are written: each on a line of its own, indented by two spaces a level. -/
namespace EntityDesign.Xml

/-- A leaf closes itself; a branch has a start and an end tag with its children between. -/
inductive Markup where
  | leaf (tag : String) (attributes : List (String × String))
  | branch (tag : String) (attributes : List (String × String)) (children : List Markup)
  deriving Repr

/-- A character that cannot stand in a document, in the attribute that holds it. -/
structure Unwritable where
  key : String
  char : Char
  deriving DecidableEq, Repr

namespace Unwritable

def message (u : Unwritable) : String :=
  "attribute '" ++ u.key ++ "' contains U+" ++ String.ofList (Text.hexadecimal 4 u.char.toNat) ++
    ", which XML cannot represent"

def inAttributes : List (String × String) → Option Unwritable
  | [] => none
  | (key, value) :: rest =>
    match value.toList.find? fun c => !isChar c with
    | some char => some ⟨key, char⟩
    | none => inAttributes rest

end Unwritable

namespace Markup

mutual

/-- The first character, in the order of writing, that cannot be written. -/
def unwritable? : Markup → Option Unwritable
  | leaf _ attributes => Unwritable.inAttributes attributes
  | branch _ attributes children =>
    (Unwritable.inAttributes attributes).or (listUnwritable? children)

def listUnwritable? : List Markup → Option Unwritable
  | [] => none
  | m :: ms => (unwritable? m).or (listUnwritable? ms)

end

def attributeText (a : String × String) : List Char :=
  ' ' :: a.1.toList ++ '=' :: '"' :: AttributeValue.encode a.2.toList ++ ['"']

/-- A tag without its angle brackets. -/
def tagText (tag : String) (attributes : List (String × String)) : List Char :=
  tag.toList ++ attributes.flatMap attributeText

def indent (depth : Nat) : List Char := List.replicate (2 * depth) ' '

mutual

/-- An element on lines that each begin with a line feed. -/
def lines (depth : Nat) : Markup → List Char
  | leaf tag attributes => '\n' :: indent depth ++ '<' :: tagText tag attributes ++ ['/', '>']
  | branch tag attributes children =>
    '\n' :: indent depth ++ '<' :: tagText tag attributes ++
      '>' :: listLines (depth + 1) children ++
      '\n' :: indent depth ++ '<' :: '/' :: tag.toList ++ ['>']

def listLines (depth : Nat) : List Markup → List Char
  | [] => []
  | m :: ms => lines depth m ++ listLines depth ms

end

def declaration : List Char := "<?xml version=\"1.0\" encoding=\"UTF-8\"?>".toList

/-- The document with this root. -/
def render (m : Markup) : String := String.ofList (declaration ++ lines 0 m)

/-- Writes a document unless a value holds a character that XML cannot represent. -/
def write (m : Markup) : Except Unwritable String :=
  match m.unwritable? with
  | some u => .error u
  | none => .ok m.render

end Markup
end EntityDesign.Xml
