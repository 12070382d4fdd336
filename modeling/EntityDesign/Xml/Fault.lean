/-! Why a text is no well-formed XML document. -/
namespace EntityDesign.Xml

inductive Fault where
  | invalidCharacter
  | malformedName
  | malformedAttribute
  | malformedReference
  | malformedTag
  | malformedComment
  | malformedInstruction
  | malformedDeclaration
  | misplacedDeclaration
  | doctype
  | unterminated
  | sectionEnd
  | textOutsideRoot
  | mismatchedEnd (found : String)
  | unclosed (tag : String)
  | secondRoot
  | noRoot
  | unknownNamespace (qualifier : String)
  | reservedNamespace
  | duplicateAttribute (name : String)
  deriving DecidableEq, Repr

def Fault.message : Fault → String
  | invalidCharacter => "a character that XML does not allow"
  | malformedName => "a malformed name"
  | malformedAttribute => "a malformed attribute"
  | malformedReference => "a malformed entity or character reference"
  | malformedTag => "a malformed tag"
  | malformedComment => "a malformed comment"
  | malformedInstruction => "a malformed processing instruction"
  | malformedDeclaration => "a malformed declaration"
  | misplacedDeclaration => "a declaration that is not at the start"
  | doctype => "a document type definition"
  | unterminated => "an unexpected end"
  | sectionEnd => "']]>' inside text"
  | textOutsideRoot => "text outside the root element"
  | mismatchedEnd found => "an end tag '" ++ found ++ "' that closes no open element"
  | unclosed tag => "the element '" ++ tag ++ "' is not closed"
  | secondRoot => "more than one root element"
  | noRoot => "no root element"
  | unknownNamespace qualifier => "an unknown namespace '" ++ qualifier ++ "'"
  | reservedNamespace => "a reserved namespace"
  | duplicateAttribute name => "a repeated attribute '" ++ name ++ "'"

end EntityDesign.Xml
