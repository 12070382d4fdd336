/-! Why a text is no single YAML document. -/
namespace EntityDesign.Yaml

inductive Fault where
  | character
  | tab
  | unclosed
  | escape
  | marker
  | header
  | indicator
  | key
  | collection
  | depth
  | secondDocument
  deriving DecidableEq, Repr

def Fault.message : Fault → String
  | character => "a character that YAML does not allow"
  | tab => "a tab where indentation is expected"
  | unclosed => "a scalar that is not closed"
  | escape => "an unknown escape"
  | marker => "a document marker inside a value"
  | header => "a malformed block scalar header"
  | indicator => "an indicator where a value is expected"
  | key => "a key is expected"
  | collection => "a collection that is not closed"
  | depth => "too many nested values"
  | secondDocument => "more than one document"

end EntityDesign.Yaml
