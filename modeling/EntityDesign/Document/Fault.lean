import EntityDesign.Xml.Fault
import EntityDesign.Xml.Markup

/-! Why a document cannot be read or written. -/
namespace EntityDesign

inductive DocumentFault where
  | malformed (fault : Xml.Fault)
  | unwritable (what : Xml.Unwritable)
  | unexpectedRoot (name : String)
  | missingAttribute (element key : String)
  | invalidValue (element key value : String)
  deriving DecidableEq, Repr

def DocumentFault.message : DocumentFault → String
  | malformed fault => "XML error: " ++ fault.message
  | unwritable what => "XML write error: " ++ what.message
  | unexpectedRoot name => "unexpected root element: " ++ name
  | missingAttribute element key => "<" ++ element ++ "> is missing the '" ++ key ++ "' attribute"
  | invalidValue element key value =>
    "<" ++ element ++ "> has an invalid '" ++ key ++ "' value: " ++ value

end EntityDesign
