/-! Plain data, the common source of the machine-readable formats. -/
namespace EntityDesign

/-- Texts and flags, in lists and in records with ordered fields. -/
inductive Data where
  | text (s : String)
  | flag (b : Bool)
  | list (items : List Data)
  | record (fields : List (String × Data))
  deriving Repr, Inhabited

namespace Data

def texts (l : List String) : Data := .list (l.map .text)

end Data
end EntityDesign
