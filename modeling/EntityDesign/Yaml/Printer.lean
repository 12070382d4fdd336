import EntityDesign.Data
import EntityDesign.Yaml.Scalar

/-! Data as a YAML document in block style. A record begins two columns further in than its key or
dash; the items of a list stand right under the key. -/
namespace EntityDesign.Yaml
open Scalar

def flagText (b : Bool) : List Char := (toString b).toList ++ ['\n']

/-- A key of a record at column `n`, up to the colon. A text that cannot stand before a colon is
announced by a question mark and has the colon on a line of its own. -/
def keyText (n : Nat) (k : String) : List Char :=
  if isSimpleKey k then (write (n + 2) k).dropLast ++ [':']
  else '?' :: ' ' :: write (n + 2) k ++ spaces n ++ [':']

mutual

/-- A value behind a key at column `n`. -/
def valueText (n : Nat) : Data → List Char
  | .text s => ' ' :: write (n + 2) s
  | .flag b => ' ' :: flagText b
  | .list [] => [' ', '[', ']', '\n']
  | .list (d :: ds) => '\n' :: itemsText n (d :: ds)
  | .record [] => [' ', '{', '}', '\n']
  | .record (f :: fs) => '\n' :: fieldsText (n + 2) (f :: fs)

/-- An item behind a dash at column `n`. -/
def itemText (n : Nat) : Data → List Char
  | .text s => write (n + 2) s
  | .flag b => flagText b
  | .list [] => ['[', ']', '\n']
  | .list (d :: ds) => '-' :: ' ' :: itemText (n + 2) d ++ itemsText (n + 2) ds
  | .record [] => ['{', '}', '\n']
  | .record ((k, d) :: fs) =>
    keyText (n + 2) k ++ valueText (n + 2) d ++ fieldsText (n + 2) fs

/-- Items on lines of their own. -/
def itemsText (n : Nat) : List Data → List Char
  | [] => []
  | d :: ds => spaces n ++ '-' :: ' ' :: itemText n d ++ itemsText n ds

/-- Fields on lines of their own. -/
def fieldsText (n : Nat) : List (String × Data) → List Char
  | [] => []
  | (k, d) :: fs => spaces n ++ keyText n k ++ valueText n d ++ fieldsText n fs

end

/-- The document of a value. -/
def print (d : Data) : String :=
  String.ofList <| match d with
    | .text s => write 2 s
    | .flag b => flagText b
    | .list [] => ['[', ']', '\n']
    | .list ds => itemsText 0 ds
    | .record [] => ['{', '}', '\n']
    | .record fs => fieldsText 0 fs

end EntityDesign.Yaml
