import EntityDesign.Text.Alphabetic
import EntityDesign.Text.Numeric

/-! Identifiers: letters, ASCII digits and underscores, not beginning with a digit. -/
namespace EntityDesign.Identifier
open Text

/-- Letters that are no numbers, and the ASCII digits. -/
def isLetterOrDigit (c : Char) : Bool :=
  c.isDigit || (isAlphabetic c && !isNumeric c)

/-- Keeps letters and digits; anything else becomes an underscore. -/
def safeChar (c : Char) : Char := if isLetterOrDigit c then c else '_'

/-- Puts an underscore before a leading digit and replaces every other forbidden character. -/
def sanitizeChars : List Char → List Char
  | [] => []
  | c :: cs => (if c.isDigit then ['_'] else []) ++ (c :: cs).map safeChar

/-- The identifier made from an arbitrary text. -/
def sanitize (text : String) : String := String.ofList (sanitizeChars text.toList)

@[simp] theorem toList_sanitize (text : String) :
    (sanitize text).toList = sanitizeChars text.toList := by simp [sanitize]

@[simp] theorem sanitizeChars_nil : sanitizeChars [] = [] := rfl

@[simp] theorem sanitize_empty : sanitize "" = "" := by simp [sanitize]

end EntityDesign.Identifier
