import EntityDesign.Text.Blank
import EntityDesign.Text.Lowercase

/-! The types that columns of a SQLite table are declared with, as relational type names. -/
namespace EntityDesign.Sqlite
namespace DeclaredType

/-- The relational names of the types that SQLite spells differently. -/
def aliases : List (String × String) := [
  ("integer", "bigint"), ("boolean", "bit"), ("bool", "bit"), ("blob", "varbinary"),
  ("double", "float"), ("double precision", "float"), ("clob", "text")]

/-- The name in front of any size, in lower case. -/
def base (s : List Char) : List Char :=
  let lower := Text.lowercase (Text.trim s)
  if lower.contains '(' then Text.trimEnd (lower.takeWhile (· != '(')) else lower

/-- The relational type name of a declaration. -/
def normalize (text : String) : String :=
  let name := String.ofList (base text.toList)
  (aliases.lookup name).getD name

/-- The relational type name of a result column without a declaration. -/
def untyped : String := "sql_variant"

end DeclaredType
end EntityDesign.Sqlite
