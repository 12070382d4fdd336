import EntityDesign.Sqlite.Token

/-! Tables of a SQLite database and the declared types of their columns. -/
namespace EntityDesign.Sqlite

/-- A column of a table, with the text that declares it. -/
structure TableColumn where
  name : String
  declaration : String
  deriving DecidableEq, Repr

structure Table where
  name : String
  columns : List TableColumn
  deriving DecidableEq, Repr

/-- Keywords that start a constraint, which is no part of the type. -/
def constraintWords : List String := [
  "CONSTRAINT", "PRIMARY", "NOT", "NULL", "UNIQUE", "CHECK", "DEFAULT", "COLLATE", "REFERENCES",
  "AS"]

/-- Whether a constraint starts with a token that has `rest` behind it. -/
def startsConstraint (t : Token) (rest : List Token) : Bool :=
  constraintWords.any t.isKeyword ||
    (t.isKeyword "GENERATED" && rest.head?.any (·.isKeyword "ALWAYS"))

/-- The tokens of a declaration that belong to the type: words, then perhaps a size in
parentheses. -/
def typeTokens : List Token → List Token
  | [] => []
  | t :: ts =>
    if t.isSymbol "(" then
      t :: (ts.takeWhile (!·.isSymbol ")") ++ (ts.dropWhile (!·.isSymbol ")")).take 1)
    else if t.lexeme = .finish || startsConstraint t ts then []
    else t :: typeTokens ts

/-- The text from the first token to the last. -/
def writtenBy (ts : List Token) : List Char :=
  match ts, ts.getLast? with
  | first :: _, some last =>
    first.source.take (first.source.length - last.source.length + last.written.length)
  | _, _ => []

/-- The declared type of a column, if there is one. A name in quotes at
its front is all of it. -/
def TableColumn.declaredType? (c : TableColumn) : Option String :=
  match typeTokens (Token.scan c.declaration.toList) with
  | [] => none
  | t :: ts =>
    if t.lexeme = .quoted || t.lexeme = .text then some t.name
    else some (String.ofList (writtenBy (t :: ts)))

end EntityDesign.Sqlite
