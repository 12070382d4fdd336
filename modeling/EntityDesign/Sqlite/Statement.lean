import EntityDesign.Sqlite.Token

/-! The statements that can be described: `SELECT` and `DELETE` over at most one table. -/
namespace EntityDesign.Sqlite

/-- Why a statement is refused. -/
inductive Fault where
  | unexpected (token : Token)
  | unrecognized (token : Token)
  | incomplete
  | noSuchTable (name : String)
  | noSuchColumn (column : Token)
  /-- `COUNT` in a condition, of a statement that counts its rows or of another. -/
  | misplacedCount (call : Token) (counting : Bool)
  | noTables
  | notADatabase
  deriving DecidableEq, Repr

/-- The message for a fault in `sql`, whose statement text is `text`. -/
def Fault.message (sql : String) (text : List Char) : Fault → String
  | unexpected t =>
    "near \"" ++ String.ofList t.written ++ "\": syntax error" ++ place t
  | unrecognized t => "unrecognized token: \"" ++ String.ofList t.written ++ "\"" ++ place t
  | incomplete => "incomplete input"
  | noSuchTable name => "no such table: " ++ name
  | noSuchColumn t => "no such column: " ++ t.name ++ place t
  | misplacedCount t counting =>
    (if counting then "misuse of aggregate: " else "misuse of aggregate function ") ++ t.name ++
      "()" ++ place t
  | noTables => "no tables specified"
  | notADatabase => "file is not a database"
where
  place (t : Token) : String := " in " ++ sql ++ " at offset " ++ toString (t.offset text)

/-- An operand of an expression. -/
inductive Operand where
  | column (token : Token)
  /-- The number of rows, by the word that asks for it. -/
  | count (call : Token)
  | constant
  deriving DecidableEq, Repr

/-- An item of a result. -/
inductive Item where
  /-- Every column of the table. -/
  | all
  /-- An expression, by its operands; `plain` if it is an operand alone. -/
  | value (operands : List Operand) (plain : Bool) (title : Option String) (written : List Char)
  deriving DecidableEq, Repr

/-- The first operand that counts rows. -/
def Item.count? : Item → Option Token
  | all => none
  | value operands _ _ _ => operands.findSome? fun
    | .count call => some call
    | _ => none

def Item.title? : Item → Option String
  | all => none
  | value _ _ title _ => title

inductive Statement where
  | empty
  | select (items : List Item) (table : Option String) (condition : List Operand)
  | delete (table : String) (condition : List Operand)
  deriving DecidableEq, Repr

namespace Statement

/-- Reads the front of a list of tokens. -/
abbrev Reader (α : Type) := StateT (List Token) (Except Fault) α

namespace Reader

/-- The next token, which stays. -/
def peek : Reader Token := do
  match ← get with
  | t :: _ => return t
  | [] => throw .incomplete

def skip : Reader Unit := modify List.tail

/-- Refuses the next token. -/
def refuse {α : Type} : Reader α := do
  let t ← peek
  match t.lexeme with
  | .finish => throw .incomplete
  | .illegal => throw (.unrecognized t)
  | _ => throw (.unexpected t)

/-- Takes the next token if it passes a test. -/
def accept (p : Token → Bool) : Reader Bool := do
  if p (← peek) then
    skip
    return true
  else return false

def keyword (word : String) : Reader Bool := accept (·.isKeyword word)

def symbol (s : String) : Reader Bool := accept (·.isSymbol s)

def demand (p : Token → Bool) : Reader Unit := do
  unless ← accept p do refuse

end Reader

open Reader

def isName (t : Token) : Bool := t.lexeme == .quoted || (t.lexeme == .word && !t.isReserved)

/-- A name of a table or of a result column, which may also be written as a text. -/
def isTitle (t : Token) : Bool := isName t || t.lexeme == .text

def isConstant (t : Token) : Bool :=
  t.lexeme == .number || t.lexeme == .text || t.lexeme == .variable || t.isKeyword "NULL"

def isSign (t : Token) : Bool := t.isSymbol "+" || t.isSymbol "-"

def isOperator (t : Token) : Bool :=
  ["=", "==", "<>", "!=", "<", "<=", ">", ">=", "+", "-", "*", "/", "%", "||", "&", "|", "<<",
    ">>"].any t.isSymbol || t.isKeyword "AND" || t.isKeyword "OR"

def operand : Reader Operand := do
  let _ ← accept isSign
  let t ← peek
  if isConstant t then
    skip
    return .constant
  else if isName t then
    skip
    if t.isKeyword "COUNT" && (← symbol "(") then
      demand (·.isSymbol "*")
      demand (·.isSymbol ")")
      return .count t
    else return .column t
  else refuse

/-- Operands joined by operators, at most `n` of them. -/
def operands : (n : Nat) → Reader (List Operand)
  | 0 => refuse
  | n + 1 => do
    let first ← operand
    if ← accept isOperator then
      return first :: (← operands n)
    else return [first]

/-- The number of tokens that are left bounds every repetition. -/
def expression : Reader (List Operand) := do operands (← get).length

def title : Reader String := do
  let t ← peek
  demand isTitle
  return t.name

/-- A name after `AS`, or a name that simply follows. -/
def title? : Reader (Option String) := do
  if ← keyword "AS" then return some (← title)
  else if isTitle (← peek) then return some (← title)
  else return none

/-- What is written between two tokens, without blanks at its ends. -/
def between (first last : Token) : List Char :=
  let written := first.source.take (first.source.length - last.source.length)
  (written.reverse.dropWhile Token.isSpace).reverse

def item : Reader Item := do
  if ← symbol "*" then return .all
  else
    let first ← peek
    let found ← expression
    let last ← peek
    let plain := found.length = 1 && !isSign first
    return .value found plain (← title?) (between first last)

def items : (n : Nat) → Reader (List Item)
  | 0 => refuse
  | n + 1 => do
    let first ← item
    if ← symbol "," then
      return first :: (← items n)
    else return [first]

def condition : Reader (List Operand) := do
  if ← keyword "WHERE" then expression else return []

/-- A statement ends at a semicolon or with the text; what follows a semicolon is not read. -/
def finish : Reader Unit := demand fun t => t.isSymbol ";" || t.lexeme == .finish

def readSelect : Reader Statement := do
  let _ ← accept fun t => t.isKeyword "DISTINCT" || t.isKeyword "ALL"
  let found ← items (← get).length
  let table ← if ← keyword "FROM" then do
      let name ← title
      let _ ← title?
      pure (some name)
    else pure none
  let condition ← condition
  finish
  return .select found table condition

def readDelete : Reader Statement := do
  demand (·.isKeyword "FROM")
  let name ← title
  if ← keyword "AS" then
    let _ ← title
  let condition ← condition
  finish
  return .delete name condition

/-- Reads one statement. Semicolons in front of it say nothing. -/
def statement : Reader Statement := do
  modify (·.dropWhile (·.isSymbol ";"))
  if ← keyword "SELECT" then readSelect
  else if ← keyword "DELETE" then readDelete
  else if (← peek).lexeme = .finish then return .empty
  else refuse

def parse (text : List Char) : Except Fault Statement := (statement.run (Token.scan text)).map (·.1)

end Statement
end EntityDesign.Sqlite
