import EntityDesign.Text.Digits

/-! The tokens of SQL text. Blanks and comments stand between tokens and are not tokens. -/
namespace EntityDesign.Sqlite

/-- What a token is, as far as its first characters tell. -/
inductive Lexeme where
  /-- A keyword or a name. -/
  | word
  /-- A name in double quotes, back quotes or brackets. -/
  | quoted
  /-- A text in single quotes. -/
  | text
  | number
  | variable
  | symbol
  /-- No token of the language. -/
  | illegal
  /-- The end of the statement text. -/
  | finish
  deriving DecidableEq, Repr

/-- A token, with the text from its first character on. -/
structure Token where
  lexeme : Lexeme
  written : List Char
  source : List Char
  deriving DecidableEq, Repr

namespace Token

def isSpace (c : Char) : Bool := [' ', '\t', '\n', '\x0b', '\x0c', '\r'].contains c

/-- A vertical tab is blank only after another blank. -/
def startsSpace (c : Char) : Bool := isSpace c && c != '\x0b'

def startsWord (c : Char) : Bool := c.isAlpha || c == '_' || c.toNat ≥ 0x80

def continuesWord (c : Char) : Bool := startsWord c || c.isDigit || c == '$'

/-- The number of leading characters with a property. -/
def run (p : Char → Bool) (cs : List Char) : Nat := (cs.takeWhile p).length

/-- The characters up to the end of a comment and its closing mark. -/
def comment : List Char → Nat
  | '*' :: '/' :: _ => 2
  | _ :: cs => comment cs + 1
  | [] => 0

/-- The characters up to a closing quote, which is doubled inside; nothing if it is missing. -/
def quote? (q : Char) : List Char → Option Nat
  | [] => none
  | [c] => if c = q then some 1 else none
  | c :: d :: cs =>
    if c = q then
      if d = q then (quote? q cs).map (· + 2) else some 1
    else (quote? q (d :: cs)).map (· + 1)

/-- The number of digits that go on behind a digit. An underscore may stand between two. -/
def moreDigits (p : Char → Bool) : List Char → Nat
  | [] => 0
  | [c] => if p c then 1 else 0
  | c :: d :: cs =>
    if p c then moreDigits p (d :: cs) + 1
    else if c == '_' && p d then moreDigits p cs + 2
    else 0

def digits (p : Char → Bool) : List Char → Nat
  | [] => 0
  | c :: cs => if p c then moreDigits p cs + 1 else 0

def isHexDigit (c : Char) : Bool := (Text.digit? 16 c).isSome

/-- The characters of a decimal exponent. -/
def exponent (cs : List Char) : Nat :=
  match cs with
  | e :: c :: rest =>
    if e != 'e' && e != 'E' then 0
    else if c.isDigit then 1 + digits Char.isDigit (c :: rest)
    else if c == '+' || c == '-' then
      match digits Char.isDigit rest with
      | 0 => 0
      | n => 2 + n
    else 0
  | _ => 0

/-- The characters of a decimal number. -/
def decimal (cs : List Char) : Nat :=
  let whole := digits Char.isDigit cs
  match cs.drop whole with
  | '.' :: rest =>
    let places := digits Char.isDigit rest
    whole + 1 + places + exponent (rest.drop places)
  | rest => whole + exponent rest

/-- The characters of a number. -/
def number (cs : List Char) : Nat :=
  match cs with
  | '0' :: x :: rest =>
    match digits isHexDigit rest with
    | 0 => decimal cs
    | n => if x == 'x' || x == 'X' then n + 2 else decimal cs
  | cs => decimal cs

/-- Symbols of two characters. -/
def pairs : List (Char × Char) :=
  [('=', '='), ('<', '='), ('<', '>'), ('<', '<'), ('>', '='), ('>', '>'), ('!', '='), ('|', '|')]

def symbols : List Char := ['(', ')', ';', '+', '-', '*', '/', '%', '=', '<', '>', '|', ',', '&',
  '~', '.']

/-- What starts with `c` before `cs`, and how many characters of `cs` belong to it; `none` stands
for blanks and comments. -/
def next (c : Char) (cs : List Char) : Option Lexeme × Nat :=
  if startsSpace c then (none, run isSpace cs)
  else if c == '\uFEFF' then (none, 0)
  else if c == '-' && cs.head? == some '-' then (none, run (· != '\n') cs)
  else if c == '/' && cs.head? == some '*' && cs.length > 1 then (none, 1 + comment (cs.drop 1))
  else if startsWord c then (some .word, run continuesWord cs)
  else if c.isDigit || (c == '.' && cs.head?.any Char.isDigit) then
    let n := number (c :: cs) - 1
    match run continuesWord (cs.drop n) with
    | 0 => (some .number, n)
    | m => (some .illegal, n + m)
  else if c == '\'' || c == '"' || c == '`' then
    match quote? c cs with
    | some n => (some (if c == '\'' then .text else .quoted), n)
    | none => (some .illegal, cs.length)
  else if c == '[' then
    match run (· != ']') cs with
    | n => if n < cs.length then (some .quoted, n + 1) else (some .illegal, n)
  else if c == '?' then (some .variable, run Char.isDigit cs)
  else if c == '@' || c == ':' || c == '$' || c == '#' then
    match run continuesWord cs with
    | 0 => (some .illegal, 0)
    | n => (some (if c == '#' && cs.head?.any Char.isDigit then .symbol else .variable), n)
  else if pairs.any fun p => p.1 == c && cs.head? == some p.2 then (some .symbol, 1)
  else if symbols.contains c then (some .symbol, 0)
  else (some .illegal, 0)

/-- The tokens of a text, the end included. -/
def scan : List Char → List Token
  | [] => [⟨.finish, [], []⟩]
  | c :: cs =>
    match next c cs with
    | (none, n) => scan (cs.drop n)
    | (some lexeme, n) => ⟨lexeme, c :: cs.take n, c :: cs⟩ :: scan (cs.drop n)
termination_by cs => cs.length
decreasing_by all_goals simp only [List.length_drop, List.length_cons]; omega

/-- The length of a text in bytes. -/
def byteLength (cs : List Char) : Nat := cs.foldl (fun n c => n + c.utf8Size) 0

/-- The bytes of `text` in front of the token. -/
def offset (t : Token) (text : List Char) : Nat := byteLength text - byteLength t.source

/-- Whether the token is a keyword, whatever its case. -/
def isKeyword (t : Token) (keyword : String) : Bool :=
  t.lexeme == .word && t.written.map Char.toUpper == keyword.toList

def isSymbol (t : Token) (symbol : String) : Bool :=
  t.lexeme == .symbol && t.written == symbol.toList

/-- Keywords that are never names. -/
def reserved : List String := [
  "ADD", "ALL", "ALTER", "AND", "AS", "AUTOINCREMENT", "BETWEEN", "CASE", "CHECK", "COLLATE",
  "COMMIT", "CONSTRAINT", "CREATE", "DEFAULT", "DEFERRABLE", "DELETE", "DISTINCT", "DROP", "ELSE",
  "ESCAPE", "EXCEPT", "EXISTS", "FOREIGN", "FROM", "GROUP", "HAVING", "IN", "INDEX", "INSERT",
  "INTERSECT", "INTO", "IS", "ISNULL", "JOIN", "LIMIT", "NOT", "NOTHING", "NOTNULL", "NULL", "ON",
  "OR", "ORDER", "PRIMARY", "REFERENCES", "RETURNING", "SELECT", "SET", "TABLE", "THEN", "TO",
  "TRANSACTION", "UNION", "UNIQUE", "UPDATE", "USING", "VALUES", "WHEN", "WHERE"]

def isReserved (t : Token) : Bool := reserved.any t.isKeyword

/-- Takes the quotes off and undoubles those inside. -/
def unquote : List Char → List Char
  | [] => []
  | q :: cs =>
    if q = '[' then cs.dropLast
    else if q = '\'' || q = '"' || q = '`' then inside q cs.dropLast
    else q :: cs
where
  inside (q : Char) : List Char → List Char
    | [] => []
    | [c] => [c]
    | c :: d :: cs => if c = q && d = q then c :: inside q cs else c :: inside q (d :: cs)

/-- The name that a token stands for. -/
def name (t : Token) : String := String.ofList (unquote t.written)

end Token
end EntityDesign.Sqlite
