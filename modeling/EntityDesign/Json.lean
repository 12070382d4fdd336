import EntityDesign.Data

/-! Data as JSON text, one item or field a line, indented by two spaces a level. -/
namespace EntityDesign.Json

def hexDigit (n : Nat) : Char := Nat.digitChar n

/-- Escapes quotes, backslashes and control characters. -/
def escapeChar (c : Char) : List Char :=
  match c with
  | '"' => ['\\', '"']
  | '\\' => ['\\', '\\']
  | '\n' => ['\\', 'n']
  | '\t' => ['\\', 't']
  | '\r' => ['\\', 'r']
  | '\x08' => ['\\', 'b']
  | '\x0C' => ['\\', 'f']
  | c =>
    if c.toNat < 0x20 then
      ['\\', 'u', '0', '0', hexDigit (c.toNat / 16), hexDigit (c.toNat % 16)]
    else [c]

def quote (s : String) : List Char := '"' :: s.toList.flatMap escapeChar ++ ['"']

/-- The start of a line at a depth. -/
def newline (depth : Nat) : List Char := '\n' :: List.replicate (2 * depth) ' '

mutual

def render (depth : Nat) : Data → List Char
  | .text s => quote s
  | .flag b => (toString b).toList
  | .list [] => ['[', ']']
  | .list (d :: ds) =>
    '[' :: newline (depth + 1) ++ render (depth + 1) d ++ renderItems (depth + 1) ds ++
      newline depth ++ [']']
  | .record [] => ['{', '}']
  | .record ((k, d) :: fs) =>
    '{' :: newline (depth + 1) ++ quote k ++ ':' :: ' ' :: render (depth + 1) d ++
      renderFields (depth + 1) fs ++ newline depth ++ ['}']

/-- Items behind the first one. -/
def renderItems (depth : Nat) : List Data → List Char
  | [] => []
  | d :: ds => ',' :: newline depth ++ render depth d ++ renderItems depth ds

/-- Fields behind the first one. -/
def renderFields (depth : Nat) : List (String × Data) → List Char
  | [] => []
  | (k, d) :: fs =>
    ',' :: newline depth ++ quote k ++ ':' :: ' ' :: render depth d ++ renderFields depth fs

end

/-- The text of a value, without a final line feed. -/
def print (d : Data) : String := String.ofList (render 0 d)

end EntityDesign.Json
