import EntityDesign.Yaml.Character
import EntityDesign.Yaml.Implicit

/-! How a text is written as a YAML scalar: plainly where possible, else in single quotes, as a
literal block if it has line feeds, and in double quotes with escapes if nothing else will do. -/
namespace EntityDesign.Yaml

inductive Style where
  | plain | single | double | literal
  deriving DecidableEq, Repr

namespace Scalar

/-- Characters that may not begin a plain scalar. -/
def isIndicator (c : Char) : Bool :=
  ['#', ',', '[', ']', '{', '}', '&', '*', '!', '|', '>', '\'', '"', '%', '@', '\x60'].contains c

/-- Whether the text, behind its first character, would end a plain scalar early. -/
def breaksOff (blankBefore : Bool) : List Char → Bool
  | [] => false
  | c :: cs =>
    (c == ':' && blankNext cs) || (c == '#' && blankBefore) ||
      breaksOff (isBlank c || isBreak c) cs

/-- Whether a plain scalar of this text would be read as markup. -/
def hasIndicators (s : List Char) : Bool :=
  ['-', '-', '-'].isPrefixOf s || ['.', '.', '.'].isPrefixOf s ||
    match s with
    | [] => false
    | c :: cs =>
      isIndicator c || ((c == '?' || c == ':' || c == '-') && blankNext cs) ||
        breaksOff (isBlank c || isBreak c) cs

/-- Whether a character of the first class is directly followed by one of the second. -/
def hasPair (f g : Char → Bool) : List Char → Bool
  | c :: d :: cs => (f c && g d) || hasPair f g (d :: cs)
  | _ => false

def isSpace (c : Char) : Bool := c == ' '

def isMultiline (s : List Char) : Bool := s.any isBreak

/-- Whether the text has only printable characters and no space before a line break. -/
def isRegular (s : List Char) : Bool := s.all isPrintable && !hasPair isSpace isBreak s

def allowsPlain (s : List Char) : Bool :=
  isRegular s && !isMultiline s && !s.isEmpty && s.head? != some ' ' && s.getLast? != some ' ' &&
    !hasIndicators s

def allowsSingle (s : List Char) : Bool := isRegular s && !hasPair isBreak isSpace s

def allowsLiteral (s : List Char) : Bool := isRegular s && s.getLast? != some ' '

/-- The style of a text. -/
def style (s : String) : Style :=
  if s.toList.contains '\n' then if allowsLiteral s.toList then .literal else .double
  else if !Implicit.isAmbiguous s && allowsPlain s.toList then .plain
  else if allowsSingle s.toList then .single
  else .double

def spaces (n : Nat) : List Char := List.replicate n ' '

/-- The body of a single-quoted scalar; behind a line break the text goes on at `indent`. -/
def singleBody (indent : Nat) (atBreak : Bool) : List Char → List Char
  | [] => if atBreak then spaces indent else []
  | c :: cs =>
    if isBreak c then c :: singleBody indent true cs
    else
      (if atBreak then spaces indent else []) ++ (if c = '\'' then ['\'', '\''] else [c]) ++
        singleBody indent false cs

/-- A character inside double quotes. -/
def escapeChar (c : Char) : List Char :=
  if c == '"' then ['\\', '"']
  else if c == '\\' then ['\\', '\\']
  else if isPrintable c && !isBreak c then [c]
  else
    match c with
    | '\x00' => ['\\', '0']
    | '\x07' => ['\\', 'a']
    | '\x08' => ['\\', 'b']
    | '\t' => ['\\', 't']
    | '\n' => ['\\', 'n']
    | '\x0B' => ['\\', 'v']
    | '\x0C' => ['\\', 'f']
    | '\r' => ['\\', 'r']
    | '\x1B' => ['\\', 'e']
    | '\u0085' => ['\\', 'N']
    | '\u2028' => ['\\', 'L']
    | '\u2029' => ['\\', 'P']
    | c =>
      if c.toNat ≤ 0xFF then '\\' :: 'x' :: Text.hexadecimal 2 c.toNat
      else if c.toNat ≤ 0xFFFF then '\\' :: 'u' :: Text.hexadecimal 4 c.toNat
      else '\\' :: 'U' :: Text.hexadecimal 8 c.toNat

/-- The lines of a literal block, each non-empty one at `indent`. -/
def literalBody (indent : Nat) (atBreak : Bool) : List Char → List Char
  | [] => if atBreak then [] else ['\n']
  | c :: cs =>
    if isBreak c then c :: literalBody indent true cs
    else (if atBreak then spaces indent else []) ++ c :: literalBody indent false cs

/-- The indentation digit of a literal block, needed if its first line is blank or indented. -/
def indentHint (s : List Char) : List Char :=
  match s with
  | c :: _ => if c == ' ' || isBreak c then ['2'] else []
  | [] => []

/-- What becomes of the line breaks at the end of a literal block. -/
def chompHint (s : List Char) : List Char :=
  match s.reverse with
  | [] => ['-']
  | [c] => if isBreak c then ['+'] else ['-']
  | c :: d :: _ => if !isBreak c then ['-'] else if isBreak d then ['+'] else []

/-- A scalar whose further lines are indented by `indent`, with the line feed that ends it. -/
def write (indent : Nat) (s : String) : List Char :=
  let cs := s.toList
  match style s with
  | .plain => cs ++ ['\n']
  | .single => '\'' :: singleBody indent false cs ++ ['\'', '\n']
  | .double => '"' :: cs.flatMap escapeChar ++ ['"', '\n']
  | .literal => '|' :: indentHint cs ++ chompHint cs ++ '\n' :: literalBody indent true cs

/-- Whether a text may stand before a colon: on one line and at most 128 bytes long. -/
def isSimpleKey (s : String) : Bool := !isMultiline s.toList && s.utf8ByteSize ≤ 128

end Scalar
end EntityDesign.Yaml
