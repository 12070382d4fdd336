/-! Characters of YAML. -/
namespace EntityDesign.Yaml

/-- Line feed, carriage return, next line, line separator and paragraph separator. -/
def isBreak (c : Char) : Bool :=
  c == '\n' || c == '\r' || c == '\u0085' || c == '\u2028' || c == '\u2029'

/-- Space and tab. -/
def isBlank (c : Char) : Bool := c == ' ' || c == '\t'

/-- Whether nothing visible comes next on the line. -/
def blankNext : List Char → Bool
  | [] => true
  | c :: _ => isBlank c || isBreak c

/-- Whether a document may contain the character at all. -/
def isChar (c : Char) : Bool :=
  let n := c.toNat
  n == 0x9 || n == 0xA || n == 0xD || (0x20 ≤ n && n ≤ 0x7E) || n == 0x85 ||
    (0xA0 ≤ n && n != 0xFFFE && n != 0xFFFF)

/-- Whether the character is written as it is. -/
def isPrintable (c : Char) : Bool :=
  isChar c && c != '\t' && c != '\r' && c != '\u0085' && c != '\uFEFF'

/-- Whether the line begins with a mark between documents. -/
def isMarker : List Char → Bool
  | '-' :: '-' :: '-' :: cs => blankNext cs
  | '.' :: '.' :: '.' :: cs => blankNext cs
  | _ => false

end EntityDesign.Yaml
