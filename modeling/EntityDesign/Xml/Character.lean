import EntityDesign.Text.Ranges

/-! Characters of XML: what a document may contain and what a name may be made of. -/
namespace EntityDesign.Xml
open Text

def isSpace (c : Char) : Bool := c == ' ' || c == '\t' || c == '\n' || c == '\r'

/-- Whether a document may contain the character at all. -/
def isChar (c : Char) : Bool :=
  isSpace c || (0x20 ≤ c.toNat && c.toNat != 0xFFFE && c.toNat != 0xFFFF)

def nameStarts : Ranges := [
  (0x41, 0x5A), (0x5F, 0x5F), (0x61, 0x7A), (0xC0, 0xD6), (0xD8, 0xF6), (0xF8, 0x2FF),
  (0x370, 0x37D), (0x37F, 0x1FFF), (0x200C, 0x200D), (0x2070, 0x218F), (0x2C00, 0x2FEF),
  (0x3001, 0xD7FF), (0xF900, 0xFDCF), (0xFDF0, 0xFFFD), (0x10000, 0xEFFFF)]

def nameMiddles : Ranges := [
  (0x2D, 0x2E), (0x30, 0x39), (0xB7, 0xB7), (0x300, 0x36F), (0x203F, 0x2040)]

/-- Whether a name without colon may begin with the character. -/
def isNameStart (c : Char) : Bool := nameStarts.contains c

/-- Whether a name without colon may go on with the character. -/
def isNamePart (c : Char) : Bool := isNameStart c || nameMiddles.contains c

end EntityDesign.Xml
