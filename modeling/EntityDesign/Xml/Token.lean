import EntityDesign.Xml.AttributeValue

/-! The tokens of an XML document. -/
namespace EntityDesign.Xml

/-- A name as written: an optional qualifier before a colon and a local part. -/
structure QName where
  qualifier : String
  localPart : String
  deriving DecidableEq, Repr

def QName.text (n : QName) : String :=
  if n.qualifier = "" then n.localPart else n.qualifier ++ ":" ++ n.localPart

inductive Token where
  | start (name : QName) (attributes : List (QName × String)) (isEmpty : Bool)
  | finish (name : QName)
  /-- Literal white space. -/
  | space (content : String)
  | text (content : String)
  | comment (content : String)
  | instruction (target content : String)
  deriving DecidableEq, Repr

namespace Token

/-- Splits at the first occurrence of a mark. -/
def breakAt (mark : List Char) : List Char → Option (List Char × List Char)
  | [] => none
  | c :: cs =>
    if mark.isPrefixOf (c :: cs) then some ([], (c :: cs).drop mark.length)
    else (breakAt mark cs).map fun p => (c :: p.1, p.2)

def skipSpaces (s : List Char) : List Char := s.dropWhile isSpace

/-- What is left of `s` behind the text `mark`. -/
def after? (mark s : List Char) : Option (List Char) :=
  if mark.isPrefixOf s then some (s.drop mark.length) else none

def startsName : List Char → Bool
  | [] => false
  | c :: _ => isNameStart c

/-- The qualified name made of these characters. The qualifier may be empty. -/
def qname? (s : List Char) : Option QName :=
  match s.dropWhile (· != ':') with
  | [] => if startsName s then some ⟨"", String.ofList s⟩ else none
  | _ :: part =>
    let qualifier := s.takeWhile (· != ':')
    if (qualifier.isEmpty || startsName qualifier) && startsName part && !part.contains ':' then
      some ⟨String.ofList qualifier, String.ofList part⟩
    else none

def isQNamePart (c : Char) : Bool := c == ':' || isNamePart c

def readQName (s : List Char) : Except Fault (QName × List Char) :=
  match qname? (s.takeWhile isQNamePart) with
  | some n => .ok (n, s.dropWhile isQNamePart)
  | none => .error .malformedName

/-- Reads a quoted literal that holds no `<`. -/
def readLiteral : List Char → Except Fault (List Char × List Char)
  | [] => .error .unterminated
  | quote :: s =>
    if quote == '"' || quote == '\'' then
      match s.dropWhile fun c => c != quote && c != '<' with
      | [] => .error .unterminated
      | c :: rest =>
        if c == quote then .ok (s.takeWhile (fun c => c != quote && c != '<'), rest)
        else .error .malformedAttribute
    else .error .malformedAttribute

/-- Reads a name, an equals sign and a literal. -/
def readAttribute (s : List Char) : Except Fault ((QName × List Char) × List Char) := do
  let (name, s) ← readQName s
  match skipSpaces s with
  | '=' :: s =>
    let (value, s) ← readLiteral (skipSpaces s)
    return ((name, value), s)
  | _ => throw .malformedAttribute

/-- Reads attributes up to the end of the tag and says whether the element is empty. Every
attribute has white space before it. -/
def readAttributes (s : List Char) :
    Except Fault (List (QName × String) × Bool × List Char) :=
  match skipSpaces s with
  | [] => .error .unterminated
  | '>' :: rest => .ok ([], false, rest)
  | '/' :: rest =>
    match rest with
    | '>' :: rest => .ok ([], true, rest)
    | _ => .error .malformedTag
  | c :: cs =>
    if (s.head?.map isSpace).getD false then
      match readAttribute (c :: cs) with
      | .error e => .error e
      | .ok ((name, raw), rest) =>
        if _h : rest.length < s.length then
          match AttributeValue.decode raw, readAttributes rest with
          | .ok value, .ok (attributes, isEmpty, rest) =>
            .ok ((name, String.ofList value) :: attributes, isEmpty, rest)
          | .error e, _ => .error e
          | _, .error e => .error e
        else .error .malformedAttribute
    else .error .malformedTag
termination_by s.length

def readComment (s : List Char) : Except Fault (Token × List Char) :=
  match breakAt "-->".toList s with
  | none => .error .unterminated
  | some (content, rest) =>
    if (breakAt "--".toList content).isSome || content.getLast? == some '-' then
      .error .malformedComment
    else .ok (.comment (String.ofList content), rest)

def readSection (s : List Char) : Except Fault (Token × List Char) :=
  match breakAt "]]>".toList s with
  | none => .error .unterminated
  | some (content, rest) => .ok (.text (String.ofList content), rest)

def readInstruction (s : List Char) : Except Fault (Token × List Char) :=
  if "xml ".toList.isPrefixOf s then .error .misplacedDeclaration
  else if !startsName s && s.head? != some ':' then .error .malformedInstruction
  else
    match breakAt "?>".toList (skipSpaces (s.dropWhile isQNamePart)) with
    | none => .error .unterminated
    | some (content, rest) =>
      .ok (.instruction (String.ofList (s.takeWhile isQNamePart)) (String.ofList content), rest)

def readEndTag (s : List Char) : Except Fault (Token × List Char) := do
  let (name, s) ← readQName s
  match skipSpaces s with
  | '>' :: rest => return (.finish name, rest)
  | [] => throw .unterminated
  | _ => throw .malformedTag

def readStartTag (s : List Char) : Except Fault (Token × List Char) := do
  let (name, s) ← readQName s
  let (attributes, isEmpty, s) ← readAttributes s
  return (.start name attributes isEmpty, s)

/-- Text up to the next markup. -/
def readText (s : List Char) : Except Fault (Token × List Char) :=
  let raw := s.takeWhile (· != '<')
  let rest := s.dropWhile (· != '<')
  if raw.all isSpace then .ok (.space (String.ofList raw), rest)
  else if (breakAt "]]>".toList raw).isSome then .error .sectionEnd
  else
    match AttributeValue.expand false raw with
    | .ok content => .ok (.text (String.ofList content), rest)
    | .error e => .error e

/-- The first token of a text. -/
def next (s : List Char) : Except Fault (Token × List Char) :=
  match s with
  | '<' :: '/' :: s => readEndTag s
  | '<' :: '?' :: s => readInstruction s
  | '<' :: '!' :: s =>
    match after? "--".toList s, after? "[CDATA[".toList s with
    | some s, _ => readComment s
    | none, some s => readSection s
    | none, none => .error .doctype
  | '<' :: s => readStartTag s
  | s => readText s

/-- The tokens of a text. -/
def all (s : List Char) : Except Fault (List Token) :=
  if s.isEmpty then .ok []
  else
    match next s with
    | .error e => .error e
    | .ok (t, rest) =>
      if _h : rest.length < s.length then
        match all rest with
        | .ok ts => .ok (t :: ts)
        | .error e => .error e
      else .error .unterminated
termination_by s.length

/-- What follows the declaration, if the text begins with one. -/
def skipDeclaration (s : List Char) : Except Fault (List Char) :=
  match after? "<?xml ".toList s with
  | none => .ok s
  | some s => do
    let s ← version (skipSpaces s)
    let s ← optional "encoding" s
    let s ← optional "standalone" s
    match after? "?>".toList (skipSpaces s) with
    | some rest => return rest
    | none => throw .malformedDeclaration
where
  /-- Declarations of the same tag are parted by white space. -/
  parted (s : List Char) : Except Fault (List Char) :=
    if (s.head?.map isSpace).getD true || "?>".toList.isPrefixOf s then .ok (skipSpaces s)
    else .error .malformedDeclaration
  version (s : List Char) : Except Fault (List Char) := do
    let ((name, _), s) ← readAttribute s
    if name.text = "version" then parted s else throw .malformedDeclaration
  optional (key : String) (s : List Char) : Except Fault (List Char) :=
    match after? key.toList s with
    | none => .ok s
    | some _ => do
      let ((name, _), s) ← readAttribute s
      if name.text = key then parted s else throw .malformedDeclaration

end Token
end EntityDesign.Xml
