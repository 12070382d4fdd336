import EntityDesign.Yaml.Cursor
import EntityDesign.Yaml.Fault

/-! Literal and folded block scalars. -/
namespace EntityDesign.Yaml.Block

/-- What becomes of the line breaks at the end. -/
inductive Chomp where
  | strip | clip | keep
  deriving DecidableEq, Repr

/-- What the line of the indicator says: the indentation, if given, and the chomping. -/
structure Header where
  increment : Nat := 0
  chomp : Chomp := .clip
  deriving DecidableEq, Repr

def chomp? : Char → Option Chomp
  | '+' => some .keep
  | '-' => some .strip
  | _ => none

/-- The header in either order of its two parts, and what follows. -/
def header : List Char → Except Fault (Header × List Char)
  | [] => .ok ({}, [])
  | c :: cs =>
    match chomp? c, cs with
    | some chomp, d :: ds =>
      if d.isDigit then increment d ds { chomp } else .ok ({ chomp }, d :: ds)
    | some chomp, [] => .ok ({ chomp }, [])
    | none, d :: ds =>
      if c.isDigit then
        match chomp? d with
        | some chomp => increment c ds { chomp }
        | none => increment c (d :: ds) {}
      else .ok ({}, c :: cs)
    | none, [] => if c.isDigit then increment c [] {} else .ok ({}, c :: cs)
where
  increment (digit : Char) (rest : List Char) (h : Header) : Except Fault (Header × List Char) :=
    if digit = '0' then .error .header
    else .ok ({ h with increment := digit.toNat - '0'.toNat }, rest)

/-- What follows a header on its line: blanks, perhaps a comment, and the line break. -/
def endOfHeader (s : List Char) : Except Fault (List Char) :=
  let s := s.dropWhile isBlank
  let s := if s.head? = some '#' then s.dropWhile fun c => !isBreak c else s
  match s with
  | [] => .ok []
  | c :: cs => if isBreak c then .ok cs else .error .header

/-- The greatest column that the leading spaces of the first lines reach, up to the first line with
text. -/
def reach (column best : Nat) : List Char → Nat
  | [] => max best column
  | c :: cs =>
    if c = ' ' then reach (column + 1) best cs
    else if isBreak c then reach 0 (max best column) cs
    else max best column

/-- Skips empty lines and indentation, of at most `indent` columns. Gives the breaks, the column and
what follows. -/
def margin (indent column : Nat) : List Char → Except Fault (List Char × Nat × List Char)
  | [] => .ok ([], column, [])
  | c :: cs =>
    if c = ' ' ∧ column < indent then margin indent (column + 1) cs
    else if c = '\t' ∧ column < indent then .error .tab
    else if isBreak c then (margin indent 0 cs).map fun (breaks, k, r) => (c :: breaks, k, r)
    else .ok ([], column, c :: cs)

/-- A line of text with its line break, which the end of the document may lack, and the breaks of
the empty lines behind it. -/
structure Line where
  text : List Char
  ending : List Char
  empties : List Char
  deriving DecidableEq, Repr

/-- The lines that begin at column `indent`, at most `n` of them. -/
def lines (indent : Nat) : (n column : Nat) → List Char → Except Fault (List Line × List Char)
  | 0, _, s => .ok ([], s)
  | n + 1, column, s =>
    if column ≠ indent ∨ s = [] then .ok ([], s)
    else
      let text := s.takeWhile fun c => !isBreak c
      let rest := s.dropWhile fun c => !isBreak c
      match margin indent 0 (rest.drop 1) with
      | .error e => .error e
      | .ok (empties, column, rest') =>
        (lines indent n column rest').map fun (ls, r) => (⟨text, rest.take 1, empties⟩ :: ls, r)

def startsBlank (s : List Char) : Bool := s.head?.any isBlank

/-- The text of lines that follow a line. Folding joins two lines that begin with no blank. -/
def join (folded : Bool) (before : Line) : List Line → List Char
  | [] => []
  | l :: ls =>
    let gap :=
      if folded && before.ending == ['\n'] && !startsBlank before.text && !startsBlank l.text then
        if before.empties.isEmpty then [' '] else before.empties
      else before.ending ++ before.empties
    gap ++ l.text ++ join folded l ls

/-- The line breaks that stay at the end. -/
def tail (chomp : Chomp) (last : Line) : List Char :=
  match chomp with
  | .strip => []
  | .clip => last.ending
  | .keep => last.ending ++ last.empties

/-- The text of the lines behind the empty lines `empties`. -/
def content (folded : Bool) (chomp : Chomp) (empties : List Char) (ls : List Line) : List Char :=
  match ls with
  | [] => tail chomp ⟨[], [], empties⟩
  | l :: rest =>
    empties ++ l.text ++ join folded l rest ++ tail chomp ((l :: rest).getLast?.getD l)

/-- Reads what follows the indicator. The text is indented by `outer` columns at least. -/
def read (folded : Bool) (outer : Nat) (s : List Char) : Except Fault (List Char × List Char) := do
  let (h, s) ← header s
  let s ← endOfHeader s
  let indent := if h.increment = 0 then max (max (reach 0 0 s) outer) 1 else outer - 1 + h.increment
  let (empties, column, s) ← margin indent 0 s
  let (ls, s) ← lines indent s.length column s
  return (content folded h.chomp empties ls, s)

end EntityDesign.Yaml.Block
