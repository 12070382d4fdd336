import EntityDesign.Yaml.Character

/-! Places in a YAML text. -/
namespace EntityDesign.Yaml

def isWhite (c : Char) : Bool := isBlank c || isBreak c

theorem length_dropWhile_le {α : Type} (p : α → Bool) (s : List α) :
    (s.dropWhile p).length ≤ s.length := (List.dropWhile_suffix p).length_le

/-- The characters behind the last line break. -/
def lastLine (s : List Char) : List Char := (s.reverse.takeWhile fun c => !isBreak c).reverse

/-- A place in a text: its column, what follows, and whether a key or an item may begin here. -/
structure Cursor where
  column : Nat
  fresh : Bool
  rest : List Char
  deriving DecidableEq, Repr

namespace Cursor

def ofText (s : List Char) : Cursor := ⟨0, true, s⟩

/-- What lies between two places. -/
def passed (c : Cursor) (rest : List Char) : List Char := c.rest.take (c.rest.length - rest.length)

/-- Moves to the place where `rest` is left. A key may begin there if white space with a line break
was passed last. -/
def moveTo (c : Cursor) (rest : List Char) : Cursor :=
  let text := c.passed rest
  { column := if text.any isBreak then (lastLine text).length else c.column + text.length
    fresh := (text.reverse.takeWhile isWhite).any isBreak
    rest }

/-- Whether the document ends here. -/
def atEnd (c : Cursor) : Bool := c.rest.isEmpty || (c.column == 0 && isMarker c.rest)

/-- The place behind white space and comments. In block style a tab is no indentation. -/
def skipWhite (flow comment : Bool) (column : Nat) (fresh : Bool) : List Char → Cursor
  | [] => ⟨column, fresh, []⟩
  | c :: cs =>
    if isBreak c then skipWhite flow false 0 (fresh || !flow) cs
    else if comment || c == '#' then skipWhite flow true (column + 1) fresh cs
    else if c == ' ' || (c == '\t' && (flow || !fresh)) then
      skipWhite flow false (column + 1) fresh cs
    else ⟨column, fresh, c :: cs⟩

def skipGap (flow : Bool) (c : Cursor) : Cursor := skipWhite flow false c.column c.fresh c.rest

/-- The place behind the colon that makes the text from `start` to `c` a key: the colon stands on
the same line and at most 1024 characters further on. In block style white space follows it. -/
def afterColon? (flow : Bool) (c start : Cursor) : Option Cursor :=
  match c.rest.dropWhile isBlank with
  | ':' :: cs =>
    let key := start.passed (':' :: cs)
    if (flow || blankNext cs) && !key.any isBreak && key.length ≤ 1024 then some (c.moveTo cs)
    else none
  | _ => none

end Cursor
end EntityDesign.Yaml
