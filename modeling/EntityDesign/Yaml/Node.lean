import EntityDesign.Yaml.Block
import EntityDesign.Yaml.Flow

/-! The values of a YAML document: scalars, lists and mappings, in block and in flow style.
Anchors, aliases, tags and directives are not read. -/
namespace EntityDesign.Yaml

inductive Node where
  /-- A text; `plain` if it has neither quotes nor a block of its own. -/
  | scalar (plain : Bool) (text : String)
  | list (items : List Node)
  | mapping (entries : List (Node × Node))
  deriving Repr, Inhabited

namespace Node
open Cursor

/-- The value where nothing is written. -/
def empty : Node := .scalar true ""

def quoted (s : List Char) : Node := .scalar false (String.ofList s)

/-- Whether an indicator of block style stands here. -/
def isMark (c : Char) : List Char → Bool
  | d :: cs => c == d && blankNext cs
  | [] => false

/-- A block scalar and the place behind it, where a key may begin. -/
def ofBlock (c : Cursor) (s : List Char × List Char) : Node × Cursor :=
  (quoted s.1, { c.moveTo s.2 with fresh := true })

/-- The place behind an indicator in block style, where a key or an item may begin. -/
def afterMark (c : Cursor) : Cursor := ⟨c.column + 1, true, c.rest.tail⟩

mutual

/-- A scalar or a collection in flow style at its first character. The further lines of a plain
scalar in block style begin at column `outer` or behind it. -/
def flowNode (flow : Bool) (outer : Nat) : Nat → Cursor → Except Fault (Node × Cursor)
  | 0, _ => .error .depth
  | n + 1, c =>
    if c.atEnd then .error .marker
    else
      match c.rest with
      | '\'' :: cs => (Flow.single cs).map fun (s, r) => (quoted s, c.moveTo r)
      | '"' :: cs => (Flow.double cs).map fun (s, r) => (quoted s, c.moveTo r)
      | '[' :: cs => (flowItems outer n (c.moveTo cs)).map fun (l, c) => (.list l, c)
      | '{' :: cs => (flowFields outer n (c.moveTo cs)).map fun (l, c) => (.mapping l, c)
      | cs =>
        if Flow.startsPlain flow cs then
          (Flow.plain flow outer cs).map fun (s, r) =>
            (.scalar true (String.ofList s), c.moveTo r)
        else .error .indicator

/-- What stands behind `?` or `:` in a flow collection; perhaps nothing. -/
def flowPart (outer : Nat) : Nat → Cursor → Except Fault (Node × Cursor)
  | 0, _ => .error .depth
  | n + 1, c =>
    let c := c.skipGap true
    match c.rest with
    | ',' :: _ | ':' :: _ | ']' :: _ | '}' :: _ => .ok (empty, c)
    | _ => flowNode true outer n c

/-- The value behind the key that begins at `start` and ends at `c`; nothing without a colon. -/
def flowValue (outer : Nat) : Nat → (start c : Cursor) → Except Fault (Option (Node × Cursor))
  | 0, _, _ => .error .depth
  | n + 1, start, c =>
    match c.afterColon? true start with
    | some c => (flowPart outer n c).map some
    | none => .ok none

/-- A key behind `?` with its value in a flow collection. -/
def flowPair (outer : Nat) : Nat → Cursor → Except Fault ((Node × Node) × Cursor)
  | 0, _ => .error .depth
  | n + 1, c => do
    let (key, c) ← flowPart outer n c
    let c := c.skipGap true
    match c.rest with
    | ':' :: cs => (flowPart outer n (c.moveTo cs)).map fun (value, c) => ((key, value), c)
    | _ => return ((key, empty), c)

/-- The items of a list in flow style up to the bracket. -/
def flowItems (outer : Nat) : Nat → Cursor → Except Fault (List Node × Cursor)
  | 0, _ => .error .depth
  | n + 1, c => do
    let c := c.skipGap true
    match c.rest with
    | ']' :: cs => return ([], c.moveTo cs)
    | rest =>
      let (item, c) ← match rest with
        | '?' :: cs => (flowPair outer n (c.moveTo cs)).map fun (p, c) => (Node.mapping [p], c)
        | _ => do
          let (item, d) ← flowNode true outer n c
          match ← flowValue outer n c d with
          | some (value, d) => pure (Node.mapping [(item, value)], d)
          | none => pure (item, d)
      let c := c.skipGap true
      match c.rest with
      | ',' :: cs => (flowItems outer n (c.moveTo cs)).map fun (l, c) => (item :: l, c)
      | ']' :: cs => return ([item], c.moveTo cs)
      | _ => throw .collection

/-- The fields of a mapping in flow style up to the brace. -/
def flowFields (outer : Nat) : Nat → Cursor → Except Fault (List (Node × Node) × Cursor)
  | 0, _ => .error .depth
  | n + 1, c => do
    let c := c.skipGap true
    match c.rest with
    | '}' :: cs => return ([], c.moveTo cs)
    | rest =>
      let (field, c) ← match rest with
        | '?' :: cs => flowPair outer n (c.moveTo cs)
        | _ => do
          let (key, d) ← flowNode true outer n c
          match ← flowValue outer n c d with
          | some (value, d) => pure ((key, value), d)
          | none => pure ((key, empty), d)
      let c := c.skipGap true
      match c.rest with
      | ',' :: cs => (flowFields outer n (c.moveTo cs)).map fun (l, c) => (field :: l, c)
      | '}' :: cs => return ([field], c.moveTo cs)
      | _ => throw .collection

end

mutual

/-- A value in block style. It stands at column `outer` or behind it; as a part of an entry it may
also be a list at the column of the entry. -/
def blockNode (outer : Nat) (inEntry : Bool) : Nat → Cursor → Except Fault (Node × Cursor)
  | 0, _ => .error .depth
  | n + 1, c =>
    let c := c.skipGap false
    if c.atEnd then .ok (empty, c)
    else if c.column < outer then
      if inEntry && c.column + 1 == outer && c.fresh && isMark '-' c.rest then
        (items c.column n c).map fun (l, c) => (.list l, c)
      else .ok (empty, c)
    else if isMark '-' c.rest then
      if c.fresh then (items c.column n c).map fun (l, c) => (.list l, c) else .error .indicator
    else if isMark '?' c.rest then
      if c.fresh then (entries c.column n c).map fun (l, c) => (.mapping l, c)
      else .error .indicator
    else
      match c.rest with
      | '|' :: cs => (Block.read false outer cs).map (ofBlock c)
      | '>' :: cs => (Block.read true outer cs).map (ofBlock c)
      | _ => do
        let (node, d) ← flowNode false outer (n + 1) c
        match if c.fresh then d.afterColon? false c else none with
        | some d =>
          let (value, d) ← blockNode (c.column + 1) true n d
          (entries c.column n d).map fun (l, d) => (.mapping ((node, value) :: l), d)
        | none => return (node, d)

/-- The items of a list whose dashes stand at a column. -/
def items (column : Nat) : Nat → Cursor → Except Fault (List Node × Cursor)
  | 0, _ => .error .depth
  | n + 1, c =>
    let c := c.skipGap false
    if !c.atEnd && c.column == column && isMark '-' c.rest then do
      let (item, c) ← blockNode (column + 1) false n (afterMark c)
      (items column n c).map fun (l, c) => (item :: l, c)
    else .ok ([], c)

/-- The entries of a mapping whose keys stand at a column. -/
def entries (column : Nat) : Nat → Cursor → Except Fault (List (Node × Node) × Cursor)
  | 0, _ => .error .depth
  | n + 1, c =>
    let c := c.skipGap false
    if c.atEnd || c.column != column then .ok ([], c)
    else if isMark '?' c.rest then do
      let (key, c) ← blockNode (column + 1) true n (afterMark c)
      let c := c.skipGap false
      let (value, c) ←
        if !c.atEnd && c.column == column && c.fresh && isMark ':' c.rest then
          blockNode (column + 1) true n (afterMark c)
        else pure (empty, c)
      (entries column n c).map fun (l, c) => ((key, value) :: l, c)
    else do
      let (key, d) ← flowNode false (column + 1) (n + 1) c
      match d.afterColon? false c with
      | some d =>
        let (value, d) ← blockNode (column + 1) true n d
        (entries column n d).map fun (l, d) => ((key, value) :: l, d)
      | none => throw .key

end

end Node

/-- Line feeds in place of all ordinary line breaks. -/
def unifyBreaks : List Char → List Char
  | '\r' :: '\n' :: cs => '\n' :: unifyBreaks cs
  | c :: cs => (if c = '\r' ∨ c = '\u0085' then '\n' else c) :: unifyBreaks cs
  | [] => []

/-- Nothing but ends of documents may follow a document. -/
def finishes : (n : Nat) → Cursor → Bool
  | 0, _ => false
  | n + 1, c =>
    let c := c.skipGap false
    match c.rest with
    | [] => true
    | '.' :: cs => c.atEnd && finishes n ⟨3, false, cs.drop 2⟩
    | _ => false

/-- Reads a text with at most one document. -/
def read (text : List Char) : Except Fault (Option Node) := do
  if !text.all isChar then throw .character
  let text := unifyBreaks text
  let fuel := 4 * text.length + 4
  let c := (Cursor.ofText text).skipGap false
  if c.rest.isEmpty then return none
  let (node, c) ←
    if c.atEnd then
      if c.rest.head? = some '-' then
        Node.blockNode 0 false fuel ⟨3, false, c.rest.drop 3⟩
      else throw .marker
    else Node.blockNode 0 false fuel c
  if finishes fuel c then return some node else throw .secondDocument

end EntityDesign.Yaml
