import EntityDesign.Sqlite.Table
import EntityDesign.Text.Encoding

/-! The tables of a database by the bytes of its file. The file is a sequence of pages; the tree of
pages below the first one holds a record for each table, with the text that created it. -/
namespace EntityDesign.Sqlite.Image

/-- The byte at a place; nothing is zero. -/
def byte (b : ByteArray) (i : Nat) : Nat := (b[i]?.map (·.toNat)).getD 0

/-- The number in `n` bytes, the highest first. -/
def number (b : ByteArray) (i n : Nat) : Nat :=
  (List.range n).foldl (fun v k => v * 256 + byte b (i + k)) 0

/-- A number of variable length and the place behind it. The highest bit of a byte says that another
one follows; a ninth byte is taken whole. -/
def varint (b : ByteArray) (i : Nat) : Nat × Nat := go 8 0 i
where
  go : Nat → Nat → Nat → Nat × Nat
    | 0, v, i => (v * 256 + byte b i, i + 1)
    | n + 1, v, i =>
      let c := byte b i
      if c < 128 then (v * 128 + c, i + 1) else go n (v * 128 + (c - 128)) (i + 1)

def mark : List UInt8 := "SQLite format 3\x00".toUTF8.toList

/-- Whether the file begins as a database does. -/
def isImage (b : ByteArray) : Bool := (b.extract 0 16).toList == mark

def pageSize (b : ByteArray) : Nat :=
  let n := number b 16 2
  if n = 1 then 65536 else n

/-- The bytes of a page that may be used. -/
def usable (b : ByteArray) : Nat := pageSize b - byte b 20

def pageStart (b : ByteArray) (page : Nat) : Nat := (page - 1) * pageSize b

def pageCount (b : ByteArray) : Nat := b.size / max 1 (pageSize b) + 1

/-- The bytes of a text as the file encodes it. -/
def decode (b : ByteArray) (bytes : List UInt8) : String :=
  match number b 56 4 with
  | 2 => String.ofList (((Text.units? bytes).bind Text.ofUnits?).getD [])
  | 3 => String.ofList (((Text.units? (Text.swapPairs bytes)).bind Text.ofUnits?).getD [])
  | _ => (Text.ofUtf8? bytes).getD ""

/-- The rest of a payload on the pages of a chain, of which at most `n` are read. -/
def overflow (b : ByteArray) : (n page size : Nat) → ByteArray
  | 0, _, _ => .empty
  | n + 1, page, size =>
    if page = 0 then .empty
    else
      let start := pageStart b page
      let here := min size (usable b - 4)
      b.extract (start + 4) (start + 4 + here) ++ overflow b n (number b start 4) (size - here)

/-- How much of a payload of `size` bytes stands on the page of its record. -/
def localSize (b : ByteArray) (size : Nat) : Nat :=
  let u := usable b
  if size ≤ u - 35 then size
  else
    let least := (u - 12) * 32 / 255 - 23
    let k := least + (size - least) % (u - 4)
    if k ≤ u - 35 then k else least

/-- The payload of the record at a place. -/
def payload (b : ByteArray) (i : Nat) : ByteArray :=
  let (size, i) := varint b i
  let (_, i) := varint b i
  let here := localSize b size
  b.extract i (i + here) ++
    if here < size then overflow b (pageCount b) (number b (i + here) 4) (size - here) else .empty

/-- The size of a value by its type. -/
def valueSize (type : Nat) : Nat :=
  if type ≤ 4 then type
  else if type = 5 then 6
  else if type ≤ 7 then 8
  else (type - 12) / 2

/-- The texts of a record; other values have none. The types stand before the values. -/
def texts (b p : ByteArray) : List (Option String) :=
  let (headerSize, i) := varint p 0
  go headerSize p.size i headerSize
where
  go (headerSize : Nat) : (n i j : Nat) → List (Option String)
    | 0, _, _ => []
    | n + 1, i, j =>
      if headerSize ≤ i then []
      else
        let (type, i) := varint p i
        let size := valueSize type
        let text := if 13 ≤ type ∧ type % 2 = 1 then some (decode b (p.extract j (j + size)).toList)
          else none
        text :: go headerSize n i (j + size)

/-- The records of the tree below a page, down to at most `n` levels. -/
def records (b : ByteArray) : (n page : Nat) → List (List (Option String))
  | 0, _ => []
  | n + 1, page =>
    let start := pageStart b page
    let header := if page = 1 then 100 else start
    let cells := List.range (number b (header + 3) 2)
    match byte b header with
    | 13 => cells.map fun k => texts b (payload b (start + number b (header + 8 + 2 * k) 2))
    | 5 =>
      (cells.flatMap fun k =>
        records b n (number b (start + number b (header + 12 + 2 * k) 2) 4)) ++
        records b n (number b (header + 8) 4)
    | _ => []

/-- The parts between the commas of a list of tokens up to the parenthesis that closes it. -/
def parts (depth : Nat) (part : List Token) : List Token → List (List Token)
  | [] => [part.reverse]
  | t :: ts =>
    if t.isSymbol "(" then parts (depth + 1) (t :: part) ts
    else if t.isSymbol ")" then
      if depth = 0 then [part.reverse] else parts (depth - 1) (t :: part) ts
    else if depth = 0 && t.isSymbol "," then part.reverse :: parts 0 [] ts
    else parts depth (t :: part) ts

/-- The column that a part of a table's definition declares. A constraint declares none. -/
def column? : List Token → Option TableColumn
  | [] => none
  | t :: ts =>
    if ["CONSTRAINT", "PRIMARY", "UNIQUE", "CHECK", "FOREIGN"].any t.isKeyword then none
    else some ⟨t.name, String.ofList (writtenBy ts)⟩

/-- The columns of the text that creates a table. -/
def columns (sql : String) : List TableColumn :=
  let ts := (Token.scan sql.toList).dropWhile (!·.isSymbol "(")
  (parts 0 [] ts.tail).filterMap column?

def table? : List (Option String) → Option Table
  | [some "table", some name, _, _, some sql] => some ⟨name, columns sql⟩
  | _ => none

/-- The tables of a database; none if the file is no database. -/
def tables? (b : ByteArray) : Option (List Table) :=
  if isImage b then some ((records b (pageCount b) 1).filterMap table?) else none

end EntityDesign.Sqlite.Image
