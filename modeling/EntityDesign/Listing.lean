import EntityDesign.ChangeReport

/-! Tables and lists for people to read. -/
namespace EntityDesign.Listing

/-- Fills up with blanks to a number of characters. -/
def pad (width : Nat) (s : String) : String :=
  s ++ String.ofList (List.replicate (width - s.length) ' ')

def line (s : String) : String := s ++ "\n"

def lines (l : List String) : String := String.join (l.map line)

/-- The width of a column of names: the bytes of the longest one. -/
def nameWidth (names : List String) : Nat := (names.map (·.utf8ByteSize)).foldl max 0

def row (width : Nat) (name hostType rest : String) : String :=
  "  " ++ pad width name ++ "  " ++ pad 10 hostType ++ "  " ++ rest

def parameters (l : List Parameter) : String :=
  let width := nameWidth (l.map (·.name))
  lines ("Parameters:" :: l.map fun p =>
    row width p.name p.hostType (p.dbType.word ++ if p.isOutput then "  output" else ""))

def columns (l : List Column) : String :=
  let width := nameWidth (l.map (·.name))
  lines ("Columns:" :: l.map fun c => row width c.name c.hostType c.dbType)

def signature (s : Signature) : String :=
  match s.parameters, s.columns with
  | [], [] => line "(no parameters, no columns)"
  | ps, [] => parameters ps
  | [], cs => columns cs
  | ps, cs => line (parameters ps) ++ columns cs

def mismatches (l : List Mismatch) : String := lines (l.map (·.message))

def status (r : ChangeReport) : String :=
  if !r.accepted then "CANCELLED" else if r.needsAttention then "FAIL" else "OK"

def report (r : ChangeReport) : String :=
  line (pad 20 r.entity ++ " " ++ status r ++
      if r.columnsChanged then "  [columns changed]" else "") ++
    lines (r.mismatches.map fun m => "  ~ " ++ m.message) ++
    lines (r.ok.map ("  ok     " ++ ·)) ++
    lines (r.unfit.map ("  error  " ++ ·)) ++
    lines (r.failures.map fun f => "  failed " ++ f.query ++ ": " ++ f.message) ++
    match r.summary with
    | some s => line "" ++ line s
    | none => ""

end EntityDesign.Listing
