import EntityDesign.Yaml.Cursor
import EntityDesign.Yaml.Fault
import EntityDesign.Yaml.Implicit

/-! Quoted and plain scalars. White space inside them folds: a single line feed with the blanks
around it is read as a space, and of several line feeds the first is dropped. -/
namespace EntityDesign.Yaml.Flow

/-- What a run of white space stands for. -/
def fold (run : List Char) : List Char :=
  match run.filter isBreak with
  | [] => run
  | ['\n'] => [' ']
  | '\n' :: more => more
  | breaks => breaks

def endsLine (run : List Char) : Bool := run.getLast?.any isBreak

/-- The text up to a single quote, which is written twice inside, and what follows. -/
def single : List Char → Except Fault (List Char × List Char)
  | [] => .error .unclosed
  | '\'' :: '\'' :: cs => (single cs).map fun (s, r) => ('\'' :: s, r)
  | '\'' :: cs => .ok ([], cs)
  | c :: cs =>
    if isWhite c then
      let run := c :: cs.takeWhile isWhite
      let rest := cs.dropWhile isWhite
      if endsLine run && isMarker rest then .error .marker
      else (single rest).map fun (s, r) => (fold run ++ s, r)
    else (single cs).map fun (s, r) => (c :: s, r)
termination_by cs => cs.length
decreasing_by
  all_goals
    have h := length_dropWhile_le isWhite cs
    simp only [List.length_cons]
    omega

/-- The characters with an escape of one letter. -/
def escapes : List (Char × Char) := [
  ('0', '\x00'), ('a', '\x07'), ('b', '\x08'), ('t', '\t'), ('\t', '\t'), ('n', '\n'),
  ('v', '\x0B'), ('f', '\x0C'), ('r', '\r'), ('e', '\x1B'), (' ', ' '), ('"', '"'), ('/', '/'),
  ('\\', '\\'), ('N', '\u0085'), ('_', '\u00A0'), ('L', '\u2028'), ('P', '\u2029')]

/-- The number of digits behind the mark of a numeric escape. -/
def hexWidth? : Char → Option Nat
  | 'x' => some 2
  | 'u' => some 4
  | 'U' => some 8
  | _ => none

/-- The character with a code point of exactly `width` digits. -/
def hexChar? (width : Nat) (s : List Char) : Option Char :=
  let digits := s.take width
  if digits.length < width then none
  else
    match Text.number? 16 digits with
    | some n => if n.isValidChar then some (Char.ofNat n) else none
    | none => none

/-- What an escape stands for, given the text behind the backslash, and how many further characters
belong to it. -/
def escape? (c : Char) (cs : List Char) : Option (Char × Nat) :=
  match hexWidth? c with
  | some width => (hexChar? width cs).map (·, width)
  | none => (escapes.lookup c).map (·, 0)

/-- The text up to a double quote and what follows. A line break behind a backslash says nothing. -/
def double : List Char → Except Fault (List Char × List Char)
  | [] => .error .unclosed
  | '"' :: cs => .ok ([], cs)
  | '\\' :: c :: cs =>
    if isBreak c then
      let run := cs.takeWhile isWhite
      let rest := cs.dropWhile isWhite
      if endsLine (c :: run) && isMarker rest then .error .marker
      else (double rest).map fun (s, r) => (run.filter isBreak ++ s, r)
    else
      match escape? c cs with
      | some (d, n) => (double (cs.drop n)).map fun (s, r) => (d :: s, r)
      | none => .error .escape
  | c :: cs =>
    if isWhite c then
      let run := c :: cs.takeWhile isWhite
      let rest := cs.dropWhile isWhite
      if endsLine run && isMarker rest then .error .marker
      else (double rest).map fun (s, r) => (fold run ++ s, r)
    else if c = '\\' then .error .escape
    else (double cs).map fun (s, r) => (c :: s, r)
termination_by cs => cs.length
decreasing_by
  all_goals
    have h := length_dropWhile_le isWhite cs
    simp only [List.length_cons, List.length_drop]
    omega

/-- Whether a plain scalar may begin here. -/
def startsPlain (flow : Bool) : List Char → Bool
  | [] => false
  | c :: cs =>
    !(isWhite c || ['-', '?', ':', ',', '[', ']', '{', '}', '#', '&', '*', '!', '|', '>', '\'', '"',
        '%', '@', '\x60'].contains c) ||
      (c == '-' && !blankNext cs) || (!flow && (c == '?' || c == ':') && !blankNext cs)

/-- Whether a plain scalar ends in front of this text. -/
def endsPlain (flow : Bool) : List Char → Bool
  | [] => true
  | c :: cs => (c == ':' && blankNext cs) || (flow && [',', '[', ']', '{', '}'].contains c)

/-- A colon that stands before an indicator of a flow collection. -/
def isStrayColon (flow : Bool) : List Char → Bool
  | ':' :: c :: _ => flow && [',', '?', '[', ']', '{', '}'].contains c
  | _ => false

/-- Whether a tab stands in the first `outer` columns of a further line. -/
def hasTab (outer : Nat) (further : Bool) (column : Nat) : List Char → Bool
  | [] => false
  | c :: cs =>
    if isBreak c then hasTab outer true 0 cs
    else (further && c == '\t' && column < outer) || hasTab outer further (column + 1) cs

/-- Whether a plain scalar ends between the white space `run` and `rest`. In block style its further
lines begin at column `outer` or behind it. -/
def endsBetween (flow : Bool) (outer : Nat) (run rest : List Char) : Bool :=
  rest.head? == some '#' || (endsLine run && isMarker rest) ||
    (!flow && run.any isBreak && (lastLine run).length < outer) || endsPlain flow rest

/-- The text of a plain scalar, without the white space behind it, and what follows that. -/
def plain (flow : Bool) (outer : Nat) : List Char → Except Fault (List Char × List Char)
  | [] => .ok ([], [])
  | c :: cs =>
    if isWhite c then
      let run := c :: cs.takeWhile isWhite
      let rest := cs.dropWhile isWhite
      if hasTab outer false 0 run then .error .tab
      else if endsBetween flow outer run rest then .ok ([], rest)
      else (plain flow outer rest).map fun (s, r) => (fold run ++ s, r)
    else if isStrayColon flow (c :: cs) then .error .indicator
    else if endsPlain flow (c :: cs) then .ok ([], c :: cs)
    else (plain flow outer cs).map fun (s, r) => (c :: s, r)
termination_by cs => cs.length
decreasing_by
  all_goals
    have h := length_dropWhile_le isWhite cs
    simp only [List.length_cons]
    omega

end EntityDesign.Yaml.Flow
