import EntityDesign.Text.Digits

/-! Unquoted texts that stand for something other than themselves: nothing, a truth value or a
number. -/
namespace EntityDesign.Yaml.Implicit
open Text

def isNull (s : String) : Bool := ["", "null", "Null", "NULL", "~"].contains s

def isBool (s : String) : Bool := ["true", "True", "TRUE", "false", "False", "FALSE"].contains s

/-- Digits with needless zeros in front, with or without a sign. -/
def isPaddedDigits (s : List Char) : Bool :=
  match match s with
    | '-' :: cs => cs
    | '+' :: cs => cs
    | cs => cs with
  | '0' :: c :: cs => (c :: cs).all Char.isDigit
  | _ => false

/-- The value of a number with a radix mark. -/
def radix? : List Char → Option Nat
  | '0' :: 'x' :: cs => number? 16 cs
  | '0' :: 'o' :: cs => number? 8 cs
  | '0' :: 'b' :: cs => number? 2 cs
  | _ => none

/-- Integers with a radix mark and a width of at most 128 bits. -/
def isRadixInteger (s : List Char) : Bool :=
  match s with
  | '-' :: cs => ((radix? cs).map (decide <| · ≤ Nat.pow 2 127)).getD false
  | '+' :: cs => ((radix? cs).map (decide <| · < Nat.pow 2 128)).getD false
  | cs => ((radix? cs).map (decide <| · < Nat.pow 2 128)).getD false

/-- A power of ten behind a mantissa. -/
def exponent? : List Char → Option Int
  | [] => some 0
  | e :: cs =>
    if e == 'e' || e == 'E' then
      match cs with
      | '-' :: ds => (number? 10 ds).map fun n => -(n : Int)
      | '+' :: ds => (number? 10 ds).map fun n => (n : Int)
      | ds => (number? 10 ds).map fun n => (n : Int)
    else none

/-- An unsigned decimal number as a natural number times a power of ten. -/
def decimal? (s : List Char) : Option (Nat × Int) :=
  let whole := s.takeWhile Char.isDigit
  let rest := s.dropWhile Char.isDigit
  let (fraction, rest) := match rest with
    | '.' :: cs => (cs.takeWhile Char.isDigit, cs.dropWhile Char.isDigit)
    | cs => ([], cs)
  match number? 10 (whole ++ fraction), exponent? rest with
  | some n, some e => some (n, e - fraction.length)
  | _, _ => none

/-- Whether `n * 10 ^ e` lies below the least number that rounds to infinity in double
precision. -/
def isFinite (n : Nat) (e : Int) : Bool :=
  let size := (Nat.toDigits 10 n).length + e
  let limit := Nat.pow 2 1024 - Nat.pow 2 970
  if n = 0 ∨ size < 300 then true
  else if 310 < size then false
  else if 0 ≤ e then decide (n * Nat.pow 10 e.toNat < limit)
  else decide (n < limit * Nat.pow 10 (-e).toNat)

/-- Decimal numbers, with or without a sign, that are finite in double precision. -/
def isDecimal (s : List Char) : Bool :=
  let unsigned := match s with
    | '-' :: cs => cs
    | '+' :: cs => cs
    | cs => cs
  match decimal? unsigned with
  | some (n, e) => isFinite n e
  | none => false

def isSpecialFloat (s : String) : Bool :=
  [".inf", ".Inf", ".INF", "+.inf", "+.Inf", "+.INF", "-.inf", "-.Inf", "-.INF",
    ".nan", ".NaN", ".NAN"].contains s

/-- Whether a text has to be quoted to stay a text. -/
def isAmbiguous (s : String) : Bool :=
  isNull s || isBool s || isPaddedDigits s.toList || isRadixInteger s.toList ||
    isDecimal s.toList || isSpecialFloat s

end EntityDesign.Yaml.Implicit
