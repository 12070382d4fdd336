/-! Decimal integers: an optional sign and ASCII digits, within a fixed width. -/
namespace EntityDesign.Text

def natural? (cs : List Char) : Option Nat :=
  if cs ≠ [] ∧ cs.all Char.isDigit then some (Nat.ofDigitChars 10 cs 0) else none

def integer? : List Char → Option Int
  | '-' :: cs => (natural? cs).map fun n => -(n : Int)
  | '+' :: cs => (natural? cs).map fun n => (n : Int)
  | cs => (natural? cs).map fun n => (n : Int)

/-- Reads a signed number of 32 bits. -/
def int32? (s : String) : Option Int32 := do
  let n ← integer? s.toList
  if Int32.minValue.toInt ≤ n ∧ n ≤ Int32.maxValue.toInt then some (Int32.ofInt n) else none

/-- Reads an unsigned number of 32 bits; a minus sign is never accepted. -/
def uint32? (s : String) : Option UInt32 := do
  let n ← match s.toList with
    | '+' :: cs => natural? cs
    | cs => natural? cs
  if n < UInt32.size then some (UInt32.ofNat n) else none

def ofInt32 (n : Int32) : String := toString n.toInt

def ofUInt32 (n : UInt32) : String := toString n.toNat

end EntityDesign.Text
