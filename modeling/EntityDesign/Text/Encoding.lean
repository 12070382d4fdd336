/-! Texts as bytes. -/
namespace EntityDesign.Text

/-- The text that bytes encode in UTF-8. -/
def ofUtf8? (bytes : List UInt8) : Option String := String.fromUTF8? ⟨bytes.toArray⟩

/-- The characters of a sequence of 16-bit units. -/
def ofUnits? : List Nat → Option (List Char)
  | [] => some []
  | u :: us =>
    if 0xD800 ≤ u ∧ u ≤ 0xDBFF then
      match us with
      | v :: vs =>
        if 0xDC00 ≤ v ∧ v ≤ 0xDFFF then
          (ofUnits? vs).map (Char.ofNat (0x10000 + (u - 0xD800) * 0x400 + (v - 0xDC00)) :: ·)
        else none
      | [] => none
    else if 0xDC00 ≤ u ∧ u ≤ 0xDFFF then none
    else (ofUnits? us).map (Char.ofNat u :: ·)

/-- Units of two bytes, the lower byte first. -/
def units? : List UInt8 → Option (List Nat)
  | [] => some []
  | [_] => none
  | low :: high :: bytes => (units? bytes).map ((low.toNat + 256 * high.toNat) :: ·)

/-- Exchanges the bytes of each pair. -/
def swapPairs : List UInt8 → List UInt8
  | a :: b :: bytes => b :: a :: swapPairs bytes
  | bytes => bytes

/-- The text without a byte order mark in front. -/
def dropMark : List Char → List Char
  | '\uFEFF' :: cs => cs
  | cs => cs

/-- The text of bytes that may begin with a byte order mark; without one they are UTF-8. -/
def ofMarked? (bytes : List UInt8) : Option (List Char) :=
  match bytes with
  | 0xFF :: 0xFE :: rest => (units? rest).bind ofUnits?
  | 0xFE :: 0xFF :: rest => (units? (swapPairs rest)).bind ofUnits?
  | 0xEF :: 0xBB :: 0xBF :: rest => (ofUtf8? rest).map (·.toList)
  | _ => (ofUtf8? bytes).map (·.toList)

end EntityDesign.Text
