import EntityDesign.Text.Digits
import EntityDesign.Xml.Character
import EntityDesign.Xml.Fault

/-! Attribute values: how they are written between quotes and what a written value means. -/
namespace EntityDesign.Xml.AttributeValue

/-- A character as it is written: markup and quotes as entities, line breaks and tabs as character
references, since literal ones would be read as spaces. -/
def encodeChar : Char → List Char
  | '<' => "&lt;".toList
  | '>' => "&gt;".toList
  | '&' => "&amp;".toList
  | '\'' => "&apos;".toList
  | '"' => "&quot;".toList
  | '\r' => "&#xD;".toList
  | '\n' => "&#xA;".toList
  | '\t' => "&#x9;".toList
  | c => [c]

def encode (s : List Char) : List Char := s.flatMap encodeChar

/-- The character with a code point of 32 bits; a number that is no code point stands for the
replacement character. -/
def charOfNumber? (n : Nat) : Option Char :=
  if n < UInt32.size then
    let c := if n.isValidChar then Char.ofNat n else '\uFFFD'
    if isChar c then some c else none
  else none

/-- The character of the reference whose text between ampersand and semicolon is given. -/
def reference? : List Char → Option Char
  | '#' :: 'x' :: cs => (Text.number? 16 cs).bind charOfNumber?
  | '#' :: cs => (Text.number? 10 cs).bind charOfNumber?
  | ['l', 't'] => some '<'
  | ['g', 't'] => some '>'
  | ['a', 'm', 'p'] => some '&'
  | ['a', 'p', 'o', 's'] => some '\''
  | ['q', 'u', 'o', 't'] => some '"'
  | _ => none

/-- Splits behind an ampersand at the semicolon. -/
def splitReference (s : List Char) : Option (Char × List Char) :=
  match s.dropWhile (· != ';') with
  | [] => none
  | _ :: rest => (reference? (s.takeWhile (· != ';'))).map (·, rest)

theorem length_splitReference {s : List Char} {p : Char × List Char}
    (h : splitReference s = some p) : p.2.length < s.length := by
  simp only [splitReference] at h
  split at h
  · cases h
  · rename_i c rest e
    obtain ⟨c, -, rfl⟩ := Option.map_eq_some_iff.1 h
    have := (List.dropWhile_sublist (fun c => c != ';') (l := s)).length_le
    rw [e] at this
    simp only [List.length_cons] at this ⊢
    omega

/-- Replaces the references in a text; with `normal` set, literal line breaks and tabs become
spaces, a carriage return with its line feed only one. -/
def expand (normal : Bool) : List Char → Except Fault (List Char)
  | [] => .ok []
  | '&' :: cs =>
    match _h : splitReference cs with
    | none => .error .malformedReference
    | some (c, rest) => (expand normal rest).map (c :: ·)
  | '\r' :: '\n' :: cs =>
    if normal then (expand normal cs).map (' ' :: ·)
    else (expand normal cs).map fun s => '\r' :: '\n' :: s
  | c :: cs => (expand normal cs).map ((if normal && isSpace c then ' ' else c) :: ·)
termination_by s => s.length
decreasing_by
  all_goals simp only [List.length_cons]
  · have := length_splitReference _h; simp only at this; omega
  all_goals omega

/-- The value of a literal. -/
def decode (s : List Char) : Except Fault (List Char) := expand true s

end EntityDesign.Xml.AttributeValue
