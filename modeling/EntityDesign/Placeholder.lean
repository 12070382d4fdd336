import EntityDesign.Signature
import EntityDesign.Text.Blank
import EntityDesign.Text.Lowercase
import EntityDesign.Text.Word

/-! Placeholders in SQL text: an `@name` right after an equals sign, one space allowed between, with
an optional type hint in a comment behind it. -/
namespace EntityDesign
open Text

/-- A placeholder and the parameter recorded for it. -/
structure Placeholder where
  /-- As written, with its `@`. -/
  token : String
  parameter : Parameter
  deriving DecidableEq, Repr

namespace Placeholder

/-- What is left of `s` behind the word `word`. -/
def after? (word s : List Char) : Option (List Char) :=
  if word.isPrefixOf s then some (s.drop word.length) else none

/-- A hint comment `/* dsl:type`, and what follows the hint. -/
def hint? (s : List Char) : Option (List Char × List Char) := do
  let s ← after? ['/', '*'] (trimStart s)
  let s ← after? ['d', 's', 'l', ':'] (trimStart s)
  let word := s.takeWhile isWord
  match s.dropWhile isWord with
  | '?' :: rest => return (word ++ ['?'], rest)
  | rest => return (word, rest)

/-- A token behind an equals sign, and what follows it. -/
def token? (s : List Char) : Option (List Char × List Char) :=
  let s := match s with
    | ' ' :: rest => rest
    | _ => s
  match s with
  | '@' :: rest => some ('@' :: rest.takeWhile isWord, rest.dropWhile isWord)
  | _ => none

/-- The parameter of a token with a hint. The name loses its `@` unless it would be the name of a
host type; a hint that is no host type counts as none. -/
def parameterOf (token hint : List Char) : Parameter :=
  let bare := token.dropWhile (· == '@')
  let isTypeName := (HostName.dbType? (String.ofList (lowercase bare))).isSome
  let name := String.ofList (if isTypeName then '@' :: bare else bare)
  match HostName.dbType? (String.ofList hint) with
  | some dbType => { name, hostType := String.ofList hint, dbType }
  | none => { name, hostType := HostName.object, dbType := .string }

def ofToken (token hint : List Char) : Placeholder :=
  ⟨String.ofList token, parameterOf token hint⟩

theorem length_after? {word s r : List Char} (h : after? word s = some r) :
    r.length ≤ s.length := by
  simp only [after?] at h
  split at h
  · cases h; simp
  · cases h

theorem length_token? {s : List Char} {p : List Char × List Char} (h : token? s = some p) :
    p.2.length ≤ s.length := by
  have drop : ∀ r : List Char, (r.dropWhile isWord).length ≤ r.length :=
    fun r => (List.dropWhile_sublist _).length_le
  simp only [token?] at h
  split at h
  · rename_i r e
    cases h
    split at e
    · simp only [List.length_cons]; subst e; exact Nat.le_trans (drop r) (by simp; omega)
    · subst e; exact Nat.le_trans (drop r) (by simp)
  · cases h

theorem length_hint? {s : List Char} {p : List Char × List Char} (h : hint? s = some p) :
    p.2.length ≤ s.length := by
  have drop : ∀ (f : Char → Bool) (r : List Char), (r.dropWhile f).length ≤ r.length :=
    fun f r => (List.dropWhile_sublist f).length_le
  simp only [hint?, Option.bind_eq_bind, Option.bind_eq_some_iff] at h
  obtain ⟨a, ha, b, hb, h⟩ := h
  have l₁ := length_after? ha
  have l₂ := length_after? hb
  have l₃ := drop isBlank s
  have l₄ := drop isBlank a
  have l₅ := drop isWord b
  simp only [trimStart] at l₁ l₂
  split at h
  · rename_i r e
    cases h
    rw [e] at l₅
    simp only [List.length_cons] at l₅ ⊢
    omega
  · cases h
    simp only
    omega

/-- Every occurrence from left to right; the search goes on behind what an occurrence has read. -/
def occurrences : List Char → List (List Char × List Char)
  | [] => []
  | c :: cs =>
    if c = '=' then
      match _ht : token? cs with
      | none => occurrences cs
      | some (token, rest) =>
        match _hh : hint? rest with
        | none => (token, []) :: occurrences rest
        | some (hint, rest') => (token, hint) :: occurrences rest'
    else occurrences cs
termination_by s => s.length
decreasing_by
  all_goals simp only [List.length_cons]
  · omega
  · have := length_token? _ht; simp only at this; omega
  · have := length_token? _ht; have := length_hint? _hh; simp only at *; omega
  · omega

/-- Keeps the first occurrence of each token. -/
def distinct (seen : List (List Char)) :
    List (List Char × List Char) → List (List Char × List Char)
  | [] => []
  | o :: os => if o.1 ∈ seen then distinct seen os else o :: distinct (o.1 :: seen) os

/-- The distinct placeholders of a text, in order of first appearance. -/
def scan (sql : String) : List Placeholder :=
  (distinct [] (occurrences sql.toList)).map fun o => ofToken o.1 o.2

end Placeholder
end EntityDesign
