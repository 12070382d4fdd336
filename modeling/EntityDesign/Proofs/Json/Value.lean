import EntityDesign.Proofs.Json.Token

/-! The values of JSON texts. A text is read token by token, with a stack of the arrays and objects
that are not closed yet. What is printed is read as the value itself, so no two values have the same
text. -/
namespace EntityDesign.Json

inductive Value where
  | null
  | boolean (b : Bool)
  /-- A number as it is written. -/
  | number (written : String)
  | string (s : String)
  | array (items : List Value)
  | object (fields : List (String × Value))
  deriving Repr, Inhabited

namespace Value

/-- An array or object whose next value is awaited, with the parts before that. -/
inductive Frame where
  | array (before : List Value)
  | object (before : List (String × Value)) (key : String)

mutual

/-- Reads on where a value begins. -/
def start? (stack : List Frame) : List Token → Option Value
  | .null :: ts => finish? null stack ts
  | .boolean b :: ts => finish? (boolean b) stack ts
  | .number s :: ts => finish? (number s) stack ts
  | .string s :: ts => finish? (string s) stack ts
  | .openArray :: .closeArray :: ts => finish? (array []) stack ts
  | .openArray :: ts => start? (.array [] :: stack) ts
  | .openObject :: .closeObject :: ts => finish? (object []) stack ts
  | .openObject :: .string key :: .colon :: ts => start? (.object [] key :: stack) ts
  | _ => none

/-- Reads on behind a value. -/
def finish? (v : Value) : List Frame → List Token → Option Value
  | [], [] => some v
  | .array before :: stack, .comma :: ts => start? (.array (before ++ [v]) :: stack) ts
  | .array before :: stack, .closeArray :: ts => finish? (array (before ++ [v])) stack ts
  | .object before key :: stack, .comma :: .string next :: .colon :: ts =>
    start? (.object (before ++ [(key, v)]) next :: stack) ts
  | .object before key :: stack, .closeObject :: ts =>
    finish? (object (before ++ [(key, v)])) stack ts
  | _, _ => none

end

mutual

/-- The value that stands for data. -/
def ofData : Data → Value
  | .text s => string s
  | .flag b => boolean b
  | .list ds => array (ofItems ds)
  | .record fs => object (ofFields fs)

def ofItems : List Data → List Value
  | [] => []
  | d :: ds => ofData d :: ofItems ds

def ofFields : List (String × Data) → List (String × Value)
  | [] => []
  | (k, d) :: fs => (k, ofData d) :: ofFields fs

end

section Injective

mutual

/-- Different data stand for different values. -/
theorem eq_of_ofData : {d d' : Data} → ofData d = ofData d' → d = d'
  | .text s, d', h => by cases d' <;> simp_all [ofData]
  | .flag b, d', h => by cases d' <;> simp_all [ofData]
  | .list ds, d', h => by
    cases d' with
    | list ds' => exact congrArg Data.list (eq_of_ofItems (array.inj h))
    | _ => cases h
  | .record fs, d', h => by
    cases d' with
    | record fs' => exact congrArg Data.record (eq_of_ofFields (object.inj h))
    | _ => cases h

theorem eq_of_ofItems : {ds ds' : List Data} → ofItems ds = ofItems ds' → ds = ds'
  | [], [], _ => rfl
  | d :: ds, d' :: ds', h => by
    obtain ⟨hd, hds⟩ := List.cons.inj h
    rw [eq_of_ofData hd, eq_of_ofItems hds]

theorem eq_of_ofFields :
    {fs fs' : List (String × Data)} → ofFields fs = ofFields fs' → fs = fs'
  | [], [], _ => rfl
  | (k, d) :: fs, (k', d') :: fs', h => by
    obtain ⟨hf, hfs⟩ := List.cons.inj h
    obtain ⟨rfl, hd⟩ := Prod.mk.inj hf
    rw [eq_of_ofData hd, eq_of_ofFields hfs]

end

end Injective

section Reading
variable {stack : List Frame} {ts : List Token}

/-- No value begins with a bracket that closes an array. -/
theorem start?_openArray (d : Data) :
    start? stack (.openArray :: (tokens d ++ ts)) =
      start? (.array [] :: stack) (tokens d ++ ts) := by
  rcases d with s | b | (- | ⟨d, ds⟩) | (- | ⟨⟨k, d⟩, fs⟩) <;> rfl

mutual

/-- The tokens of a value are read as the value. -/
theorem start?_tokens : (d : Data) → ∀ {stack ts},
    start? stack (tokens d ++ ts) = finish? (ofData d) stack ts
  | .text s, _, _ => rfl
  | .flag b, _, _ => rfl
  | .list [], _, _ => rfl
  | .list (d :: ds), stack, ts => by
    simp only [tokens, List.cons_append, List.append_assoc]
    rw [start?_openArray, start?_tokens d, finish?_itemTokens ds]
    rfl
  | .record [], _, _ => rfl
  | .record ((k, d) :: fs), stack, ts => by
    simp only [tokens, List.cons_append, List.append_assoc, List.nil_append]
    rw [start?, start?_tokens d, finish?_fieldTokens fs]
    rfl

/-- Behind an item the further ones are read, up to the bracket that closes the array. -/
theorem finish?_itemTokens : (ds : List Data) → ∀ {v before stack ts},
    finish? v (.array before :: stack) (itemTokens ds ++ .closeArray :: ts) =
      finish? (array (before ++ v :: ofItems ds)) stack ts
  | [], _, _, _, _ => rfl
  | d :: ds, v, before, stack, ts => by
    simp only [itemTokens, List.cons_append, List.append_assoc]
    rw [finish?, start?_tokens d, finish?_itemTokens ds]
    simp [ofItems]

theorem finish?_fieldTokens : (fs : List (String × Data)) → ∀ {v before key stack ts},
    finish? v (.object before key :: stack) (fieldTokens fs ++ .closeObject :: ts) =
      finish? (object (before ++ (key, v) :: ofFields fs)) stack ts
  | [], _, _, _, _, _ => rfl
  | (k, d) :: fs, v, before, key, stack, ts => by
    simp only [fieldTokens, List.cons_append, List.append_assoc]
    rw [finish?, start?_tokens d, finish?_fieldTokens fs]
    simp [ofFields]

end

end Reading

end Value

/-- The value of a text. -/
def read (text : String) : Option Value := (Token.all text.toList).bind (Value.start? [])

/-- A printed value is read as the value. -/
theorem read_print (d : Data) : read (print d) = some (.ofData d) := by
  have h : Value.start? [] (tokens d ++ []) = Value.finish? (.ofData d) [] [] :=
    Value.start?_tokens d
  rw [read, all_print, Option.bind_some, ← List.append_nil (tokens d), h]
  rfl

example : read " [true,\"\\ud83d\\ude00\\/\"\n, -0.5e1 ]" =
    some (.array [.boolean true, .string "😀/", .number "-0.5e1"]) := by cbv

theorem print_injective : Function.Injective print := by
  intro d d' h
  have hread := read_print d
  rw [h, read_print] at hread
  exact (Value.eq_of_ofData (Option.some.inj hread)).symm

end EntityDesign.Json
