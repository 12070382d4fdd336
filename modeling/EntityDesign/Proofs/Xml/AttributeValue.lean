import Mathlib.Tactic.Tauto
import EntityDesign.Xml.AttributeValue

/-! Written attribute values are read back. Every character is written as itself or as a reference
that stands for it, so a value is decoded character by character, and what is written holds neither
the quote that ends it nor the start of a tag. -/
namespace EntityDesign.Xml

/-- A text of characters that a document may contain. -/
def Legal (s : List Char) : Prop := ∀ c ∈ s, isChar c = true

instance (s : List Char) : Decidable (Legal s) :=
  decidable_of_iff (s.all isChar = true) List.all_eq_true

theorem Legal.of_subset {s t : List Char} (h : Legal s) (subset : t ⊆ s) : Legal t :=
  fun c hc => h c (subset hc)

theorem legal_cons {c : Char} {s : List Char} : Legal (c :: s) ↔ isChar c = true ∧ Legal s :=
  List.forall_mem_cons

theorem legal_append {s t : List Char} : Legal (s ++ t) ↔ Legal s ∧ Legal t :=
  List.forall_mem_append

namespace AttributeValue

/-- A reference stands for its character. -/
theorem expand_reference (name : List Char) {c : Char} (normal : Bool)
    (known : reference? name = some c) (closed : ';' ∉ name) (rest : List Char) :
    expand normal ('&' :: name ++ ';' :: rest) = (expand normal rest).map (c :: ·) := by
  have hname : ∀ d ∈ name, (d != ';') = true := fun d hd =>
    bne_iff_ne.2 fun h => closed (h ▸ hd)
  have hsplit : splitReference (name ++ ';' :: rest) = some (c, rest) := by
    simp only [splitReference, List.dropWhile_append_of_pos hname,
      List.takeWhile_append_of_pos hname]
    simp [known]
  rw [List.cons_append, expand]
  split
  · rename_i h
    simp [hsplit] at h
  · rename_i d rest' h
    cases hsplit.symm.trans h
    rfl

/-- A character that is no markup and no line break stands for itself. -/
theorem expand_plain {c : Char} (markup : c ≠ '&') (space : isSpace c = true → c = ' ')
    (rest : List Char) : expand true (c :: rest) = (expand true rest).map (c :: ·) := by
  have hr : c ≠ '\r' := fun h => by simp [h, isSpace] at space
  rw [expand]
  · congr 1
    by_cases hs : isSpace c
    · simp [space hs]
    · simp [hs]
  · exact fun h => markup h
  · exact fun rest' h _ => hr h

theorem expand_encodeChar (c : Char) (rest : List Char) :
    expand true (encodeChar c ++ rest) = (expand true rest).map (c :: ·) := by
  unfold encodeChar
  split
  · exact expand_reference ['l', 't'] true (by decide) (by decide) rest
  · exact expand_reference ['g', 't'] true (by decide) (by decide) rest
  · exact expand_reference ['a', 'm', 'p'] true (by decide) (by decide) rest
  · exact expand_reference ['a', 'p', 'o', 's'] true (by decide) (by decide) rest
  · exact expand_reference ['q', 'u', 'o', 't'] true (by decide) (by decide) rest
  · exact expand_reference ['#', 'x', 'D'] true (by decide) (by decide) rest
  · exact expand_reference ['#', 'x', 'A'] true (by decide) (by decide) rest
  · exact expand_reference ['#', 'x', '9'] true (by decide) (by decide) rest
  · rename_i hamp _ _ hr hn ht
    refine expand_plain hamp (fun h => ?_) rest
    simp only [isSpace, Bool.or_eq_true, beq_iff_eq] at h
    tauto

/-- Decoding undoes the writing of a value. -/
theorem decode_encode (s : List Char) : decode (encode s) = .ok s := by
  induction s with
  | nil => simp [encode, decode, expand]
  | cons c s ih =>
    rw [encode, List.flatMap_cons, decode, expand_encodeChar, ← encode, ← decode, ih]
    rfl

/-- A character is written as itself, which is then neither a quote nor the start of a tag, or as a
reference. -/
theorem encodeChar_eq (c : Char) : encodeChar c = [c] ∧ c ≠ '"' ∧ c ≠ '<' ∨
    (encodeChar c).all (fun d => isChar d && d != '"' && d != '<') = true := by
  unfold encodeChar
  split
  case h_9 hlt _ _ _ hquote _ _ _ => exact .inl ⟨rfl, hquote, hlt⟩
  all_goals exact .inr (by decide)

/-- What is written holds no quote and no start of a tag. -/
theorem encode_clear {s : List Char} {d : Char} (h : d ∈ encode s) : d ≠ '"' ∧ d ≠ '<' := by
  obtain ⟨c, -, hd⟩ := List.mem_flatMap.1 h
  rcases encodeChar_eq c with ⟨heq, hc⟩ | hreference
  · rw [heq, List.mem_singleton] at hd
    rw [hd]
    exact hc
  · have hclear := List.all_eq_true.1 hreference d hd
    simp only [Bool.and_eq_true, bne_iff_ne] at hclear
    exact ⟨hclear.1.2, hclear.2⟩

/-- What is written for a legal value is legal. -/
theorem legal_encode {s : List Char} (legal : Legal s) : Legal (encode s) := by
  intro d hd
  obtain ⟨c, hc, hd⟩ := List.mem_flatMap.1 hd
  rcases encodeChar_eq c with ⟨heq, -⟩ | hreference
  · rw [heq, List.mem_singleton] at hd
    rw [hd]
    exact legal c hc
  · have hchar := List.all_eq_true.1 hreference d hd
    simp only [Bool.and_eq_true] at hchar
    exact hchar.1.1

end AttributeValue
end EntityDesign.Xml
