import Mathlib.Data.List.TakeWhile
import EntityDesign.Proofs.Xml.AttributeValue
import EntityDesign.Xml.Markup
import EntityDesign.Xml.Token

/-! Written elements are read back token by token. Every law is about a piece of text with more text
behind it, so the pieces of a document can be read one after the other. -/
namespace EntityDesign.Xml

/-- A name without qualifier. -/
def IsName (name : String) : Prop :=
  Token.startsName name.toList = true ∧ name.toList.all isNamePart = true

instance (name : String) : Decidable (IsName name) := inferInstanceAs (Decidable (_ ∧ _))

def QName.plain (name : String) : QName := ⟨"", name⟩

/-- An attribute as the reader of tokens gives it. -/
def plainAttribute (a : String × String) : QName × String := (.plain a.1, a.2)

namespace Token
variable {name : String}

theorem isNamePart_of_mem (h : IsName name) {c : Char} (hc : c ∈ name.toList) :
    isNamePart c = true :=
  List.all_eq_true.1 h.2 c hc

theorem exists_toList_eq_cons (h : IsName name) :
    ∃ c cs, name.toList = c :: cs ∧ isNameStart c = true := by
  obtain ⟨hstart, -⟩ := h
  cases hn : name.toList with
  | nil => simp [hn, startsName] at hstart
  | cons c cs => exact ⟨c, cs, rfl, by simpa [hn, startsName] using hstart⟩

theorem isSpace_of_isNameStart {c : Char} (h : isNameStart c = true) : isSpace c = false := by
  by_contra hs
  rw [Bool.not_eq_false, isSpace] at hs
  simp only [Bool.or_eq_true, beq_iff_eq] at hs
  rcases hs with ((rfl | rfl) | rfl) | rfl <;> exact absurd h (by decide)

theorem qname?_eq (h : IsName name) : qname? name.toList = some (.plain name) := by
  have hcolon : isNamePart ':' = false := by decide
  have hall : ∀ c ∈ name.toList, (c != ':') = true := fun c hc => by
    have := isNamePart_of_mem h hc
    refine bne_iff_ne.2 fun hc' => ?_
    rw [hc', hcolon] at this
    cases this
  rw [qname?, List.dropWhile_eq_nil_iff.2 hall, if_pos h.1, String.ofList_toList]
  rfl

theorem readQName_append (h : IsName name) {c : Char} (stop : isQNamePart c = false)
    (rest : List Char) : readQName (name.toList ++ c :: rest) = .ok (.plain name, c :: rest) := by
  have hall : ∀ d ∈ name.toList, isQNamePart d = true := fun d hd => by
    rw [isQNamePart, isNamePart_of_mem h hd, Bool.or_true]
  rw [readQName, List.takeWhile_append_of_pos hall, List.dropWhile_append_of_pos hall,
    List.takeWhile_cons_of_neg (by simp [stop]), List.dropWhile_cons_of_neg (by simp [stop]),
    List.append_nil, qname?_eq h]

theorem readLiteral_append {s : List Char} (clear : ∀ c ∈ s, c ≠ '"' ∧ c ≠ '<')
    (rest : List Char) : readLiteral ('"' :: (s ++ '"' :: rest)) = .ok (s, rest) := by
  have hall : ∀ c ∈ s, (c != '"' && c != '<') = true := fun c hc => by simpa using clear c hc
  rw [readLiteral, if_pos (by decide), List.dropWhile_append_of_pos hall,
    List.takeWhile_append_of_pos hall]
  simp

theorem skipSpaces_cons {c : Char} (h : isSpace c = false) (s : List Char) :
    skipSpaces (c :: s) = c :: s :=
  List.dropWhile_cons_of_neg (by simp [h])

theorem readAttribute_append (h : IsName name) (value : List Char) (rest : List Char) :
    readAttribute (name.toList ++ '=' :: '"' :: (AttributeValue.encode value ++ '"' :: rest)) =
      .ok ((.plain name, AttributeValue.encode value), rest) := by
  have hliteral := readLiteral_append (fun c => AttributeValue.encode_clear (s := value)) rest
  simp only [readAttribute, readQName_append h (show isQNamePart '=' = false by decide),
    skipSpaces_cons (show isSpace '=' = false by decide),
    skipSpaces_cons (show isSpace '"' = false by decide), hliteral, bind, Except.bind, pure,
    Except.pure]

/-- The end of a start tag. -/
def closing (isEmpty : Bool) : List Char := if isEmpty then ['/', '>'] else ['>']

theorem readAttributes_closing (isEmpty : Bool) (rest : List Char) :
    readAttributes (closing isEmpty ++ rest) = .ok ([], isEmpty, rest) := by
  cases isEmpty <;> rw [readAttributes] <;> rfl

/-- One attribute is read, then those behind it. -/
theorem readAttributes_attributeText {a : String × String} (h : IsName a.1) {s : List Char}
    {attributes : List (QName × String)} {isEmpty : Bool} {rest : List Char}
    (others : readAttributes s = .ok (attributes, isEmpty, rest)) :
    readAttributes (Markup.attributeText a ++ s) =
      .ok (plainAttribute a :: attributes, isEmpty, rest) := by
  obtain ⟨c, cs, hname, hstart⟩ := exists_toList_eq_cons h
  have htext : Markup.attributeText a ++ s = ' ' :: (a.1.toList ++
      '=' :: '"' :: (AttributeValue.encode a.2.toList ++ '"' :: s)) := by
    simp [Markup.attributeText]
  have hread := readAttribute_append h a.2.toList s
  have hspace := isSpace_of_isNameStart hstart
  have hskip : skipSpaces (' ' :: (a.1.toList ++
      '=' :: '"' :: (AttributeValue.encode a.2.toList ++ '"' :: s))) = a.1.toList ++
      '=' :: '"' :: (AttributeValue.encode a.2.toList ++ '"' :: s) := by
    rw [hname]
    exact skipSpaces_cons hspace _
  rw [htext, readAttributes]
  rw [hname] at hskip hread
  split <;> rename_i heq <;> rw [hname, hskip, List.cons_append] at heq
  · cases heq
  · cases heq
    exact absurd hstart (by decide)
  · cases heq
    exact absurd hstart (by decide)
  · cases heq
    rw [List.cons_append] at hread
    have hlength : s.length < (' ' :: (a.1.toList ++
        '=' :: '"' :: (AttributeValue.encode a.2.toList ++ '"' :: s))).length := by
      simp only [List.length_cons, List.length_append]
      omega
    rw [if_pos (by rfl), hread]
    simp only [dif_pos hlength, others, AttributeValue.decode_encode, String.ofList_toList]
    rfl

theorem readAttributes_append {attributes : List (String × String)}
    (names : ∀ a ∈ attributes, IsName a.1) (isEmpty : Bool) (rest : List Char) :
    readAttributes (attributes.flatMap Markup.attributeText ++ (closing isEmpty ++ rest)) =
      .ok (attributes.map plainAttribute, isEmpty, rest) := by
  induction attributes with
  | nil => exact readAttributes_closing isEmpty rest
  | cons a attributes ih =>
    rw [List.flatMap_cons, List.append_assoc, List.map_cons]
    exact readAttributes_attributeText (names a List.mem_cons_self)
      (ih fun b hb => names b (List.mem_cons_of_mem a hb))

/-- Behind the name of a tag there is no character of a name. -/
theorem exists_attributes_eq_cons (attributes : List (String × String)) (isEmpty : Bool)
    (rest : List Char) : ∃ c s, attributes.flatMap Markup.attributeText ++
      (closing isEmpty ++ rest) = c :: s ∧ isQNamePart c = false := by
  cases attributes with
  | cons a attributes => exact ⟨' ', _, rfl, by decide⟩
  | nil =>
    cases isEmpty with
    | false => exact ⟨'>', rest, rfl, by decide⟩
    | true => exact ⟨'/', '>' :: rest, rfl, by decide⟩

theorem readStartTag_append (h : IsName name) {attributes : List (String × String)}
    (names : ∀ a ∈ attributes, IsName a.1) (isEmpty : Bool) (rest : List Char) :
    readStartTag (Markup.tagText name attributes ++ (closing isEmpty ++ rest)) =
      .ok (.start (.plain name) (attributes.map plainAttribute) isEmpty, rest) := by
  have hread := readAttributes_append names isEmpty rest
  obtain ⟨c, s, heq, stop⟩ := exists_attributes_eq_cons attributes isEmpty rest
  rw [heq] at hread
  simp only [readStartTag, Markup.tagText, List.append_assoc, heq, readQName_append h stop, hread,
    bind, Except.bind, pure, Except.pure]

theorem readEndTag_append (h : IsName name) (rest : List Char) :
    readEndTag (name.toList ++ '>' :: rest) = .ok (.finish (.plain name), rest) := by
  simp only [readEndTag, readQName_append h (show isQNamePart '>' = false by decide),
    skipSpaces_cons (show isSpace '>' = false by decide), bind, Except.bind, pure, Except.pure]

theorem next_start (h : IsName name) {attributes : List (String × String)}
    (names : ∀ a ∈ attributes, IsName a.1) (isEmpty : Bool) (rest : List Char) :
    next ('<' :: (Markup.tagText name attributes ++ (closing isEmpty ++ rest))) =
      .ok (.start (.plain name) (attributes.map plainAttribute) isEmpty, rest) := by
  have hread := readStartTag_append h names isEmpty rest
  obtain ⟨c, cs, hname, hstart⟩ := exists_toList_eq_cons h
  have htext : Markup.tagText name attributes ++ (closing isEmpty ++ rest) = c :: (cs ++
      (attributes.flatMap Markup.attributeText ++ (closing isEmpty ++ rest))) := by
    simp [Markup.tagText, hname]
  rw [htext] at hread ⊢
  rw [next]
  · exact hread
  all_goals
    intro s heq
    cases heq
    exact absurd hstart (by decide)

theorem next_finish (h : IsName name) (rest : List Char) :
    next ('<' :: '/' :: (name.toList ++ '>' :: rest)) = .ok (.finish (.plain name), rest) :=
  readEndTag_append h rest

/-- The white space in front of an element. -/
def lineBreak (depth : Nat) : List Char := '\n' :: Markup.indent depth

theorem next_lineBreak (depth : Nat) (rest : List Char) : next (lineBreak depth ++ '<' :: rest) =
    .ok (.space (String.ofList (lineBreak depth)), '<' :: rest) := by
  have hspace : ∀ c ∈ lineBreak depth, isSpace c = true := by
    intro c hc
    rcases List.mem_cons.1 hc with rfl | hc
    · decide
    · rw [(List.mem_replicate.1 hc).2]
      decide
  have hmark : ∀ c ∈ lineBreak depth, (c != '<') = true := by
    intro c hc
    refine bne_iff_ne.2 fun heq => ?_
    have := hspace c hc
    rw [heq] at this
    exact absurd this (by decide)
  have htext : next (lineBreak depth ++ '<' :: rest) =
      readText (lineBreak depth ++ '<' :: rest) := by
    simp [lineBreak, next]
  rw [htext, readText, List.takeWhile_append_of_pos hmark, List.dropWhile_append_of_pos hmark]
  simp only [List.takeWhile_cons_of_neg, List.dropWhile_cons_of_neg, List.append_nil,
    bne_self_eq_false, Bool.false_eq_true, not_false_eq_true, List.all_eq_true.2 hspace, ↓reduceIte]

theorem all_of_next {s rest : List Char} {t : Token} (h : next s = .ok (t, rest))
    (shorter : rest.length < s.length) : all s = (all rest).map (t :: ·) := by
  have hs : s.isEmpty = false := by
    cases s with
    | nil => simp at shorter
    | cons c s => rfl
  rw [all, hs]
  simp only [Bool.false_eq_true, ↓reduceIte, h, dif_pos shorter]
  cases all rest <;> rfl

end Token
end EntityDesign.Xml
