import EntityDesign.Proofs.Text.Digits
import EntityDesign.Proofs.Xml.Markup

/-! Offences. A document holds only XML characters; what keeps it from being written is the first
foreign character in its attributes, in the order in which they stand in the text. -/
namespace EntityDesign.Xml
open Text

/-- A character of XML 1.0, by its code point. -/
def IsXmlChar (c : Char) : Prop :=
  c.toNat = 0x9 ∨ c.toNat = 0xA ∨ c.toNat = 0xD ∨ 0x20 ≤ c.toNat ∧ c.toNat ≤ 0xD7FF ∨
    0xE000 ≤ c.toNat ∧ c.toNat ≤ 0xFFFD ∨ 0x10000 ≤ c.toNat ∧ c.toNat ≤ 0x10FFFF

theorem isChar_iff (c : Char) : isChar c = true ↔ IsXmlChar c := by
  have hspace : isSpace c = true ↔
      c.toNat = 0x20 ∨ c.toNat = 0x9 ∨ c.toNat = 0xA ∨ c.toNat = 0xD := by
    simp [isSpace, ← Char.toNat_inj, or_assoc]
  have hvalid : c.toNat < 0xD800 ∨ 0xDFFF < c.toNat ∧ c.toNat < 0x110000 := c.valid
  simp only [isChar, Bool.or_eq_true, hspace, Bool.and_eq_true, decide_eq_true_eq, bne_iff_ne,
    IsXmlChar]
  omega

theorem legal_iff (cs : List Char) : Legal cs ↔ ∀ c ∈ cs, IsXmlChar c := by
  simp only [Legal, isChar_iff]

/-- The code point of a character in four upper-case hexadecimal digits. -/
structure CodePoint (c : Char) (digits : List Char) : Prop where
  value : number? 16 digits = some c.toNat
  upper : ∀ d ∈ digits, d ∈ "0123456789ABCDEF".toList
  four : digits.length = 4

/-- Four digits are enough for a foreign character. -/
theorem codePoint_hexadecimal {c : Char} (foreign : ¬IsXmlChar c) :
    CodePoint c (hexadecimal 4 c.toNat) where
  value := number?_hexadecimal 4 c.toNat
  upper d hd := by
    have hall : ∀ n < 16, (Nat.digitChar n).toUpper ∈ "0123456789ABCDEF".toList := by decide
    obtain ⟨n, hn, rfl⟩ := exists_of_mem_hexadecimal hd
    exact hall n hn
  four := by
    have hvalid : c.toNat < 0xD800 ∨ 0xDFFF < c.toNat ∧ c.toNat < 0x110000 := c.valid
    refine length_hexadecimal (by decide) ?_
    unfold IsXmlChar at foreign
    omega

/-- Of the values of the attributes that of `key` is the first with a foreign character, and `c` is
the first one in it. -/
structure FirstOffence (attributes : List (String × String)) (key : String) (c : Char) : Prop where
  foreign : ¬IsXmlChar c
  first : ∃ before value after clean rest, attributes = before ++ (key, value) :: after ∧
    value.toList = clean ++ c :: rest ∧ (∀ a ∈ before, ∀ c ∈ a.2.toList, IsXmlChar c) ∧
    ∀ c ∈ clean, IsXmlChar c

namespace Unwritable

/-- The first foreign character in the value of an attribute. -/
def ofAttribute (a : String × String) : Option Unwritable :=
  (a.2.toList.find? fun c => !isChar c).map fun c => ⟨a.1, c⟩

theorem inAttributes_eq (attributes : List (String × String)) :
    inAttributes attributes = attributes.findSome? ofAttribute := by
  induction attributes with
  | nil => rfl
  | cons a attributes ih =>
    rw [inAttributes, List.findSome?_cons, ofAttribute]
    cases a.2.toList.find? fun c => !isChar c with
    | none => exact ih
    | some c => rfl

theorem ofAttribute_eq_none_iff (a : String × String) :
    ofAttribute a = none ↔ ∀ c ∈ a.2.toList, IsXmlChar c := by
  simp [ofAttribute, isChar_iff]

theorem ofAttribute_eq_some_iff (a : String × String) (key : String) (c : Char) :
    ofAttribute a = some ⟨key, c⟩ ↔ a.1 = key ∧ ¬IsXmlChar c ∧
      ∃ clean rest, a.2.toList = clean ++ c :: rest ∧ ∀ c ∈ clean, IsXmlChar c := by
  simp only [ofAttribute, Option.map_eq_some_iff, List.find?_eq_some_iff_append,
    Bool.not_eq_true', ← Bool.not_eq_true, isChar_iff, not_not, mk.injEq]
  constructor
  · rintro ⟨c', found, rfl, rfl⟩
    exact ⟨rfl, found⟩
  · rintro ⟨rfl, found⟩
    exact ⟨c, found, rfl, rfl⟩

theorem findSome?_ofAttribute_iff (attributes : List (String × String)) (key : String) (c : Char) :
    attributes.findSome? ofAttribute = some ⟨key, c⟩ ↔ FirstOffence attributes key c := by
  simp only [List.findSome?_eq_some_iff, ofAttribute_eq_some_iff, ofAttribute_eq_none_iff]
  constructor
  · rintro ⟨before, ⟨_, value⟩, after, split, ⟨rfl, foreign, clean, rest, hvalue, hclean⟩, hbefore⟩
    exact ⟨foreign, before, value, after, clean, rest, split, hvalue, hbefore, hclean⟩
  · rintro ⟨foreign, before, value, after, clean, rest, split, hvalue, hbefore, hclean⟩
    exact ⟨before, (key, value), after, split, ⟨rfl, foreign, clean, rest, hvalue, hclean⟩, hbefore⟩

end Unwritable

/-- The pieces stand in the text, each behind the one before. -/
def InOrder : List (List Char) → List Char → Prop
  | [], _ => True
  | piece :: pieces, text => ∃ gap rest, text = gap ++ piece ++ rest ∧ InOrder pieces rest

section
variable {pieces pieces' : List (List Char)} {text text' : List Char}

theorem InOrder.behind (h : InOrder pieces text) (gap : List Char) :
    InOrder pieces (gap ++ text) := by
  cases pieces with
  | nil => trivial
  | cons piece pieces =>
    obtain ⟨gap', rest, rfl, hrest⟩ := h
    exact ⟨gap ++ gap', rest, by simp, hrest⟩

theorem InOrder.append (h : InOrder pieces text) (h' : InOrder pieces' text') :
    InOrder (pieces ++ pieces') (text ++ text') := by
  induction pieces generalizing text with
  | nil => exact h'.behind text
  | cons piece pieces ih =>
    obtain ⟨gap, rest, rfl, hrest⟩ := h
    exact ⟨gap, rest ++ text', by simp, ih hrest⟩

theorem InOrder.before (h : InOrder pieces text) (rest : List Char) :
    InOrder pieces (text ++ rest) := by
  have hnil : InOrder [] rest := trivial
  simpa using h.append hnil

theorem inOrder_flatMap {α : Type} (f : α → List Char) (as : List α) :
    InOrder (as.map f) (as.flatMap f) := by
  induction as with
  | nil => trivial
  | cons a as ih => exact ⟨[], as.flatMap f, rfl, ih⟩

end

namespace Markup

mutual

/-- The attributes of an element and of all inside, in the order of writing. -/
def allAttributes : Markup → List (String × String)
  | leaf _ attributes => attributes
  | branch _ attributes children => attributes ++ listAttributes children

def listAttributes : List Markup → List (String × String)
  | [] => []
  | m :: ms => allAttributes m ++ listAttributes ms

end

theorem inOrder_tagText (tag : String) (attributes : List (String × String)) :
    InOrder (attributes.map attributeText) (tagText tag attributes) :=
  (inOrder_flatMap attributeText attributes).behind tag.toList

mutual

/-- The attributes stand in the text of an element in this order. -/
theorem inOrder_lines (m : Markup) (depth : Nat) :
    InOrder (m.allAttributes.map attributeText) (lines depth m) := by
  match m with
  | leaf tag attributes =>
    have h := (inOrder_tagText tag attributes).before (Token.closing true)
    rw [lines_leaf, ← List.singleton_append]
    exact (h.behind ['<']).behind (Token.lineBreak depth)
  | branch tag attributes children =>
    have h := (inOrder_listLines children (depth + 1)).before
      (Token.lineBreak depth ++ '<' :: '/' :: (tag.toList ++ ['>']))
    have h := (inOrder_tagText tag attributes).append (h.behind (Token.closing false))
    rw [lines_branch, allAttributes, List.map_append, ← List.singleton_append]
    exact (h.behind ['<']).behind (Token.lineBreak depth)

theorem inOrder_listLines (ms : List Markup) (depth : Nat) :
    InOrder ((listAttributes ms).map attributeText) (listLines depth ms) := by
  match ms with
  | [] => trivial
  | m :: ms =>
    rw [listAttributes, listLines, List.map_append]
    exact (inOrder_lines m depth).append (inOrder_listLines ms depth)

end

theorem inOrder_render (m : Markup) :
    InOrder (m.allAttributes.map attributeText) m.render.toList := by
  rw [render, String.toList_ofList]
  exact (inOrder_lines m 0).behind declaration

mutual

theorem unwritable?_eq (m : Markup) :
    m.unwritable? = m.allAttributes.findSome? Unwritable.ofAttribute := by
  match m with
  | leaf tag attributes => exact Unwritable.inAttributes_eq attributes
  | branch tag attributes children =>
    rw [unwritable?, allAttributes, List.findSome?_append, Unwritable.inAttributes_eq,
      listUnwritable?_eq children]

theorem listUnwritable?_eq (ms : List Markup) :
    listUnwritable? ms = (listAttributes ms).findSome? Unwritable.ofAttribute := by
  match ms with
  | [] => rfl
  | m :: ms =>
    rw [listUnwritable?, listAttributes, List.findSome?_append, unwritable?_eq m,
      listUnwritable?_eq ms]

end

/-- What keeps a document from being written is the first offence in it. -/
theorem unwritable?_eq_some_iff (m : Markup) (key : String) (c : Char) :
    m.unwritable? = some ⟨key, c⟩ ↔ FirstOffence m.allAttributes key c := by
  rw [unwritable?_eq, Unwritable.findSome?_ofAttribute_iff]

end Markup
end EntityDesign.Xml
