import EntityDesign.Proofs.Xml.Token

/-! Written documents as tokens. An element whose names are plain names is written as its own
tokens, whatever comes behind it. -/
namespace EntityDesign.Xml

/-- A tag of plain names that declares no namespace and repeats no attribute. -/
structure TagNamed (tag : String) (attributes : List (String × String)) : Prop where
  tag : IsName tag
  keys : ∀ a ∈ attributes, IsName a.1
  undeclared : ∀ a ∈ attributes, a.1 ≠ "xmlns"
  distinct : (attributes.map (·.1)).Nodup

theorem tagNamed_of_keys {tag : String} {attributes : List (String × String)} (keys : List String)
    (heq : attributes.map (·.1) = keys) (htag : IsName tag)
    (hkeys : ∀ key ∈ keys, IsName key ∧ key ≠ "xmlns") (distinct : keys.Nodup) :
    TagNamed tag attributes where
  tag := htag
  keys a ha := (hkeys a.1 (heq ▸ List.mem_map_of_mem ha)).1
  undeclared a ha := (hkeys a.1 (heq ▸ List.mem_map_of_mem ha)).2
  distinct := heq ▸ distinct

namespace Markup

mutual

/-- Whether all tags are well named. -/
def Named : Markup → Prop
  | leaf tag attributes => TagNamed tag attributes
  | branch tag attributes children => TagNamed tag attributes ∧ ListNamed children

def ListNamed : List Markup → Prop
  | [] => True
  | m :: ms => Named m ∧ ListNamed ms

end

theorem listNamed_map {α : Type} {f : α → Markup} (h : ∀ a, Named (f a)) (l : List α) :
    ListNamed (l.map f) := by
  induction l with
  | nil => exact trivial
  | cons a l ih => exact ⟨h a, ih⟩

def space (depth : Nat) : Token := .space (String.ofList (Token.lineBreak depth))

mutual

/-- The tokens of an element and of the white space before it. -/
def tokens (depth : Nat) : Markup → List Token
  | leaf tag attributes =>
    [space depth, .start (.plain tag) (attributes.map plainAttribute) true]
  | branch tag attributes children =>
    space depth :: .start (.plain tag) (attributes.map plainAttribute) false ::
      (listTokens (depth + 1) children ++ [space depth, .finish (.plain tag)])

def listTokens (depth : Nat) : List Markup → List Token
  | [] => []
  | m :: ms => tokens depth m ++ listTokens depth ms

end

theorem lines_leaf (depth : Nat) (tag : String) (attributes : List (String × String)) :
    lines depth (leaf tag attributes) =
      Token.lineBreak depth ++ '<' :: (tagText tag attributes ++ Token.closing true) := by
  simp [lines, Token.lineBreak, Token.closing]

theorem lines_branch (depth : Nat) (tag : String) (attributes : List (String × String))
    (children : List Markup) : lines depth (branch tag attributes children) =
      Token.lineBreak depth ++ '<' :: (tagText tag attributes ++ (Token.closing false ++
        (listLines (depth + 1) children ++
          (Token.lineBreak depth ++ '<' :: '/' :: (tag.toList ++ ['>']))))) := by
  simp [lines, Token.lineBreak, Token.closing]

theorem length_lt_lineBreak (depth : Nat) (s : List Char) :
    s.length < (Token.lineBreak depth ++ s).length := by
  simp only [Token.lineBreak, List.length_append, List.length_cons]
  omega

theorem all_start {tag : String} {attributes : List (String × String)}
    (h : TagNamed tag attributes) (depth : Nat) (isEmpty : Bool) (rest : List Char) :
    Token.all (Token.lineBreak depth ++
      '<' :: (tagText tag attributes ++ (Token.closing isEmpty ++ rest))) =
      (Token.all rest).map fun ts => space depth ::
        .start (.plain tag) (attributes.map plainAttribute) isEmpty :: ts := by
  have hbreak := Token.next_lineBreak depth
    (Markup.tagText tag attributes ++ (Token.closing isEmpty ++ rest))
  have hstart := Token.next_start h.tag h.keys isEmpty rest
  rw [Token.all_of_next hbreak (length_lt_lineBreak depth _),
    Token.all_of_next hstart (by simp only [List.length_cons, List.length_append]; omega)]
  cases Token.all rest <;> rfl

theorem all_finish {tag : String} (h : IsName tag) (depth : Nat) (rest : List Char) :
    Token.all (Token.lineBreak depth ++ '<' :: '/' :: (tag.toList ++ '>' :: rest)) =
      (Token.all rest).map fun ts => space depth :: .finish (.plain tag) :: ts := by
  have hbreak := Token.next_lineBreak depth ('/' :: (tag.toList ++ '>' :: rest))
  have hfinish := Token.next_finish h rest
  rw [Token.all_of_next hbreak (length_lt_lineBreak depth _),
    Token.all_of_next hfinish (by simp only [List.length_cons, List.length_append]; omega)]
  cases Token.all rest <;> rfl

mutual

/-- The text of an element is read as its tokens. -/
theorem all_lines (m : Markup) (depth : Nat) (rest : List Char) (h : Named m) :
    Token.all (lines depth m ++ rest) = (Token.all rest).map (tokens depth m ++ ·) := by
  match m, h with
  | leaf tag attributes, h =>
    simp only [lines_leaf, List.append_assoc, List.cons_append]
    rw [all_start h]
    rfl
  | branch tag attributes children, ⟨htag, hchildren⟩ =>
    simp only [lines_branch, List.append_assoc, List.cons_append, List.nil_append]
    rw [all_start htag, all_listLines children (depth + 1) _ hchildren, all_finish htag.tag]
    cases Token.all rest with
    | error fault => rfl
    | ok ts => simp [Except.map, tokens]

theorem all_listLines (ms : List Markup) (depth : Nat) (rest : List Char) (h : ListNamed ms) :
    Token.all (listLines depth ms ++ rest) = (Token.all rest).map (listTokens depth ms ++ ·) := by
  match ms, h with
  | [], _ =>
    simp only [listLines, List.nil_append, listTokens]
    cases Token.all rest <;> rfl
  | m :: ms, ⟨hm, hms⟩ =>
    rw [listLines, List.append_assoc, all_lines m depth _ hm, all_listLines ms depth rest hms]
    cases Token.all rest with
    | error fault => rfl
    | ok ts => simp [Except.map, listTokens]

end

/-- A part of a name may stand in a document. -/
theorem isChar_of_isNamePart {c : Char} (h : isNamePart c = true) : isChar c = true := by
  have hrange : 0x20 ≤ c.toNat ∧ c.toNat ≠ 0xFFFE ∧ c.toNat ≠ 0xFFFF := by
    simp only [isNamePart, isNameStart, Bool.or_eq_true, Text.Ranges.contains_iff, nameStarts,
      nameMiddles, List.mem_cons, List.not_mem_nil, or_false, exists_eq_or_imp, exists_eq_left] at h
    omega
  simp [isChar, hrange]

theorem legal_name {name : String} (h : IsName name) : Legal name.toList := fun _ hc =>
  isChar_of_isNamePart (Token.isNamePart_of_mem h hc)

/-- Attributes can be written if their values are legal. -/
theorem inAttributes_eq_none_iff (attributes : List (String × String)) :
    Unwritable.inAttributes attributes = none ↔ ∀ a ∈ attributes, Legal a.2.toList := by
  induction attributes with
  | nil => simp [Unwritable.inAttributes]
  | cons a attributes ih =>
    have hvalue : (a.2.toList.find? fun c => !isChar c) = none ↔ Legal a.2.toList := by
      simp [Legal]
    rw [Unwritable.inAttributes, List.forall_mem_cons, ← ih, ← hvalue]
    split <;> simp [*]

section
variable {tag : String} {attributes : List (String × String)}

theorem unwritable?_leaf_eq_none_iff : (leaf tag attributes).unwritable? = none ↔
    ∀ a ∈ attributes, Legal a.2.toList :=
  inAttributes_eq_none_iff attributes

theorem unwritable?_branch_eq_none_iff {children : List Markup} :
    (branch tag attributes children).unwritable? = none ↔
      (∀ a ∈ attributes, Legal a.2.toList) ∧ ∀ m ∈ children, m.unwritable? = none := by
  have hlist : listUnwritable? children = none ↔ ∀ m ∈ children, m.unwritable? = none := by
    induction children with
    | nil => simp [listUnwritable?]
    | cons m ms ih => rw [listUnwritable?, Option.or_eq_none_iff, ih, List.forall_mem_cons]
  rw [unwritable?, Option.or_eq_none_iff, inAttributes_eq_none_iff, hlist]

theorem legal_tagText (named : TagNamed tag attributes)
    (legal : ∀ a ∈ attributes, Legal a.2.toList) : Legal (tagText tag attributes) := by
  refine legal_append.2 ⟨legal_name named.tag, fun c hc => ?_⟩
  obtain ⟨a, ha, hc⟩ := List.mem_flatMap.1 hc
  have htext : Legal (attributeText a) := by
    simp only [attributeText, List.cons_append, List.append_assoc, legal_cons, legal_append]
    exact ⟨by decide, legal_name (named.keys a ha), by decide, by decide,
      AttributeValue.legal_encode (legal a ha), by decide, by decide⟩
  exact htext c hc

end

theorem legal_lineBreak (depth : Nat) : Legal (Token.lineBreak depth) := by
  refine legal_cons.2 ⟨by decide, fun c hc => ?_⟩
  rw [(List.mem_replicate.1 hc).2]
  decide

theorem legal_closing (isEmpty : Bool) : Legal (Token.closing isEmpty) := by
  cases isEmpty <;> decide

mutual

/-- The text of a document that can be written is legal. -/
theorem legal_lines (m : Markup) (depth : Nat) (named : Named m) (writable : m.unwritable? = none) :
    Legal (lines depth m) := by
  match m, named with
  | leaf tag attributes, named =>
    have htag := legal_tagText named (unwritable?_leaf_eq_none_iff.1 writable)
    simp only [lines_leaf, legal_append, legal_cons]
    exact ⟨legal_lineBreak depth, by decide, htag, legal_closing true⟩
  | branch tag attributes children, ⟨named, hnamed⟩ =>
    obtain ⟨hvalues, hchildren⟩ := unwritable?_branch_eq_none_iff.1 writable
    have htag := legal_tagText named hvalues
    have hlines := legal_listLines children (depth + 1) hnamed hchildren
    simp only [lines_branch, legal_append, legal_cons]
    exact ⟨legal_lineBreak depth, by decide, htag, legal_closing false, hlines,
      legal_lineBreak depth, by decide, by decide, legal_name named.tag, by decide, by decide⟩

theorem legal_listLines (ms : List Markup) (depth : Nat) (named : ListNamed ms)
    (writable : ∀ m ∈ ms, m.unwritable? = none) : Legal (listLines depth ms) := by
  match ms, named with
  | [], _ => simp [listLines, Legal]
  | m :: ms, ⟨hm, hms⟩ =>
    obtain ⟨hwm, hwms⟩ := List.forall_mem_cons.1 writable
    exact legal_append.2 ⟨legal_lines m depth hm hwm, legal_listLines ms depth hms hwms⟩

end

end Markup
end EntityDesign.Xml
