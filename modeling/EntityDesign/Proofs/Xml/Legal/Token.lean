import EntityDesign.Proofs.Ensures
import EntityDesign.Proofs.Xml.AttributeValue
import EntityDesign.Xml.Token

/-! Legal tokens. A reference stands for a character that XML allows, and every reader leaves a
suffix of its text; so the attributes in the tokens of a text of such characters have values of such
characters. -/
namespace EntityDesign.Xml

theorem suffix_of_dropWhile {p : Char → Bool} {c : Char} {s rest : List Char}
    (h : s.dropWhile p = c :: rest) : rest <:+ s :=
  (List.suffix_cons c rest).trans (h ▸ List.dropWhile_suffix p)

namespace AttributeValue

theorem isChar_of_charOfNumber? {n : Nat} {c : Char} (h : charOfNumber? n = some c) :
    isChar c = true := by
  simp only [charOfNumber?, Option.ite_none_right_eq_some, Option.some.injEq] at h
  obtain ⟨-, hchar, rfl⟩ := h
  exact hchar

/-- A reference stands for a legal character. -/
theorem isChar_of_reference? {s : List Char} {c : Char} (h : reference? s = some c) :
    isChar c = true := by
  unfold reference? at h
  split at h
  case h_1 | h_2 =>
    obtain ⟨n, -, hn⟩ := Option.bind_eq_some_iff.1 h
    exact isChar_of_charOfNumber? hn
  case h_8 => cases h
  all_goals
    cases h
    decide

theorem suffix_of_splitReference {s rest : List Char} {c : Char}
    (h : splitReference s = some (c, rest)) : rest <:+ s ∧ isChar c = true := by
  simp only [splitReference] at h
  split at h
  · cases h
  · rename_i d rest' hdrop
    obtain ⟨c', hc, heq⟩ := Option.map_eq_some_iff.1 h
    cases heq
    exact ⟨suffix_of_dropWhile hdrop, isChar_of_reference? hc⟩

/-- What a legal text means is legal. -/
theorem legal_expand {normal : Bool} {s : List Char} (legal : Legal s) :
    Ensures (expand normal s) Legal := by
  fun_induction expand normal s with
  | case1 => exact .ok legal
  | case2 => exact .error
  | case3 cs c rest split ih =>
    obtain ⟨hsuffix, hc⟩ := suffix_of_splitReference split
    have hrest : Legal rest := (legal_cons.1 legal).2.of_subset hsuffix.subset
    exact .map ((ih hrest).imp fun value hvalue => legal_cons.2 ⟨hc, hvalue⟩)
  | case4 cs _ ih =>
    have hcs : Legal cs := (legal_cons.1 (legal_cons.1 legal).2).2
    exact .map ((ih hcs).imp fun value hvalue => legal_cons.2 ⟨by decide, hvalue⟩)
  | case5 cs _ ih =>
    obtain ⟨hreturn, hrest⟩ := legal_cons.1 legal
    obtain ⟨hfeed, hcs⟩ := legal_cons.1 hrest
    exact .map ((ih hcs).imp fun value hvalue =>
      legal_cons.2 ⟨hreturn, legal_cons.2 ⟨hfeed, hvalue⟩⟩)
  | case6 c cs _ _ ih =>
    obtain ⟨hc, hcs⟩ := legal_cons.1 legal
    refine .map ((ih hcs).imp fun value hvalue => legal_cons.2 ⟨?_, hvalue⟩)
    split
    · decide
    · exact hc

end AttributeValue

/-- The values of the attributes of a tag are legal. -/
def Token.Legal : Token → Prop
  | .start _ attributes _ => ∀ a ∈ attributes, Xml.Legal a.2.toList
  | _ => True

namespace Token
variable {α : Type} {s : List Char}

/-- What is left of `s` is a suffix of it, and what was read has the property `P`. -/
def Reads (s : List Char) (x : Except Fault (α × List Char)) (P : α → Prop) : Prop :=
  Ensures x fun r => r.2 <:+ s ∧ P r.1

theorem suffix_skipSpaces (s : List Char) : skipSpaces s <:+ s := List.dropWhile_suffix _

theorem suffix_of_breakAt {mark content rest : List Char}
    (h : breakAt mark s = some (content, rest)) : rest <:+ s := by
  induction s generalizing content with
  | nil => cases h
  | cons c s ih =>
    rw [breakAt] at h
    split at h
    · cases h
      exact List.drop_suffix _ _
    · obtain ⟨⟨content', rest'⟩, hbreak, heq⟩ := Option.map_eq_some_iff.1 h
      cases heq
      exact (ih hbreak).trans (List.suffix_cons c s)

theorem suffix_of_after? {mark rest : List Char} (h : after? mark s = some rest) : rest <:+ s := by
  simp only [after?, Option.ite_none_right_eq_some, Option.some.injEq] at h
  rw [← h.2]
  exact List.drop_suffix _ _

theorem reads_qname (s : List Char) : Reads s (readQName s) fun _ => True := by
  unfold readQName
  split
  · exact .ok ⟨List.dropWhile_suffix _, trivial⟩
  · exact .error

theorem reads_literal (s : List Char) : Reads s (readLiteral s) (· ⊆ s) := by
  unfold readLiteral
  split
  · exact .error
  · rename_i quote s
    split
    · split
      · exact .error
      · rename_i c rest hdrop
        split
        · refine .ok ⟨?_, ?_⟩
          · exact (suffix_of_dropWhile hdrop).trans (List.suffix_cons quote s)
          · exact List.subset_cons_of_subset quote (List.takeWhile_prefix _).subset
        · exact .error
    · exact .error

theorem reads_attribute (s : List Char) : Reads s (readAttribute s) (·.2 ⊆ s) := by
  unfold readAttribute
  refine (reads_qname s).bind fun ⟨name, s₁⟩ ⟨hname, _⟩ => ?_
  dsimp only
  split
  · rename_i s₂ hequals
    refine (reads_literal (skipSpaces s₂)).bind fun ⟨value, s₃⟩ ⟨hrest, hvalue⟩ => ?_
    have hbehind : skipSpaces s₂ <:+ s :=
      ((suffix_skipSpaces s₂).trans (suffix_of_dropWhile hequals)).trans hname
    exact .pure ⟨hrest.trans hbehind, fun c hc => hbehind.subset (hvalue hc)⟩
  · exact .throw

/-- The attributes of a tag of legal text have legal values. -/
theorem legal_readAttributes (legal : Xml.Legal s) : Ensures (readAttributes s) fun r =>
    r.2.2 <:+ s ∧ ∀ a ∈ r.1, Xml.Legal a.2.toList := by
  fun_induction readAttributes s with
  | case1 | case4 | case5 | case7 | case8 | case9 | case10 => exact .error
  -- the end of a start tag, then the end of an empty one
  | case2 s rest hskip =>
    exact .ok ⟨suffix_of_dropWhile hskip, by simp⟩
  | case3 s rest hskip =>
    exact .ok ⟨(List.suffix_cons '>' rest).trans (suffix_of_dropWhile hskip), by simp⟩
  | case6 s c cs _ _ hskip _ name raw rest hread _ value attributes isEmpty rest' hrest hvalue ih =>
    have hbehind : c :: cs <:+ s := hskip ▸ suffix_skipSpaces s
    obtain ⟨hsuffix, hraw⟩ := reads_attribute (c :: cs) _ hread
    have hlegal : Xml.Legal (c :: cs) := legal.of_subset hbehind.subset
    obtain ⟨hrest', hothers⟩ := ih (hlegal.of_subset hsuffix.subset) _ hrest
    have hown : Xml.Legal value :=
      AttributeValue.legal_expand (hlegal.of_subset hraw) value hvalue
    refine .ok ⟨(hrest'.trans hsuffix).trans hbehind, List.forall_mem_cons.2 ⟨?_, hothers⟩⟩
    rw [String.toList_ofList]
    exact hown

theorem reads_endTag (s : List Char) : Reads s (readEndTag s) Token.Legal := by
  unfold readEndTag
  refine (reads_qname s).bind fun ⟨name, s₁⟩ ⟨hname, _⟩ => ?_
  dsimp only
  split
  · rename_i rest hclose
    exact .pure ⟨(suffix_of_dropWhile hclose).trans hname, trivial⟩
  · exact .throw
  · exact .throw

theorem reads_startTag (legal : Xml.Legal s) : Reads s (readStartTag s) Token.Legal := by
  unfold readStartTag
  refine (reads_qname s).bind fun ⟨name, s₁⟩ ⟨hname, _⟩ => ?_
  refine (legal_readAttributes (legal.of_subset hname.subset)).bind
    fun ⟨attributes, isEmpty, s₂⟩ ⟨hrest, hvalues⟩ => ?_
  exact .pure ⟨hrest.trans hname, hvalues⟩

theorem reads_comment (s : List Char) : Reads s (readComment s) Token.Legal := by
  unfold readComment
  split
  · exact .error
  · rename_i content rest hbreak
    split
    · exact .error
    · exact .ok ⟨suffix_of_breakAt hbreak, trivial⟩

theorem reads_section (s : List Char) : Reads s (readSection s) Token.Legal := by
  unfold readSection
  split
  · exact .error
  · rename_i content rest hbreak
    exact .ok ⟨suffix_of_breakAt hbreak, trivial⟩

theorem reads_instruction (s : List Char) : Reads s (readInstruction s) Token.Legal := by
  unfold readInstruction
  split
  · exact .error
  split
  · exact .error
  split
  · exact .error
  · rename_i content rest hbreak
    refine .ok ⟨?_, trivial⟩
    exact ((suffix_of_breakAt hbreak).trans (suffix_skipSpaces _)).trans (List.dropWhile_suffix _)

theorem reads_text (s : List Char) : Reads s (readText s) Token.Legal := by
  unfold readText
  dsimp only
  have hrest : s.dropWhile (· != '<') <:+ s := List.dropWhile_suffix _
  split
  · exact .ok ⟨hrest, trivial⟩
  split
  · exact .error
  split
  · exact .ok ⟨hrest, trivial⟩
  · exact .error

/-- The first token of legal text is legal. -/
theorem reads_next (legal : Xml.Legal s) : Reads s (next s) Token.Legal := by
  have inside {c : Char} {t u : List Char} {x : Except Fault (Token × List Char)}
      (h : Reads u x Token.Legal) (behind : u <:+ c :: t) : Reads ('<' :: c :: t) x Token.Legal :=
    h.imp fun r hr => ⟨(hr.1.trans behind).trans (List.suffix_cons '<' (c :: t)), hr.2⟩
  unfold next
  split
  · exact inside (reads_endTag _) (List.suffix_cons _ _)
  · exact inside (reads_instruction _) (List.suffix_cons _ _)
  · rename_i s
    split
    · rename_i hmark
      exact inside (reads_comment _) ((suffix_of_after? hmark).trans (List.suffix_cons _ _))
    · rename_i hmark
      exact inside (reads_section _) ((suffix_of_after? hmark).trans (List.suffix_cons _ _))
    · exact .error
  · exact (reads_startTag (legal_cons.1 legal).2).imp fun r hr =>
      ⟨hr.1.trans (List.suffix_cons '<' _), hr.2⟩
  · exact reads_text _

/-- The tokens of legal text are legal. -/
theorem legal_all (legal : Xml.Legal s) : Ensures (all s) fun ts => ∀ t ∈ ts, t.Legal := by
  fun_induction all s with
  | case1 => exact .ok (by simp)
  | case2 | case4 | case5 => exact .error
  | case3 s _ t rest hnext _ ts hrest ih =>
    obtain ⟨hsuffix, ht⟩ := reads_next legal _ hnext
    have hts := ih (legal.of_subset hsuffix.subset) ts hrest
    exact .ok (List.forall_mem_cons.2 ⟨ht, hts⟩)

theorem suffix_parted (s : List Char) : Ensures (skipDeclaration.parted s) (· <:+ s) := by
  unfold skipDeclaration.parted
  split
  · exact .ok (suffix_skipSpaces s)
  · exact .error

/-- A part of a declaration is an attribute of a given name. -/
theorem suffix_keyed (key : String) (s : List Char) :
    Ensures (do
      let ((name, _), s) ← readAttribute s
      if name.text = key then skipDeclaration.parted s else throw .malformedDeclaration)
      (· <:+ s) := by
  refine (reads_attribute s).bind fun ⟨⟨name, raw⟩, rest⟩ ⟨hrest, _⟩ => ?_
  dsimp only
  split
  · exact (suffix_parted rest).imp fun _ h => h.trans hrest
  · exact .throw

theorem suffix_optional (key : String) (s : List Char) :
    Ensures (skipDeclaration.optional key s) (· <:+ s) := by
  unfold skipDeclaration.optional
  split
  · exact .ok List.suffix_rfl
  · exact suffix_keyed key s

/-- What is left behind a declaration is a suffix. -/
theorem suffix_skipDeclaration (s : List Char) : Ensures (skipDeclaration s) (· <:+ s) := by
  unfold skipDeclaration
  split
  · exact .ok List.suffix_rfl
  · rename_i s₀ hmark
    have version : Ensures (skipDeclaration.version (skipSpaces s₀)) (· <:+ skipSpaces s₀) :=
      suffix_keyed "version" (skipSpaces s₀)
    refine version.bind fun s₁ h₁ => ?_
    refine (suffix_optional "encoding" s₁).bind fun s₂ h₂ => ?_
    refine (suffix_optional "standalone" s₂).bind fun s₃ h₃ => ?_
    split
    · rename_i rest hend
      have hdeclared : s₃ <:+ s :=
        (((h₃.trans h₂).trans h₁).trans (suffix_skipSpaces s₀)).trans (suffix_of_after? hmark)
      exact .pure (((suffix_of_after? hend).trans (suffix_skipSpaces s₃)).trans hdeclared)
    · exact .throw

end Token

end EntityDesign.Xml
