import EntityDesign.Proofs.Xml.Legal.Token
import EntityDesign.Xml.Tree

/-! Legal trees. Whatever the nesting and the namespaces of a document are, the values of all
attributes in its tree are made of characters that XML allows. -/
namespace EntityDesign.Xml

/-- The attributes of a node and of all below it have legal values. -/
inductive Node.Legal : Node → Prop
  | element {name : Name} {attributes : List Attribute} {children : List Node}
      (values : ∀ a ∈ attributes, Xml.Legal a.value.toList)
      (below : ∀ n ∈ children, Node.Legal n) : Node.Legal (.element name attributes children)
  | text (content : String) : Node.Legal (.text content)
  | comment (content : String) : Node.Legal (.comment content)
  | instruction (target content : String) : Node.Legal (.instruction target content)

/-- The attributes of an element and of all below it have legal values. -/
structure Element.Legal (e : Element) : Prop where
  values : ∀ a ∈ e.attributes, Xml.Legal a.value.toList
  below : ∀ n ∈ e.children, n.Legal

namespace Element
variable {e : Element} (legal : e.Legal)
include legal

theorem Legal.node : e.node.Legal := .element legal.values legal.below

theorem Legal.attribute? {key value : String} (h : e.attribute? key = some value) :
    Xml.Legal value.toList := by
  obtain ⟨a, ha, rfl⟩ := Option.map_eq_some_iff.1 h
  exact legal.values a (List.mem_of_find?_eq_some ha)

theorem Legal.elements {tag : String} : ∀ child ∈ e.elements tag, child.Legal := by
  intro child hchild
  obtain ⟨n, hn, hchild⟩ := List.mem_filterMap.1 (List.mem_filter.1 hchild).1
  cases legal.below n hn with
  | element values below =>
    cases hchild
    exact ⟨values, below⟩
  | text | comment | instruction => cases hchild

end Element

/-- The open element and what is in it so far have legal values. -/
structure Pending.Legal (p : Pending) : Prop where
  values : ∀ a ∈ p.attributes, Xml.Legal a.value.toList
  below : ∀ n ∈ p.children, n.Legal

theorem Pending.Legal.element {p : Pending} (legal : p.Legal) : p.element.Legal :=
  ⟨legal.values, fun n hn => legal.below n (List.mem_reverse.1 hn)⟩

theorem Pending.Legal.push {p : Pending} (legal : p.Legal) {n : Node} (hn : n.Legal) :
    (p.push n).Legal :=
  ⟨legal.values, List.forall_mem_cons.2 ⟨hn, legal.below⟩⟩

theorem legal_resolveAll (scope : Scope) {done : List Attribute} {rest : List (QName × String)}
    (hdone : ∀ a ∈ done, Legal a.value.toList) (hrest : ∀ a ∈ rest, Legal a.2.toList) :
    Ensures (Attribute.resolveAll scope done rest) fun as => ∀ a ∈ as, Legal a.value.toList := by
  induction rest generalizing done with
  | nil => exact .ok hdone
  | cons a rest ih =>
    obtain ⟨ha, hrest⟩ := List.forall_mem_cons.1 hrest
    unfold Attribute.resolveAll
    refine Ensures.trivial.bind fun resolved _ => ?_
    split
    · exact .throw_bind
    · refine ih (fun b hb => ?_) hrest
      rcases List.mem_append.1 hb with hb | hb
      · exact hdone b hb
      · rw [List.mem_singleton.1 hb]
        exact ha

theorem Pending.legal_open? (scope : Scope) (tag : QName) {attributes : List (QName × String)}
    (legal : ∀ a ∈ attributes, Xml.Legal a.2.toList) :
    Ensures (Pending.open? scope tag attributes) Pending.Legal := by
  unfold Pending.open?
  refine Ensures.trivial.bind fun own _ => ?_
  refine Ensures.trivial.bind fun name _ => ?_
  refine (legal_resolveAll (own ++ scope) (by simp) fun a ha =>
    legal a (List.mem_filter.1 ha).1).bind fun attributes hattributes => ?_
  exact .pure ⟨hattributes, by simp⟩

/-- Everything in a document under construction has legal values. -/
structure Forest.Legal (f : Forest) : Prop where
  pending : ∀ p ∈ f.pending, p.Legal
  root : ∀ e ∈ f.root, e.Legal

namespace Forest
variable {f : Forest} (legal : f.Legal)
include legal

theorem legal_close {e : Element} (he : e.Legal) : Ensures (f.close e) Forest.Legal := by
  unfold close
  split
  · rename_i p ps hpending
    obtain ⟨hp, hps⟩ := List.forall_mem_cons.1 (hpending ▸ legal.pending)
    exact .ok ⟨List.forall_mem_cons.2 ⟨hp.push he.node, hps⟩, legal.root⟩
  · split
    · exact .error
    · exact .ok ⟨legal.pending, by simpa using he⟩

theorem legal_push {n : Node} (hn : n.Legal) : (f.push n).Legal := by
  unfold push
  split
  · rename_i p ps hpending
    obtain ⟨hp, hps⟩ := List.forall_mem_cons.1 (hpending ▸ legal.pending)
    exact ⟨List.forall_mem_cons.2 ⟨hp.push hn, hps⟩, legal.root⟩
  · exact legal

/-- A legal token keeps the values legal. -/
theorem legal_step {t : Token} (ht : t.Legal) : Ensures (f.step t) Forest.Legal := by
  cases t with
  | start tag attributes isEmpty =>
    refine (Pending.legal_open? f.scope tag ht).bind fun p hp => ?_
    split
    · exact legal_close legal hp.element
    · split
      · exact .throw
      · exact .pure ⟨List.forall_mem_cons.2 ⟨hp, legal.pending⟩, legal.root⟩
  | finish tag =>
    dsimp only [step]
    split
    · rename_i p ps hpending
      obtain ⟨hp, hps⟩ := List.forall_mem_cons.1 (hpending ▸ legal.pending)
      have hrest : Forest.Legal { f with pending := ps } := ⟨hps, legal.root⟩
      split
      · exact legal_close hrest hp.element
      · exact .error
    · exact .error
  | space content => exact .ok (legal_push legal (.text content))
  | text content =>
    dsimp only [step]
    split
    · exact .error
    · exact .ok (legal_push legal (.text content))
  | comment content => exact .ok (legal_push legal (.comment content))
  | instruction target content => exact .ok (legal_push legal (.instruction target content))

/-- Legal tokens keep the values legal. -/
theorem legal_steps {ts : List Token} (hts : ∀ t ∈ ts, t.Legal) :
    Ensures (f.steps ts) Forest.Legal := by
  induction ts generalizing f with
  | nil => exact .ok legal
  | cons t ts ih =>
    obtain ⟨ht, hts⟩ := List.forall_mem_cons.1 hts
    exact (legal_step legal ht).bind fun f hf => ih hf hts

end Forest

theorem legal_ofTokens {ts : List Token} (hts : ∀ t ∈ ts, t.Legal) :
    Ensures (Element.ofTokens ts) Element.Legal := by
  have start : Forest.Legal {} := ⟨by simp, by simp⟩
  refine (Forest.legal_steps start hts).bind fun f hf => ?_
  split
  · rename_i e _ hroot
    exact .pure (hf.root e hroot)
  · exact .throw
  · exact .throw

/-- The values of all attributes in the tree of a document are legal. -/
theorem legal_parse (text : String) : Ensures (parse text) Element.Legal := by
  unfold parse
  dsimp only
  split
  · exact .throw_bind
  · rename_i hchars
    have legal : Legal (skipMark text.toList) := by simpa [Legal] using hchars
    refine (Token.suffix_skipDeclaration _).bind fun s hs => ?_
    refine (Token.legal_all (legal.of_subset hs.subset)).bind fun ts hts => ?_
    exact legal_ofTokens hts

end EntityDesign.Xml
