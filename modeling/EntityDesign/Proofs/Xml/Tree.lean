import EntityDesign.Proofs.Xml.Markup
import EntityDesign.Xml.Tree

/-! Written documents as trees. The root element that is read back has the tags and attributes that
were written, with the line breaks between its elements as text, and a look at its attributes and
child elements finds what was written. -/
namespace EntityDesign.Xml

/-- An attribute as it stands in a tree, in no namespace. -/
def attributeOf (a : String × String) : Attribute := ⟨{ localName := a.1 }, a.2⟩

namespace Markup

def spaceNode (depth : Nat) : Node := .text (String.ofList (Token.lineBreak depth))

mutual

/-- The element that is read for a piece of markup. -/
def element (depth : Nat) : Markup → Element
  | leaf tag attributes => ⟨{ localName := tag }, attributes.map attributeOf, []⟩
  | branch tag attributes children =>
    ⟨{ localName := tag }, attributes.map attributeOf,
      nodes (depth + 1) children ++ [spaceNode depth]⟩

/-- The nodes of a list of children, each behind its white space. -/
def nodes (depth : Nat) : List Markup → List Node
  | [] => []
  | m :: ms => spaceNode depth :: (element depth m).node :: nodes depth ms

end

/-- What a start tag opens. -/
def opened (tag : String) (attributes : List (String × String)) : Pending where
  tag := .plain tag
  scope := []
  name := { localName := tag }
  attributes := attributes.map attributeOf

section
variable {tag : String} {attributes : List (String × String)}

theorem declarations_plain (undeclared : ∀ a ∈ attributes, a.1 ≠ "xmlns") :
    Scope.declarations (attributes.map plainAttribute) = .ok [] := by
  rw [Scope.declarations, List.foldlM_map]
  induction attributes with
  | nil => rfl
  | cons a attributes ih =>
    have ha := undeclared a List.mem_cons_self
    rw [List.foldlM_cons]
    have hdeclare : Scope.declare [] (plainAttribute a).1 (plainAttribute a).2 = .ok [] := by
      simp [Scope.declare, plainAttribute, QName.plain, ha]
    rw [hdeclare]
    exact ih fun b hb => undeclared b (List.mem_cons_of_mem a hb)

theorem resolveAll_plain (done : List (String × String))
    (distinct : ((done ++ attributes).map (·.1)).Nodup) :
    Attribute.resolveAll [] (done.map attributeOf) (attributes.map plainAttribute) =
      .ok ((done ++ attributes).map attributeOf) := by
  induction attributes generalizing done with
  | nil => simp [Attribute.resolveAll]
  | cons a attributes ih =>
    have hassoc : done ++ a :: attributes = done ++ [a] ++ attributes := by simp
    have hnew : (done.map attributeOf).any (·.name == { localName := a.1 }) = false := by
      rw [List.map_append, List.map_cons, List.nodup_append] at distinct
      rw [List.any_eq_false]
      intro b hb
      obtain ⟨c, hc, rfl⟩ := List.mem_map.1 hb
      have hne : c.1 ≠ a.1 := distinct.2.2 c.1 (List.mem_map_of_mem hc) a.1 List.mem_cons_self
      simpa [attributeOf] using hne
    have hnext := ih (done ++ [a]) (hassoc ▸ distinct)
    rw [List.map_append, List.map_cons, List.map_nil] at hnext
    rw [hassoc, ← hnext, List.map_cons, Attribute.resolveAll]
    simp [plainAttribute, QName.plain, Name.ofAttribute, hnew, attributeOf, bind, Except.bind]

theorem open?_plain (named : TagNamed tag attributes) :
    Pending.open? [] (.plain tag) (attributes.map plainAttribute) =
      .ok (opened tag attributes) := by
  have hdeclarations := declarations_plain named.undeclared
  have hresolve : Attribute.resolveAll [] [] (attributes.map plainAttribute) =
      .ok (attributes.map attributeOf) := resolveAll_plain [] named.distinct
  have htag : Name.ofTag [] (.plain tag) = .ok { localName := tag } := by
    simp [Name.ofTag, QName.plain, Scope.resolve, Except.map]
  have hnone : (attributes.map plainAttribute).filter (fun a => !Scope.isDeclaration a.1) =
      attributes.map plainAttribute := by
    rw [List.filter_eq_self]
    intro b hb
    obtain ⟨a, ha, rfl⟩ := List.mem_map.1 hb
    simp [Scope.isDeclaration, plainAttribute, QName.plain, named.undeclared a ha]
  simp only [Pending.open?, hdeclarations, List.append_nil, htag, hnone, hresolve, bind,
    Except.bind, pure, Except.pure, opened]

end

theorem steps_cons (f : Forest) (t : Token) (ts : List Token) :
    f.steps (t :: ts) = (f.step t).bind fun f => f.steps ts := rfl

theorem step_space (f : Forest) (depth : Nat) :
    f.step (space depth) = .ok (f.push (spaceNode depth)) := rfl

theorem step_finish {p : Pending} {tag : QName} (h : p.tag = tag) (ps : List Pending)
    (root : Option Element) :
    Forest.step ⟨p :: ps, root⟩ (.finish tag) = Forest.close ⟨ps, root⟩ p.element := by
  simp [Forest.step, h]

@[simp] theorem scope_push (f : Forest) (n : Node) : (f.push n).scope = f.scope := by
  rcases f with ⟨_ | ⟨p, ps⟩, root⟩ <;> rfl

@[simp] theorem root_push (f : Forest) (n : Node) : (f.push n).root = f.root := by
  rcases f with ⟨_ | ⟨p, ps⟩, root⟩ <;> rfl

@[simp] theorem pending_push_eq_nil (f : Forest) (n : Node) :
    (f.push n).pending = [] ↔ f.pending = [] := by
  rcases f with ⟨_ | ⟨p, ps⟩, root⟩ <;> simp [Forest.push]

section
variable {tag : String} {attributes : List (String × String)} {f : Forest}
  (named : TagNamed tag attributes) (scope : f.scope = [])
include named scope

theorem step_empty : f.step (.start (.plain tag) (attributes.map plainAttribute) true) =
    f.close (opened tag attributes).element := by
  simp [Forest.step, scope, open?_plain named, bind, Except.bind]

theorem step_open (room : f.pending = [] → f.root = none) :
    f.step (.start (.plain tag) (attributes.map plainAttribute) false) =
      .ok { f with pending := opened tag attributes :: f.pending } := by
  have hroom : (f.pending.isEmpty && f.root.isSome) = false := by
    by_cases h : f.pending = []
    · simp [room h]
    · simp [h]
  simp [Forest.step, scope, open?_plain named, hroom, bind, Except.bind, pure, Except.pure]

end

mutual

/-- The tokens of an element put it in its place. -/
theorem steps_tokens (m : Markup) (depth : Nat) (f : Forest) (ts : List Token) (named : Named m)
    (scope : f.scope = []) (room : f.pending = [] → f.root = none) :
    f.steps (tokens depth m ++ ts) =
      ((f.push (spaceNode depth)).close (element depth m)).bind fun f => f.steps ts := by
  match m, named with
  | leaf tag attributes, named =>
    have hscope : (f.push (spaceNode depth)).scope = [] := by rw [scope_push, scope]
    simp only [tokens, List.cons_append, List.nil_append, steps_cons]
    rw [step_space, Except.bind, step_empty named hscope]
    rfl
  | branch tag attributes children, ⟨named, hchildren⟩ =>
    have hscope : (f.push (spaceNode depth)).scope = [] := by rw [scope_push, scope]
    have hroom : (f.push (spaceNode depth)).pending = [] →
        (f.push (spaceNode depth)).root = none := by
      simpa using room
    simp only [tokens, List.cons_append, List.append_assoc, List.nil_append, steps_cons]
    rw [step_space, Except.bind, step_open named hscope hroom, Except.bind,
      steps_listTokens children (depth + 1) _ _ _ _ hchildren rfl, steps_cons, step_space,
      Except.bind]
    simp only [Forest.push, steps_cons]
    rw [step_finish (by rfl)]
    -- the white space before the end tag is the last child
    have helement : Pending.element (Pending.push { opened tag attributes with
        children := (nodes (depth + 1) children).reverse ++ (opened tag attributes).children }
          (spaceNode depth)) = element depth (branch tag attributes children) := by
      simp [Pending.element, Pending.push, opened, element]
    rw [helement]

theorem steps_listTokens (ms : List Markup) (depth : Nat) (p : Pending) (ps : List Pending)
    (root : Option Element) (ts : List Token) (named : ListNamed ms) (scope : p.scope = []) :
    Forest.steps ⟨p :: ps, root⟩ (listTokens depth ms ++ ts) =
      Forest.steps ⟨{ p with children := (nodes depth ms).reverse ++ p.children } :: ps, root⟩
        ts := by
  match ms, named with
  | [], _ => rfl
  | m :: ms, ⟨hm, hms⟩ =>
    rw [listTokens, List.append_assoc, steps_tokens m depth ⟨p :: ps, root⟩ _ hm scope (by simp)]
    simp only [Forest.push, Forest.close, Except.bind]
    refine (steps_listTokens ms depth _ ps root ts hms ?_).trans ?_
    · exact scope
    · simp [Pending.push, nodes]

end

theorem skipDeclaration_append (s : List Char) :
    Token.skipDeclaration (declaration ++ s) = .ok s := rfl

theorem legal_declaration : Legal declaration := by decide

/-- The tokens of a document are those of its root. -/
theorem ofTokens_tokens {m : Markup} (named : Named m) :
    Element.ofTokens (tokens 0 m) = .ok (element 0 m) := by
  have hsteps := steps_tokens m 0 {} [] named rfl fun _ => rfl
  rw [List.append_nil] at hsteps
  rw [Element.ofTokens, hsteps]
  rfl

/-- A document that is written is read as the element it was written for. -/
theorem parse_write {m : Markup} {text : String} (named : Named m) (h : m.write = .ok text) :
    parse text = .ok (element 0 m) := by
  unfold write at h
  split at h
  · cases h
  · rename_i writable
    cases h
    have hmark : skipMark (render m).toList = declaration ++ lines 0 m := by
      rw [render, String.toList_ofList]
      rfl
    have hchars : (declaration ++ lines 0 m).all isChar = true :=
      List.all_eq_true.2 (legal_append.2 ⟨legal_declaration, legal_lines m 0 named writable⟩)
    have htokens : Token.all (lines 0 m) = .ok (tokens 0 m) := by
      have hall := all_lines m 0 [] named
      have hempty : Token.all [] = .ok [] := by simp [Token.all]
      rw [List.append_nil, hempty] at hall
      simpa [Except.map] using hall
    simp only [parse, hmark, hchars, skipDeclaration_append, htokens, bind, Except.bind,
      Bool.not_true, Bool.false_eq_true, ↓reduceIte, ofTokens_tokens named]

def tag : Markup → String
  | leaf tag _ => tag
  | branch tag _ _ => tag

def attributes : Markup → List (String × String)
  | leaf _ attributes => attributes
  | branch _ attributes _ => attributes

@[simp] theorem localName_element (depth : Nat) (m : Markup) :
    (element depth m).name.localName = m.tag := by
  cases m <;> simp [element, tag]

/-- The attributes of an element are those that were written. -/
theorem attribute?_element (depth : Nat) (m : Markup) (key : String) :
    (element depth m).attribute? key = (m.attributes.find? (·.1 == key)).map (·.2) := by
  have h : (element depth m).attributes = m.attributes.map attributeOf := by
    cases m <;> simp [element, attributes]
  rw [Element.attribute?, h, List.find?_map, Option.map_map]
  rfl

theorem filterMap_nodes (depth : Nat) (ms : List Markup) :
    (nodes depth ms).filterMap Node.element? = ms.map (element depth) := by
  induction ms with
  | nil => simp [nodes]
  | cons m ms ih => simp [nodes, spaceNode, Element.node, Node.element?, List.filterMap_cons, ih]

/-- The child elements are those that were written. -/
theorem elements_element (depth : Nat) (tag : String) (attributes : List (String × String))
    (children : List Markup) (key : String) :
    (element depth (branch tag attributes children)).elements key =
      (children.filter (·.tag == key)).map (element (depth + 1)) := by
  simp [Element.elements, element, filterMap_nodes, spaceNode, Node.element?, List.filter_map,
    Function.comp_def]

end Markup
end EntityDesign.Xml
