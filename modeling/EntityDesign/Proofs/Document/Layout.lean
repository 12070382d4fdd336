import Mathlib.Data.List.Perm.Basic
import Mathlib.Logic.Relation
import EntityDesign.Document.Reader

/-! What the reader takes from the tree of a document. Every element has a role in the layout of a
design, which tells the attributes that are read of it and the child elements that are looked into.
Revisions that spare these, at any depth, do not change what is read, nor the fault that is found
instead. -/
namespace EntityDesign
open Xml

namespace Xml.Element

/-- The first attribute of a local name depends on the attributes of this name only. -/
theorem attribute?_eq_of_filter {e e' : Element} {key : String}
    (h : e.attributes.filter (·.name.localName == key) =
      e'.attributes.filter (·.name.localName == key)) : e.attribute? key = e'.attribute? key := by
  rw [attribute?, attribute?, ← List.head?_filter, ← List.head?_filter, h]

theorem elements_append (name : Name) (attributes : List Attribute) (ns ms : List Node)
    (tag : String) : elements ⟨name, attributes, ns ++ ms⟩ tag =
      elements ⟨name, attributes, ns⟩ tag ++ elements ⟨name, attributes, ms⟩ tag := by
  simp [elements]

theorem elements_cons_node (name : Name) (attributes : List Attribute) (c : Element)
    (ns : List Node) (tag : String) : elements ⟨name, attributes, c.node :: ns⟩ tag =
      (if c.name.localName = tag then [c] else []) ++ elements ⟨name, attributes, ns⟩ tag := by
  by_cases h : c.name.localName = tag <;> simp [elements, node, Node.element?, h]

end Xml.Element

/-- What an element is to the reader by where it stands. -/
inductive Role where
  | design | connection | dialog | entities | entity | properties | property | queries | query
  | parameters | parameter | elsewhere

namespace Role

/-- The attributes that are read. -/
def keys : Role → List String
  | connection => ["name", "connectionString", "storage"]
  | dialog => ["width", "height"]
  | entity => ["name", "x", "y"]
  | property => ["name", "type", "dbType"]
  | query => ["command", "type", "method", "name", "error"]
  | parameter => ["name", "sysType", "dbType", "output"]
  | _ => []

/-- The child elements that are looked into. -/
def children : Role → List (String × Role)
  | design =>
    [("ConnectionString", connection), ("AddQueryDialog", dialog), ("Entities", entities)]
  | entities => [("Entity", entity)]
  | entity => [("Properties", properties), ("Queries", queries)]
  | properties => [("Property", property)]
  | queries => [("Query", query)]
  | query => [("Parameters", parameters)]
  | parameters => [("Parameter", parameter)]
  | _ => []

/-- The role of a child element of that local name. -/
def child (r : Role) (tag : String) : Role := (r.children.lookup tag).getD elsewhere

theorem child_eq {r q : Role} {tag : String} (h : (tag, q) ∈ r.children) : r.child tag = q := by
  cases r <;> simp only [children, List.mem_cons, List.not_mem_nil, Prod.mk.injEq, or_false] at h
    <;> grind [child, children]

/-- A section only groups elements, and there may be several. -/
def IsSection : Role → Prop
  | entities | properties | queries | parameters => True
  | _ => False

/-- A node that is passed over. -/
def Unread (r : Role) (n : Node) : Prop :=
  ∀ e ∈ n.element?, e.name.localName ∉ r.children.map Prod.fst

/-- What is read in that role. -/
def Value : Role → Type
  | design => Except DocumentFault Design
  | connection => Connection
  | dialog => Except DocumentFault UInt32 × Except DocumentFault UInt32
  | entities | entity => Except DocumentFault Entity
  | properties | property => Except DocumentFault Property
  | queries | query => Except DocumentFault Query
  | parameters | parameter => Except DocumentFault Parameter
  | elsewhere => Unit

/-- What is read of an element in that role; of a section, what is read of each element in it. -/
def values : (r : Role) → Element → List r.Value
  | design, e => [Design.ofXml e]
  | connection, e => [Connection.ofXml e]
  | dialog, e =>
    [(Design.readSize (some e) "width" ({} : Design).dialogWidth,
      Design.readSize (some e) "height" ({} : Design).dialogHeight)]
  | entities, e => (e.elements "Entity").map Entity.ofXml
  | entity, e => [Entity.ofXml e]
  | properties, e => (e.elements "Property").map Property.ofXml
  | property, e => [Property.ofXml e]
  | queries, e => (e.elements "Query").map Query.ofXml
  | query, e => [Query.ofXml e]
  | parameters, e => (e.elements "Parameter").map Parameter.ofXml
  | parameter, e => [Parameter.ofXml e]
  | elsewhere, _ => []

end Role

/-- Two elements in which the reader finds the same things in a role: the same local name, the same
values of the attributes it reads, and the same in the child elements it looks into. -/
structure Role.Alike (r : Role) (e e' : Element) : Prop where
  localName : e.name.localName = e'.name.localName
  attribute? : ∀ key ∈ r.keys, e.attribute? key = e'.attribute? key
  below : ∀ tag q, (tag, q) ∈ r.children →
    (e.elements tag).flatMap q.values = (e'.elements tag).flatMap q.values

/-- A failure among several elements is the first one, so it depends on their values only. -/
theorem mapM_congr_of_map {α β ε : Type} {f : α → Except ε β} {l m : List α}
    (h : l.map f = m.map f) : l.mapM f = m.mapM f := by
  have asMap (l : List α) : l.mapM f = (l.map f).mapM id := by
    rw [List.mapM_map, Function.id_comp]
  rw [asMap, asMap, h]

theorem map_congr_of_flatMap {α β : Type} {f : α → β} {l m : List α}
    (h : l.flatMap (fun a => [f a]) = m.flatMap fun a => [f a]) : l.map f = m.map f := by
  rw [List.map_eq_flatMap, List.map_eq_flatMap, h]

section Readers

variable {e e' : Element}

theorem Element.map_items_congr {α : Type} {sectionTag item : String} {f : Element → α}
    (h : (e.elements sectionTag).flatMap (fun s => (s.elements item).map f) =
      (e'.elements sectionTag).flatMap fun s => (s.elements item).map f) :
    (e.items sectionTag item).map f = (e'.items sectionTag item).map f := by
  rw [Element.items, Element.items, List.map_flatMap, List.map_flatMap, h]

theorem Element.require_congr {tag key : String} (h : e.attribute? key = e'.attribute? key) :
    e.require tag key = e'.require tag key := by
  rw [Element.require, Element.require, h]

theorem Element.requireAs_congr {α : Type} {tag key : String} {f : String → Option α}
    (h : e.attribute? key = e'.attribute? key) :
    e.requireAs tag key f = e'.requireAs tag key f := by
  rw [Element.requireAs, Element.requireAs, Element.require_congr h]

theorem Property.ofXml_congr (h : Role.property.Alike e e') : ofXml e = ofXml e' := by
  have key := h.attribute?
  simp only [Role.keys, List.forall_mem_cons] at key
  obtain ⟨name, hostType, dbType, -⟩ := key
  rw [ofXml, ofXml, Element.require_congr name, Element.require_congr hostType,
    Element.require_congr dbType]

theorem Parameter.ofXml_congr (h : Role.parameter.Alike e e') : ofXml e = ofXml e' := by
  have key := h.attribute?
  simp only [Role.keys, List.forall_mem_cons] at key
  obtain ⟨name, hostType, dbType, output, -⟩ := key
  rw [ofXml, ofXml, Element.require_congr name, Element.require_congr hostType,
    Element.requireAs_congr dbType, output]

theorem Query.ofXml_congr (h : Role.query.Alike e e') : ofXml e = ofXml e' := by
  have key := h.attribute?
  simp only [Role.keys, List.forall_mem_cons] at key
  obtain ⟨command, kind, execution, name, error, -⟩ := key
  have parameters : (e.items "Parameters" "Parameter").map Parameter.ofXml =
      (e'.items "Parameters" "Parameter").map Parameter.ofXml :=
    Element.map_items_congr (h.below "Parameters" .parameters (by simp [Role.children]))
  rw [ofXml, ofXml, Element.require_congr command, Element.requireAs_congr kind,
    Element.requireAs_congr execution, Element.require_congr name, mapM_congr_of_map parameters,
    error]

theorem Entity.ofXml_congr (h : Role.entity.Alike e e') : ofXml e = ofXml e' := by
  have key := h.attribute?
  simp only [Role.keys, List.forall_mem_cons] at key
  obtain ⟨name, x, y, -⟩ := key
  have properties : (e.items "Properties" "Property").map Property.ofXml =
      (e'.items "Properties" "Property").map Property.ofXml :=
    Element.map_items_congr (h.below "Properties" .properties (by simp [Role.children]))
  have queries : (e.items "Queries" "Query").map Query.ofXml =
      (e'.items "Queries" "Query").map Query.ofXml :=
    Element.map_items_congr (h.below "Queries" .queries (by simp [Role.children]))
  rw [ofXml, ofXml, Element.require_congr name, Element.requireAs_congr x,
    Element.requireAs_congr y, mapM_congr_of_map properties, mapM_congr_of_map queries]

theorem Connection.ofXml_congr (h : Role.connection.Alike e e') : ofXml e = ofXml e' := by
  have key := h.attribute?
  simp only [Role.keys, List.forall_mem_cons] at key
  obtain ⟨name, text, source, -⟩ := key
  rw [ofXml, ofXml, name, text, source]

theorem Design.readSize_congr {key : String} (default : UInt32)
    (h : e.attribute? key = e'.attribute? key) :
    readSize (some e) key default = readSize (some e') key default := by
  rw [readSize, readSize, h, Element.requireAs_congr h]

theorem Design.readSize_head? (es : List Element) (key : String) (default : UInt32) :
    readSize es.head? key default =
      (es.map fun e => readSize (some e) key default).head?.getD (.ok default) := by
  cases es <;> rfl

theorem Design.ofXml_congr (h : Role.design.Alike e e') : ofXml e = ofXml e' := by
  have connection : (e.elements "ConnectionString").map Connection.ofXml =
      (e'.elements "ConnectionString").map Connection.ofXml :=
    map_congr_of_flatMap (h.below "ConnectionString" .connection (by simp [Role.children]))
  have sizes : (e.elements "AddQueryDialog").map (fun d =>
        (readSize (some d) "width" ({} : Design).dialogWidth,
          readSize (some d) "height" ({} : Design).dialogHeight)) =
      (e'.elements "AddQueryDialog").map fun d =>
        (readSize (some d) "width" ({} : Design).dialogWidth,
          readSize (some d) "height" ({} : Design).dialogHeight) :=
    map_congr_of_flatMap (h.below "AddQueryDialog" .dialog (by simp [Role.children]))
  have widths := congrArg (List.map Prod.fst) sizes
  have heights := congrArg (List.map Prod.snd) sizes
  simp only [List.map_map, Function.comp_def] at widths heights
  have entities : (e.items "Entities" "Entity").map Entity.ofXml =
      (e'.items "Entities" "Entity").map Entity.ofXml :=
    Element.map_items_congr (h.below "Entities" .entities (by simp [Role.children]))
  simp only [ofXml, h.localName, ← List.head?_map, connection, readSize_head?, widths, heights,
    mapM_congr_of_map entities]

end Readers

namespace Role

theorem values_congr {r : Role} {e e' : Element} (h : r.Alike e e') :
    r.values e = r.values e' := by
  -- A section reads its one kind of child elements; the rest have a reader of their own.
  cases r with
  | design => exact congrArg (List.cons · []) (Design.ofXml_congr h)
  | connection => exact congrArg (List.cons · []) (Connection.ofXml_congr h)
  | dialog =>
    have width := Design.readSize_congr ({} : Design).dialogWidth
      (h.attribute? "width" (by simp [keys]))
    have height := Design.readSize_congr ({} : Design).dialogHeight
      (h.attribute? "height" (by simp [keys]))
    rw [values, values, width, height]
  | entity => exact congrArg (List.cons · []) (Entity.ofXml_congr h)
  | property => exact congrArg (List.cons · []) (Property.ofXml_congr h)
  | query => exact congrArg (List.cons · []) (Query.ofXml_congr h)
  | parameter => exact congrArg (List.cons · []) (Parameter.ofXml_congr h)
  | elsewhere => rfl
  | entities =>
    exact map_congr_of_flatMap (f := Entity.ofXml)
      (h.below "Entity" .entity (by simp [children]))
  | properties =>
    exact map_congr_of_flatMap (f := Property.ofXml)
      (h.below "Property" .property (by simp [children]))
  | queries =>
    exact map_congr_of_flatMap (f := Query.ofXml)
      (h.below "Query" .query (by simp [children]))
  | parameters =>
    exact map_congr_of_flatMap (f := Parameter.ofXml)
      (h.below "Parameter" .parameter (by simp [children]))

/-- A section reads its elements one after the other. -/
theorem values_section {r : Role} (h : r.IsSection) (name name' : Name)
    (attributes attributes' : List Attribute) (ns ms : List Node) :
    r.values ⟨name, attributes, ns ++ ms⟩ =
      r.values ⟨name, attributes, ns⟩ ++ r.values ⟨name', attributes', ms⟩ := by
  have readings {α : Type} (f : Element → α) (tag : String) :
      (Element.elements ⟨name, attributes, ns ++ ms⟩ tag).map f =
        (Element.elements ⟨name, attributes, ns⟩ tag).map f ++
          (Element.elements ⟨name', attributes', ms⟩ tag).map f := by
    rw [Element.elements_append, List.map_append]
    rfl
  cases r with
  | entities => exact readings Entity.ofXml "Entity"
  | properties => exact readings Property.ofXml "Property"
  | queries => exact readings Query.ofXml "Query"
  | parameters => exact readings Parameter.ofXml "Parameter"
  | _ => exact h.elim

end Role

/-- One revision of an element, in its own parts or at any depth below. -/
inductive Revision : Role → Element → Element → Prop where
  /-- Takes out a comment, an instruction, text, or an element that is passed over. -/
  | dropNode {r : Role} {name : Name} {attributes : List Attribute} {n : Node} {ns ms : List Node}
      (unread : r.Unread n) :
      Revision r ⟨name, attributes, ns ++ n :: ms⟩ ⟨name, attributes, ns ++ ms⟩
  /-- Takes out an attribute that is not read. -/
  | dropAttribute {r : Role} {name : Name} {a : Attribute} {as bs : List Attribute}
      {ns : List Node} (unread : a.name.localName ∉ r.keys) :
      Revision r ⟨name, as ++ a :: bs, ns⟩ ⟨name, as ++ bs, ns⟩
  /-- Rearranges the attributes, but not among those of one local name. -/
  | permute {r : Role} {name : Name} {as bs : List Attribute} {ns : List Node} (perm : as.Perm bs)
      (kept : ∀ key, as.filter (·.name.localName == key) = bs.filter (·.name.localName == key)) :
      Revision r ⟨name, as, ns⟩ ⟨name, bs, ns⟩
  /-- Moves the last part of a section into a section of its own, right behind the first. -/
  | split {r : Role} {name : Name} {attributes : List Attribute} {us vs ns ms : List Node}
      {first second : Name} {as bs : List Attribute}
      (isSection : (r.child first.localName).IsSection)
      (same : second.localName = first.localName) :
      Revision r ⟨name, attributes, ns ++ .element first as (us ++ vs) :: ms⟩
        ⟨name, attributes, ns ++ .element first as us :: .element second bs vs :: ms⟩
  /-- Revises a child element. -/
  | inside {r : Role} {name : Name} {attributes : List Attribute} {ns ms : List Node}
      {c c' : Element} (below : Revision (r.child c.name.localName) c c') :
      Revision r ⟨name, attributes, ns ++ c.node :: ms⟩ ⟨name, attributes, ns ++ c'.node :: ms⟩

namespace Revision

theorem name_eq {r : Role} {e e' : Element} (h : Revision r e e') : e.name = e'.name := by
  cases h <;> rfl

/-- Of two lists of children that differ in the middle only, the middle decides. -/
theorem alike_of_middle {r : Role} {name : Name} {attributes : List Attribute}
    (ns us vs ms : List Node)
    (h : ∀ tag q, (tag, q) ∈ r.children →
      (Element.elements ⟨name, attributes, us⟩ tag).flatMap q.values =
        (Element.elements ⟨name, attributes, vs⟩ tag).flatMap q.values) :
    r.Alike ⟨name, attributes, ns ++ (us ++ ms)⟩ ⟨name, attributes, ns ++ (vs ++ ms)⟩ := by
  refine ⟨rfl, fun _ _ => rfl, fun tag q hq => ?_⟩
  simp only [Element.elements_append, List.flatMap_append, h tag q hq]

theorem alike_dropNode {r : Role} {name : Name} {attributes : List Attribute} {n : Node}
    {ns ms : List Node} (unread : r.Unread n) :
    r.Alike ⟨name, attributes, ns ++ n :: ms⟩ ⟨name, attributes, ns ++ ms⟩ := by
  refine alike_of_middle ns [n] [] ms fun tag q hq => ?_
  have passed : Element.elements ⟨name, attributes, [n]⟩ tag = [] := by
    rw [Element.elements, List.filter_eq_nil_iff]
    intro e he same
    have he : n.element? = some e := by simpa using he
    rw [beq_iff_eq] at same
    exact unread e he (List.mem_map.2 ⟨(tag, q), hq, same.symm⟩)
  rw [passed]
  rfl

theorem alike_dropAttribute {r : Role} {name : Name} {a : Attribute} {as bs : List Attribute}
    {ns : List Node} (unread : a.name.localName ∉ r.keys) :
    r.Alike ⟨name, as ++ a :: bs, ns⟩ ⟨name, as ++ bs, ns⟩ := by
  refine ⟨rfl, fun key hkey => Element.attribute?_eq_of_filter ?_, fun _ _ _ => rfl⟩
  have other : a.name.localName ≠ key := fun same => unread (same ▸ hkey)
  simp [other]

theorem alike_split {r : Role} {name : Name} {attributes : List Attribute}
    {us vs ns ms : List Node} {first second : Name} {as bs : List Attribute}
    (isSection : (r.child first.localName).IsSection) (same : second.localName = first.localName) :
    r.Alike ⟨name, attributes, ns ++ .element first as (us ++ vs) :: ms⟩
      ⟨name, attributes, ns ++ .element first as us :: .element second bs vs :: ms⟩ := by
  refine alike_of_middle ns [Element.node ⟨first, as, us ++ vs⟩]
    [Element.node ⟨first, as, us⟩, Element.node ⟨second, bs, vs⟩] ms fun tag q hq => ?_
  rw [Element.elements_cons_node, Element.elements_cons_node, Element.elements_cons_node, same]
  by_cases named : first.localName = tag
  · rw [named, Role.child_eq hq] at isSection
    simp [named, Element.elements, Role.values_section isSection first second as bs us vs]
  · simp [named, Element.elements]

theorem alike_inside {r : Role} {name : Name} {attributes : List Attribute} {ns ms : List Node}
    {c c' : Element} (named : c.name = c'.name)
    (below : (r.child c.name.localName).values c = (r.child c.name.localName).values c') :
    r.Alike ⟨name, attributes, ns ++ c.node :: ms⟩ ⟨name, attributes, ns ++ c'.node :: ms⟩ := by
  refine alike_of_middle ns [c.node] [c'.node] ms fun tag q hq => ?_
  rw [Element.elements_cons_node, Element.elements_cons_node, ← named]
  by_cases h : c.name.localName = tag
  · rw [h, Role.child_eq hq] at below
    simp [h, Element.elements, below]
  · simp [h, Element.elements]

/-- No revision changes what is read. -/
theorem values_eq {r : Role} {e e' : Element} (h : Revision r e e') : r.values e = r.values e' := by
  induction h with
  | dropNode unread => exact Role.values_congr (alike_dropNode unread)
  | dropAttribute unread => exact Role.values_congr (alike_dropAttribute unread)
  | permute _ kept =>
    exact Role.values_congr
      ⟨rfl, fun key _ => Element.attribute?_eq_of_filter (kept key), fun _ _ _ => rfl⟩
  | split isSection same => exact Role.values_congr (alike_split isSection same)
  | inside below ih => exact Role.values_congr (alike_inside below.name_eq ih)

/-- Where no two attributes have the same local name, their order is free. -/
theorem permute_of_nodup (r : Role) (name : Name) {as bs : List Attribute} (ns : List Node)
    (perm : as.Perm bs) (distinct : (as.map (·.name.localName)).Nodup) :
    Revision r ⟨name, as, ns⟩ ⟨name, bs, ns⟩ := by
  refine .permute perm fun key => ?_
  have apart : as.Pairwise fun a b => a.name.localName ≠ b.name.localName :=
    List.pairwise_map.1 distinct
  have apart' : bs.Pairwise fun a b => a.name.localName ≠ b.name.localName :=
    List.pairwise_map.1 ((perm.map _).nodup_iff.1 distinct)
  refine List.Perm.eq_of_pairwise (fun a b ha hb differ _ => ?_) (apart.filter _) (apart'.filter _)
    (perm.filter _)
  have hasKey : a.name.localName = key := by simpa using (List.mem_filter.1 ha).2
  have hasKey' : b.name.localName = key := by simpa using (List.mem_filter.1 hb).2
  exact absurd (hasKey.trans hasKey'.symm) differ

end Revision

/-- Where revisions, made or taken back, lead from one element to the other, the same is read of
both. -/
theorem Role.values_eq_of_revisions {r : Role} {e e' : Element}
    (h : Relation.EqvGen (Revision r) e e') : r.values e = r.values e' := by
  induction h with
  | rel _ _ revision => exact revision.values_eq
  | refl _ => rfl
  | symm _ _ _ ih => exact ih.symm
  | trans _ _ _ _ _ ih ih' => exact ih.trans ih'

namespace Design

/-- Documents that revisions lead from one to the other are read alike: as one design, or with one
fault. -/
theorem ofXml_eq_of_revisions {root root' : Element}
    (h : Relation.EqvGen (Revision .design) root root') :
    ofXml root = ofXml root' ∧ ∀ text text', Xml.parse text = .ok root →
      Xml.parse text' = .ok root' → read text = read text' := by
  have same : ofXml root = ofXml root' := (List.cons.inj (Role.values_eq_of_revisions h)).1
  refine ⟨same, fun text text' parsed parsed' => ?_⟩
  rw [read, read, parsed, parsed']
  exact same

/-- An element without namespaces. -/
def sampleElement (tag : String) (attributes : List (String × String)) (children : List Element) :
    Element :=
  ⟨{ localName := tag }, attributes.map fun a => ⟨{ localName := a.1 }, a.2⟩,
    children.map (·.node)⟩

def looseText : String :=
  "<DsLight><!--old--><Entities><Entity note='' x='1' name='A'/><Entity/></Entities></DsLight>"

def tidyText : String :=
  "<DsLight><Entities><Entity name='A' x='1'/></Entities><Entities><Entity/></Entities></DsLight>"

/-- The tree of a document with two entities in one section. -/
def looseTree (comments : List Node) (attributes : List (String × String)) : Element :=
  ⟨{ localName := "DsLight" }, [], comments ++
    [(sampleElement "Entities" []
      [sampleElement "Entity" attributes [], sampleElement "Entity" [] []]).node]⟩

def tidyTree : Element :=
  sampleElement "DsLight" []
    [sampleElement "Entities" [] [sampleElement "Entity" [("name", "A"), ("x", "1")] []],
      sampleElement "Entities" [] [sampleElement "Entity" [] []]]

/-- A revision of the attributes of the first entity revises the document. -/
theorem revision_looseTree {attributes attributes' : List (String × String)}
    (h : Revision .entity (sampleElement "Entity" attributes [])
      (sampleElement "Entity" attributes' [])) :
    Revision .design (looseTree [] attributes) (looseTree [] attributes') :=
  @Revision.inside .design _ _ [] [] _ _ (@Revision.inside .entities _ _ [] _ _ _ h)

/-- A comment and an attribute of no meaning are dropped, attributes are put in another order, and
each entity gets a section of its own. Either way the missing ordinate of the first is the fault. -/
theorem ofXml_eq_of_revisions_sample :
    let loose := looseTree [.comment "old"] [("note", ""), ("x", "1"), ("name", "A")]
    Xml.parse looseText = .ok loose ∧ Xml.parse tidyText = .ok tidyTree ∧
      Relation.EqvGen (Revision .design) loose tidyTree ∧ ofXml loose = ofXml tidyTree ∧
      read looseText = read tidyText ∧
      ofXml tidyTree = .error (.missingAttribute "Entity" "y") := by
  intro loose
  have parsed : Xml.parse looseText = .ok loose := by
    rw [parse, looseText, String.toList_ofList]
    with_unfolding_all rfl
  have parsed' : Xml.parse tidyText = .ok tidyTree := by
    rw [parse, tidyText, String.toList_ofList]
    with_unfolding_all rfl
  have comment : Revision .design loose (looseTree [] [("note", ""), ("x", "1"), ("name", "A")]) :=
    @Revision.dropNode .design _ _ (.comment "old") [] _ (by simp [Role.Unread, Node.element?])
  have note : Revision .design (looseTree [] [("note", ""), ("x", "1"), ("name", "A")])
      (looseTree [] [("x", "1"), ("name", "A")]) :=
    revision_looseTree (@Revision.dropAttribute .entity _ _ [] _ _ (by decide))
  have order : Revision .design (looseTree [] [("x", "1"), ("name", "A")])
      (looseTree [] [("name", "A"), ("x", "1")]) :=
    revision_looseTree (Revision.permute_of_nodup .entity _ _ (.swap ..) (by decide))
  have apart : Revision .design (looseTree [] [("name", "A"), ("x", "1")]) tidyTree :=
    @Revision.split .design _ _ [_] [_] [] [] _ _ _ _ trivial rfl
  have h : Relation.EqvGen (Revision .design) loose tidyTree :=
    .trans _ _ _ (.trans _ _ _ (.rel _ _ comment) (.rel _ _ note))
      (.trans _ _ _ (.rel _ _ order) (.rel _ _ apart))
  exact ⟨parsed, parsed', h, (ofXml_eq_of_revisions h).1,
    (ofXml_eq_of_revisions h).2 _ _ parsed parsed', by decide⟩

/-- A connection with an attribute `name` in a namespace and one in none. -/
def namesakes (attributes : List Attribute) : Element :=
  ⟨{ localName := "DsLight" }, [], [.element { localName := "ConnectionString" } attributes []]⟩

/-- The order of two attributes of one local name matters: the first is read. -/
theorem ofXml_namesakes :
    let qualified : Attribute := ⟨{ uri := "u", localName := "name" }, "B"⟩
    let plain : Attribute := ⟨{ localName := "name" }, "A"⟩
    Xml.parse "<DsLight xmlns:a='u'><ConnectionString a:name='B' name='A'/></DsLight>" =
        .ok (namesakes [qualified, plain]) ∧
      Xml.parse "<DsLight xmlns:a='u'><ConnectionString name='A' a:name='B'/></DsLight>" =
        .ok (namesakes [plain, qualified]) ∧
      [qualified, plain].Perm [plain, qualified] ∧
      ofXml (namesakes [qualified, plain]) = .ok { connection := { name := "B" } } ∧
      ofXml (namesakes [plain, qualified]) = .ok { connection := { name := "A" } } := by
  refine ⟨?_, ?_, .swap .., by decide, by decide⟩
  · rw [parse, String.toList_ofList]
    with_unfolding_all rfl
  · rw [parse, String.toList_ofList]
    with_unfolding_all rfl

end Design
end EntityDesign
