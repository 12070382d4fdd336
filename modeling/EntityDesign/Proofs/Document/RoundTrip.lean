import EntityDesign.Document.Reader
import EntityDesign.Proofs.Text.Integer
import EntityDesign.Proofs.Xml.Tree

/-! A written design is read back. The reader takes from the tree of a document what the writer put
into its markup, layer by layer: columns and parameters, queries, entities, the design. -/
namespace EntityDesign
open Xml Text

namespace Xml.Markup

/-- The items of a section are the children that were written in it. -/
theorem items_element {α : Type} (depth : Nat) {tag sectionTag item : String}
    {attributes : List (String × String)} {children : List Markup} {f : α → Markup} {l : List α}
    (found : children.filter (·.tag == sectionTag) = [branch sectionTag [] (l.map f)])
    (tags : ∀ a, (f a).tag = item) :
    (element depth (branch tag attributes children)).items sectionTag item =
      l.map fun a => element (depth + 2) (f a) := by
  have hitems : (l.map f).filter (·.tag == item) = l.map f := by
    rw [List.filter_eq_self]
    intro m hm
    obtain ⟨a, -, rfl⟩ := List.mem_map.1 hm
    simp [tags]
  rw [Element.items, elements_element, found, List.map_singleton, List.flatMap_singleton,
    elements_element, hitems, List.map_map]
  rfl

end Xml.Markup

theorem mapM_ok {α β γ ε : Type} {f : α → β} {g : β → Except ε γ} {h : α → γ}
    (each : ∀ a, g (f a) = .ok (h a)) (l : List α) : (l.map f).mapM g = .ok (l.map h) := by
  induction l with
  | nil => rfl
  | cons a l ih =>
    rw [List.map_cons, List.mapM_cons, each, ih]
    rfl

namespace Property

theorem named_markup (p : Property) : Markup.Named p.markup :=
  tagNamed_of_keys ["type", "name", "dbType"] rfl (by decide) (by decide) (by decide)

theorem ofXml_markup (depth : Nat) (p : Property) :
    ofXml (Markup.element depth p.markup) = .ok p := by
  simp [ofXml, Element.require, Markup.attribute?_element, markup, Markup.attributes, bind,
    Except.bind, pure, Except.pure]

end Property

namespace Parameter

theorem named_markup (p : Parameter) : Markup.Named p.markup := by
  cases h : p.isOutput with
  | false =>
    exact tagNamed_of_keys ["name", "dbType", "sysType"] (by simp [h]) (by decide) (by decide)
      (by decide)
  | true =>
    exact tagNamed_of_keys ["name", "dbType", "sysType", "output"] (by simp [h]) (by decide)
      (by decide) (by decide)

theorem ofXml_markup (depth : Nat) (p : Parameter) :
    ofXml (Markup.element depth p.markup) = .ok p := by
  obtain ⟨name, hostType, dbType, isOutput⟩ := p
  cases isOutput <;>
    simp [ofXml, Element.require, Element.requireAs, Markup.attribute?_element, markup,
      Markup.attributes, Except.toOption, bind, Except.bind, pure, Except.pure]

end Parameter

namespace Query

theorem named_markup (q : Query) : Markup.Named q.markup := by
  have hparameters : Markup.ListNamed [.branch "Parameters" [] (q.parameters.map (·.markup))] :=
    ⟨⟨tagNamed_of_keys [] rfl (by decide) (by decide) (by decide),
      Markup.listNamed_map Parameter.named_markup q.parameters⟩, trivial⟩
  refine ⟨?_, hparameters⟩
  cases h : q.showError with
  | false =>
    exact tagNamed_of_keys ["name", "method", "command", "type"] (by simp [attributes, h])
      (by decide) (by decide) (by decide)
  | true =>
    exact tagNamed_of_keys ["name", "method", "command", "type", "error"] (by simp [attributes, h])
      (by decide) (by decide) (by decide)

theorem ofXml_markup (depth : Nat) (q : Query) :
    ofXml (Markup.element depth q.markup) = .ok q.stored := by
  have hitems : (Markup.element depth q.markup).items "Parameters" "Parameter" =
      q.parameters.map fun p => Markup.element (depth + 2) p.markup :=
    Markup.items_element depth rfl fun _ => rfl
  have hparameters := mapM_ok (Parameter.ofXml_markup (depth + 2)) q.parameters
  rw [List.map_id'] at hparameters
  have hattribute (key : String) : (Markup.element depth q.markup).attribute? key =
      (q.attributes.find? (·.1 == key)).map (·.2) := Markup.attribute?_element depth q.markup key
  obtain ⟨name, command, kind, execution, parameters, showError, showOk, isSelected⟩ := q
  cases showError <;>
    simp [ofXml, Element.require, Element.requireAs, hattribute, attributes, Except.toOption,
      hitems, hparameters, stored, bind, Except.bind, pure, Except.pure]

end Query

namespace Entity

theorem named_markup (e : Entity) : Markup.Named e.markup := by
  have htag : TagNamed "Entity" [("name", e.name), ("x", ofInt32 e.x), ("y", ofInt32 e.y)] :=
    tagNamed_of_keys ["name", "x", "y"] rfl (by decide) (by decide) (by decide)
  refine ⟨htag, ?_, ?_, trivial⟩
  · exact ⟨tagNamed_of_keys [] rfl (by decide) (by decide) (by decide),
      Markup.listNamed_map Property.named_markup e.properties⟩
  · exact ⟨tagNamed_of_keys [] rfl (by decide) (by decide) (by decide),
      Markup.listNamed_map Query.named_markup e.queries⟩

theorem ofXml_markup (depth : Nat) (e : Entity) :
    ofXml (Markup.element depth e.markup) = .ok e.stored := by
  have hpropertyItems : (Markup.element depth e.markup).items "Properties" "Property" =
      e.properties.map fun p => Markup.element (depth + 2) p.markup :=
    Markup.items_element depth rfl fun _ => rfl
  have hqueryItems : (Markup.element depth e.markup).items "Queries" "Query" =
      e.queries.map fun q => Markup.element (depth + 2) q.markup :=
    Markup.items_element depth rfl fun _ => rfl
  have hproperties := mapM_ok (Property.ofXml_markup (depth + 2)) e.properties
  have hqueries := mapM_ok (Query.ofXml_markup (depth + 2)) e.queries
  rw [List.map_id'] at hproperties
  have hattribute (key : String) : (Markup.element depth e.markup).attribute? key =
      ([("name", e.name), ("x", ofInt32 e.x), ("y", ofInt32 e.y)].find? (·.1 == key)).map (·.2) :=
    Markup.attribute?_element depth e.markup key
  simp [ofXml, Element.require, Element.requireAs, hattribute, hpropertyItems, hproperties,
    hqueryItems, hqueries, stored, bind, Except.bind, pure, Except.pure]

end Entity

namespace Connection

theorem ofXml_markup (depth : Nat) (c : Connection) :
    ofXml (Markup.element depth c.markup) = c := by
  have hattribute (key : String) : (Markup.element depth c.markup).attribute? key =
      ([("name", c.name), ("connectionString", c.text), ("storage", c.source.word)].find?
        (·.1 == key)).map (·.2) := Markup.attribute?_element depth c.markup key
  obtain ⟨name, text, source⟩ := c
  cases source <;> simp [ofXml, hattribute, ConnectionSource.word]

end Connection

namespace Design

theorem named_markup (d : Design) : Markup.Named d.markup := by
  refine ⟨tagNamed_of_keys ["version"] rfl (by decide) (by decide) (by decide), ?_, ?_, ?_, trivial⟩
  · exact tagNamed_of_keys ["name", "connectionString", "storage"] rfl (by decide) (by decide)
      (by decide)
  · exact tagNamed_of_keys ["width", "height"] rfl (by decide) (by decide) (by decide)
  · exact ⟨tagNamed_of_keys [] rfl (by decide) (by decide) (by decide),
      Markup.listNamed_map Entity.named_markup d.entities⟩

theorem readSize_dialog (depth : Nat) (d : Design) (default : UInt32) :
    readSize (some (Markup.element depth d.dialogMarkup)) "width" default = .ok d.dialogWidth ∧
      readSize (some (Markup.element depth d.dialogMarkup)) "height" default =
        .ok d.dialogHeight := by
  have hattribute (key : String) : (Markup.element depth d.dialogMarkup).attribute? key =
      ([("width", ofUInt32 d.dialogWidth), ("height", ofUInt32 d.dialogHeight)].find?
        (·.1 == key)).map (·.2) := Markup.attribute?_element depth d.dialogMarkup key
  constructor <;> simp [readSize, Element.requireAs, Element.require, hattribute, bind, Except.bind,
    pure, Except.pure]

theorem ofXml_markup (depth : Nat) (d : Design) :
    ofXml (Markup.element depth d.markup) = .ok d.stored := by
  have hitems : (Markup.element depth d.markup).items "Entities" "Entity" =
      d.entities.map fun e => Markup.element (depth + 2) e.markup :=
    Markup.items_element depth rfl fun _ => rfl
  have hentities := mapM_ok (Entity.ofXml_markup (depth + 2)) d.entities
  have hconnection : (Markup.element depth d.markup).elements "ConnectionString" =
      [Markup.element (depth + 1) d.connection.markup] := Markup.elements_element ..
  have hdialog : (Markup.element depth d.markup).elements "AddQueryDialog" =
      [Markup.element (depth + 1) d.dialogMarkup] := Markup.elements_element ..
  have hroot : d.markup.tag = rootTag := rfl
  simp [ofXml, hroot, hitems, hentities, hconnection, hdialog, Connection.ofXml_markup, stored,
    bind, Except.bind, pure, Except.pure, (readSize_dialog _ _ _).1, (readSize_dialog _ _ _).2]

theorem stored_stored (d : Design) : d.stored.stored = d.stored := by
  simp [stored, Entity.stored, Query.stored, Function.comp_def]

/-- A design that is written is read back as it is stored: without the presentation flags of its
queries and without the override. -/
theorem read_write (d : Design) (text : String) (h : d.write = .ok text) :
    Design.read text = .ok d.stored ∧ d.stored.sameStored d = true := by
  have hwrite : d.markup.write = .ok text := by
    rw [write] at h
    cases hm : d.markup.write with
    | error u => simp [hm, Except.mapError] at h
    | ok t => simpa [hm, Except.mapError] using h
  constructor
  · rw [Design.read, Markup.parse_write d.named_markup hwrite]
    exact ofXml_markup 0 d
  · rw [sameStored, stored_stored, beq_self_eq_true]

/-- A design with line breaks, markup, quotes and a negative coordinate, and with flags of both
kinds. -/
def sample : Design where
  override := some "Server=.;"
  entities := [{
    name := "Item"
    x := -3
    properties := [⟨"A", "int?", "Int32"⟩]
    queries := [{
      name := "Load"
      command := "SELECT A\r\n\tFROM T WHERE A < @a & B = '\"'"
      kind := .text
      execution := .reader
      parameters := [{ name := "a", hostType := "int", dbType := .int32, isOutput := true }]
      showError := true
      isSelected := true }] }]

theorem read_write_sample : sample.write = .ok sample.markup.render ∧
    Design.read sample.markup.render = .ok sample.stored ∧
    sample.stored.sameStored sample = true := by
  have writable : sample.markup.unwritable? = none := by decide +kernel
  have written : sample.write = .ok sample.markup.render := by
    rw [write, Markup.write, writable]
    rfl
  exact ⟨written, read_write sample sample.markup.render written⟩

end Design
end EntityDesign
