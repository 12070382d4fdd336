import Mathlib.Data.List.Forall2
import EntityDesign.Proofs.Document.RoundTrip

/-! Comparing designs. The comparison of designs lists the fields that matter, and the writer puts
fields into a document. These are the same fields: the document depends on nothing else, and each of
them can be read back from it, through all nesting and escaping. -/
namespace EntityDesign
open Xml Text

/-- Entries that are related exactly if they have the same `f`, in lists of any length. -/
theorem forall₂_iff_map_eq {α β : Type} {R : α → α → Prop} {f : α → β}
    (h : ∀ a b, R a b ↔ f a = f b) (l m : List α) : List.Forall₂ R l m ↔ l.map f = m.map f := by
  have related : R = fun a b => f a = f b := by
    funext a b
    exact propext (h a b)
  rw [related, ← List.forall₂_eq_eq_eq, List.forall₂_map_left_iff, List.forall₂_map_right_iff]

namespace Query

/-- Whether two queries agree in every field that matters for a document. -/
structure Agrees (a b : Query) : Prop where
  name : a.name = b.name
  command : a.command = b.command
  kind : a.kind = b.kind
  execution : a.execution = b.execution
  parameters : a.parameters = b.parameters
  showError : a.showError = b.showError

theorem agrees_iff (a b : Query) : a.Agrees b ↔ a.stored = b.stored := by
  constructor
  · rintro ⟨name, command, kind, execution, parameters, showError⟩
    simp only [stored, name, command, kind, execution, parameters, showError]
  · intro h
    simp only [stored, Query.mk.injEq, and_true] at h
    obtain ⟨name, command, kind, execution, parameters, showError⟩ := h
    exact ⟨name, command, kind, execution, parameters, showError⟩

/-- The presentation flags are not written. -/
@[simp] theorem markup_stored (q : Query) : q.stored.markup = q.markup := rfl

end Query

namespace Entity

/-- Whether two entities agree in every field that matters for a document. -/
structure Agrees (a b : Entity) : Prop where
  name : a.name = b.name
  x : a.x = b.x
  y : a.y = b.y
  properties : a.properties = b.properties
  queries : List.Forall₂ Query.Agrees a.queries b.queries

theorem agrees_iff (a b : Entity) : a.Agrees b ↔ a.stored = b.stored := by
  have queries := forall₂_iff_map_eq Query.agrees_iff a.queries b.queries
  constructor
  · rintro ⟨name, x, y, properties, agree⟩
    simp only [stored, name, x, y, properties, queries.1 agree]
  · intro h
    simp only [stored, Entity.mk.injEq] at h
    obtain ⟨name, x, y, properties, same⟩ := h
    exact ⟨name, x, y, properties, queries.2 same⟩

@[simp] theorem markup_stored (e : Entity) : e.stored.markup = e.markup := by
  simp [markup, stored, Function.comp_def]

end Entity

namespace Design

/-- Whether two designs agree in every field that matters for a document. -/
structure Agrees (a b : Design) : Prop where
  connection : a.connection = b.connection
  dialogWidth : a.dialogWidth = b.dialogWidth
  dialogHeight : a.dialogHeight = b.dialogHeight
  entities : List.Forall₂ Entity.Agrees a.entities b.entities

theorem agrees_iff (a b : Design) : a.Agrees b ↔ a.stored = b.stored := by
  have entities := forall₂_iff_map_eq Entity.agrees_iff a.entities b.entities
  constructor
  · rintro ⟨connection, dialogWidth, dialogHeight, agree⟩
    simp only [stored, connection, dialogWidth, dialogHeight, entities.1 agree]
  · intro h
    simp only [stored, Design.mk.injEq, and_true] at h
    obtain ⟨same, connection, dialogWidth, dialogHeight⟩ := h
    exact ⟨connection, dialogWidth, dialogHeight, entities.2 same⟩

@[simp] theorem markup_stored (d : Design) : d.stored.markup = d.markup := by
  simp [markup, stored, dialogMarkup, Function.comp_def]

/-- The markup holds what is stored, no more and no less. -/
theorem markup_eq_iff (a b : Design) : a.markup = b.markup ↔ a.stored = b.stored := by
  constructor
  · intro h
    have read := congrArg (fun m => ofXml (Markup.element 0 m)) h
    simpa only [ofXml_markup, Except.ok.injEq] using read
  · intro h
    rw [← markup_stored a, h, markup_stored]

theorem write_eq_ok_iff (d : Design) (text : String) :
    d.write = .ok text ↔ d.markup.write = .ok text := by
  rw [write]
  cases d.markup.write <;> simp [Except.mapError]

/-- A text that was written is read as what is stored. -/
theorem read_of_write {d : Design} {text : String} (h : d.write = .ok text) :
    Design.read text = .ok d.stored := by
  rw [Design.read, Markup.parse_write d.named_markup ((write_eq_ok_iff d text).1 h)]
  exact ofXml_markup 0 d

theorem write_of_writable {d : Design} (h : d.markup.unwritable? = none) :
    d.write = .ok d.markup.render := by
  rw [write_eq_ok_iff, Markup.write, h]

/-- What is stored can be read off the text. -/
theorem stored_eq_of_write {a b : Design} {text : String} (ha : a.write = .ok text)
    (hb : b.write = .ok text) : a.stored = b.stored := by
  have parsed := Markup.parse_write a.named_markup ((write_eq_ok_iff a text).1 ha)
  have parsed' := Markup.parse_write b.named_markup ((write_eq_ok_iff b text).1 hb)
  have element : Markup.element 0 a.markup = Markup.element 0 b.markup :=
    Except.ok.inj (parsed.symm.trans parsed')
  have read := congrArg ofXml element
  simpa only [ofXml_markup, Except.ok.injEq] using read

/-- Two designs that can be written compare as equal exactly if their documents are the same text,
and the comparison is one of all fields that matter. -/
theorem sameStored_iff_same_text {a b : Design} {ta tb : String} (ha : a.write = .ok ta)
    (hb : b.write = .ok tb) : (a.sameStored b = true ↔ ta = tb) ∧ (a.Agrees b ↔ ta = tb) := by
  have text : a.stored = b.stored ↔ ta = tb := by
    constructor
    · intro same
      rw [write, (markup_eq_iff a b).2 same, ← write] at ha
      exact Except.ok.inj (ha.symm.trans hb)
    · rintro rfl
      exact stored_eq_of_write ha hb
  exact ⟨beq_iff_eq.trans text, (agrees_iff a b).trans text⟩

/-- The sample with other presentation flags and without the override. -/
def shownSample : Design :=
  { sample.stored with entities := sample.entities.map fun e =>
      { e with queries := e.queries.map fun q => { q with showOk := true, isSelected := false } } }

/-- The sample with a space in place of the line break of its command. -/
def joinedSample : Design :=
  { sample with entities := sample.entities.map fun e =>
      { e with queries := e.queries.map fun q =>
          { q with command := "SELECT A FROM T WHERE A < @a & B = '\"'" } } }

/-- The first has the text of the sample, the second has another one. -/
theorem sameStored_iff_same_text_samples :
    (shownSample ≠ sample ∧ sample.write = shownSample.write) ∧
      sample.write = .ok sample.markup.render ∧
      joinedSample.write = .ok joinedSample.markup.render ∧
      sample.markup.render ≠ joinedSample.markup.render := by
  have written (d : Design) (writable : d.markup.unwritable? = none) :
      d.write = .ok d.markup.render := by
    rw [write, Markup.write, writable]
    rfl
  have hsample := written sample (by decide +kernel)
  have hshown := written shownSample (by decide +kernel)
  have hjoined := written joinedSample (by decide +kernel)
  refine ⟨⟨by decide, ?_⟩, hsample, hjoined, ?_⟩
  · have same := (sameStored_iff_same_text hsample hshown).1.1 (by decide)
    rw [hsample, hshown, same]
  · intro same
    have compared := (sameStored_iff_same_text hsample hjoined).1.2 same
    exact absurd compared (by decide)

end Design
end EntityDesign
