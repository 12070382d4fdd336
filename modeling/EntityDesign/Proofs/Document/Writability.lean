import EntityDesign.Proofs.Document.NormalForm
import EntityDesign.Proofs.Xml.Offence

/-! Which designs can be written: those whose texts are made of XML characters. All else that is
stored is legal, so the first offence in a document is one of its texts. -/
namespace EntityDesign
open Xml Text

namespace Property

def texts (p : Property) : List String := [p.hostType, p.name, p.dbType]

theorem unwritable?_markup_eq_none_iff (p : Property) :
    p.markup.unwritable? = none ↔ ∀ t ∈ p.texts, Legal t.toList := by
  simp [markup, Markup.unwritable?_leaf_eq_none_iff, texts]

end Property

namespace Parameter

def texts (p : Parameter) : List String := [p.name, p.hostType]

theorem unwritable?_markup_eq_none_iff (p : Parameter) :
    p.markup.unwritable? = none ↔ ∀ t ∈ p.texts, Legal t.toList := by
  rw [markup, Markup.unwritable?_leaf_eq_none_iff, Markup.legal_flagged_iff (by decide)]
  simp [texts, p.dbType.legal_word]

end Parameter

namespace Query

def texts (q : Query) : List String := [q.name, q.command] ++ q.parameters.flatMap (·.texts)

theorem unwritable?_markup_eq_none_iff (q : Query) :
    q.markup.unwritable? = none ↔ ∀ t ∈ q.texts, Legal t.toList := by
  rw [markup, Markup.unwritable?_branch_eq_none_iff, attributes,
    Markup.legal_flagged_iff (by decide)]
  simp only [List.forall_mem_singleton, Markup.unwritable?_section_eq_none_iff,
    Parameter.unwritable?_markup_eq_none_iff, texts, List.forall_mem_append,
    List.forall_mem_flatMap]
  simp [q.execution.legal_word, q.kind.legal_word]

end Query

namespace Entity

def texts (e : Entity) : List String :=
  [e.name] ++ e.properties.flatMap (·.texts) ++ e.queries.flatMap (·.texts)

theorem unwritable?_markup_eq_none_iff (e : Entity) :
    e.markup.unwritable? = none ↔ ∀ t ∈ e.texts, Legal t.toList := by
  rw [markup, Markup.unwritable?_branch_eq_none_iff]
  simp only [List.forall_mem_cons, Markup.unwritable?_section_eq_none_iff,
    Property.unwritable?_markup_eq_none_iff, Query.unwritable?_markup_eq_none_iff, texts,
    List.forall_mem_append, List.forall_mem_flatMap]
  simp [legal_ofInt32, and_assoc]

end Entity

namespace Design

/-- The texts of a design that are stored as they are. -/
def texts (d : Design) : List String :=
  [d.connection.name, d.connection.text] ++ d.entities.flatMap (·.texts)

/-- What else is stored, such as numbers and words, is always legal. -/
theorem unwritable?_markup_eq_none_iff (d : Design) :
    d.markup.unwritable? = none ↔ ∀ t ∈ d.texts, Legal t.toList := by
  have hversion : Legal ['1', '.', '0'] := by decide
  rw [markup, Markup.unwritable?_branch_eq_none_iff]
  simp only [List.forall_mem_cons, Markup.unwritable?_section_eq_none_iff, Connection.markup,
    dialogMarkup, Markup.unwritable?_leaf_eq_none_iff, Entity.unwritable?_markup_eq_none_iff, texts,
    List.forall_mem_append, List.forall_mem_flatMap]
  simp [legal_ofUInt32, ConnectionSource.legal_word, and_assoc, hversion]

theorem write_eq_error_iff (d : Design) (fault : DocumentFault) : d.write = .error fault ↔
    ∃ u, d.markup.unwritable? = some u ∧ fault = .unwritable u := by
  rw [write, Markup.write]
  cases d.markup.unwritable? with
  | none => simp [Except.mapError]
  | some u => simp [Except.mapError, eq_comm]

/-- A design cannot be written exactly if one of its texts has a foreign character. The fault then
names the first one in the order in which the attributes stand in the document. -/
theorem write_fails_exactly (d : Design) :
    ((∃ fault, d.write = .error fault) ↔ ∃ t ∈ d.texts, ∃ c ∈ t.toList, ¬IsXmlChar c) ∧
      InOrder (d.markup.allAttributes.map Markup.attributeText) d.markup.render.toList ∧
      ∀ fault, d.write = .error fault ↔
        ∃ key c, FirstOffence d.markup.allAttributes key c ∧ fault = .unwritable ⟨key, c⟩ ∧
          ∃ digits, CodePoint c digits ∧ fault.message = "XML write error: " ++ ("attribute '" ++
            key ++ "' contains U+" ++ String.ofList digits ++ ", which XML cannot represent") := by
  refine ⟨?_, d.markup.inOrder_render, fun fault => ?_⟩
  · have fails : (∃ fault, d.write = .error fault) ↔ d.markup.unwritable? ≠ none := by
      simp only [write_eq_error_iff, Option.ne_none_iff_exists']
      exact ⟨fun ⟨_, u, found, _⟩ => ⟨u, found⟩, fun ⟨u, found⟩ => ⟨.unwritable u, u, found, rfl⟩⟩
    rw [fails, ne_eq, unwritable?_markup_eq_none_iff]
    simp only [legal_iff, not_forall, exists_prop]
  · rw [write_eq_error_iff]
    constructor
    · rintro ⟨⟨key, c⟩, found, rfl⟩
      have offence := (Markup.unwritable?_eq_some_iff _ key c).1 found
      exact ⟨key, c, offence, rfl, _, codePoint_hexadecimal offence.foreign, rfl⟩
    · rintro ⟨key, c, offence, rfl, -⟩
      exact ⟨⟨key, c⟩, (Markup.unwritable?_eq_some_iff _ key c).2 offence, rfl⟩

end Design
end EntityDesign
