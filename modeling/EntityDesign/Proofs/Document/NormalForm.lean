import EntityDesign.Proofs.Document.RoundTrip
import EntityDesign.Proofs.Xml.Legal.Tree

/-! Normal forms. Every document that can be read can be written again, since its values are legal,
and what is written is read as the same design: each document has the normal form that its design
is written in. -/
namespace EntityDesign
open Xml Text

namespace Text

theorem isChar_of_isDigit {c : Char} (h : c.isDigit = true) : isChar c = true := by
  obtain ⟨hlow, hhigh⟩ : 48 ≤ c.toNat ∧ c.toNat ≤ 57 := Char.isDigit_iff_toNat.1 h
  simp only [isChar, Bool.or_eq_true, Bool.and_eq_true, decide_eq_true_eq, bne_iff_ne]
  omega

theorem legal_toDigits (n : Nat) : Legal (Nat.toDigits 10 n) := fun _ hc =>
  isChar_of_isDigit (Nat.isDigit_of_mem_toDigits (by decide) (by decide) hc)

theorem legal_ofInt32 (n : Int32) : Legal (ofInt32 n).toList := by
  rw [ofInt32, Int.toString_eq_repr, Int.repr_eq_if]
  split
  · rw [Nat.toList_repr]
    exact legal_toDigits _
  · rw [String.toList_append, Nat.toList_repr]
    exact legal_cons.2 ⟨by decide, legal_toDigits _⟩

theorem legal_ofUInt32 (n : UInt32) : Legal (ofUInt32 n).toList := by
  rw [ofUInt32, Nat.toString_eq_ofList_toDigits, String.toList_ofList]
  exact legal_toDigits _

end Text

theorem DbType.legal_word (t : DbType) : Legal t.word.toList := by cases t <;> decide

theorem CommandKind.legal_word (k : CommandKind) : Legal k.word.toList := by cases k <;> decide

theorem Execution.legal_word (m : Execution) : Legal m.word.toList := by cases m <;> decide

theorem ConnectionSource.legal_word (s : ConnectionSource) : Legal s.word.toList := by
  cases s <;> decide

namespace Xml

namespace Markup
variable {tag : String} {attributes : List (String × String)}

/-- A section can be written exactly if its items can. -/
theorem unwritable?_section_eq_none_iff {α : Type} {f : α → Markup} {l : List α} :
    (branch tag [] (l.map f)).unwritable? = none ↔ ∀ a ∈ l, (f a).unwritable? = none := by
  simp [unwritable?_branch_eq_none_iff]

/-- A flag is stored by an attribute with its own name as value, which is no obstacle. -/
theorem legal_flagged_iff {key : String} (hkey : Legal key.toList) (flag : Bool) :
    (∀ a ∈ attributes ++ (if flag then [(key, key)] else []), Legal a.2.toList) ↔
      ∀ a ∈ attributes, Legal a.2.toList := by
  cases flag with
  | false => simp
  | true =>
    simp only [↓reduceIte, List.forall_mem_append, List.forall_mem_singleton, hkey, and_true]

end Markup

namespace Element
variable {e : Element} (legal : e.Legal)
include legal

theorem Legal.require (tag key : String) :
    Ensures (e.require tag key) fun value => Xml.Legal value.toList := by
  unfold Element.require
  split
  · rename_i value found
    exact .ok (legal.attribute? found)
  · exact .error

theorem Legal.items (sectionTag item : String) :
    ∀ child ∈ e.items sectionTag item, child.Legal := by
  intro child hchild
  obtain ⟨part, hpart, hchild⟩ := List.mem_flatMap.1 hchild
  exact (legal.elements part hpart).elements child hchild

theorem Legal.getD (key : String) {default : String} (hdefault : Xml.Legal default.toList) :
    Xml.Legal ((e.attribute? key).getD default).toList := by
  cases found : e.attribute? key with
  | none => exact hdefault
  | some value => exact legal.attribute? found

end Element
end Xml

section
variable {e : Element} (legal : e.Legal)
include legal

theorem Property.writable_ofXml :
    Ensures (Property.ofXml e) fun p => p.markup.unwritable? = none := by
  unfold ofXml
  refine (legal.require "Property" "name").bind fun name hname => ?_
  refine (legal.require "Property" "type").bind fun hostType htype => ?_
  refine (legal.require "Property" "dbType").bind fun dbType hdbType => ?_
  refine .pure (Markup.unwritable?_leaf_eq_none_iff.2 ?_)
  simp [hname, htype, hdbType]

theorem Parameter.writable_ofXml :
    Ensures (Parameter.ofXml e) fun p => p.markup.unwritable? = none := by
  unfold ofXml
  refine (legal.require "Parameter" "name").bind fun name hname => ?_
  refine (legal.require "Parameter" "sysType").bind fun hostType htype => ?_
  refine Ensures.trivial.bind fun dbType _ => ?_
  refine .pure (Markup.unwritable?_leaf_eq_none_iff.2
    ((Markup.legal_flagged_iff (by decide) _).2 ?_))
  simp [hname, htype, dbType.legal_word]

theorem Query.writable_ofXml :
    Ensures (Query.ofXml e) fun q => q.markup.unwritable? = none ∧ q.stored = q := by
  unfold ofXml
  refine (legal.require "Query" "command").bind fun command hcommand => ?_
  refine Ensures.trivial.bind fun kind _ => ?_
  refine Ensures.trivial.bind fun execution _ => ?_
  refine (legal.require "Query" "name").bind fun name hname => ?_
  refine (Ensures.mapM fun child hchild => Parameter.writable_ofXml
    (legal.items "Parameters" "Parameter" child hchild)).bind fun parameters hparameters => ?_
  refine .pure ⟨Markup.unwritable?_branch_eq_none_iff.2
    ⟨(Markup.legal_flagged_iff (by decide) _).2 ?_, ?_⟩, rfl⟩
  · simp [hname, hcommand, execution.legal_word, kind.legal_word]
  · simpa using Markup.unwritable?_section_eq_none_iff.2 hparameters

theorem Entity.writable_ofXml :
    Ensures (Entity.ofXml e) fun e => e.markup.unwritable? = none ∧ e.stored = e := by
  unfold ofXml
  refine (legal.require "Entity" "name").bind fun name hname => ?_
  refine Ensures.trivial.bind fun x _ => ?_
  refine Ensures.trivial.bind fun y _ => ?_
  refine (Ensures.mapM fun child hchild => Property.writable_ofXml
    (legal.items "Properties" "Property" child hchild)).bind fun properties hproperties => ?_
  refine (Ensures.mapM fun child hchild => Query.writable_ofXml
    (legal.items "Queries" "Query" child hchild)).bind fun queries hqueries => ?_
  refine .pure ⟨Markup.unwritable?_branch_eq_none_iff.2 ⟨?_, ?_⟩, ?_⟩
  · simp [hname, legal_ofInt32]
  · simp [Markup.unwritable?_section_eq_none_iff.2 hproperties,
      Markup.unwritable?_section_eq_none_iff.2 fun q hq => (hqueries q hq).1]
  · have hstored : queries.map Query.stored = queries :=
      (List.map_congr_left fun q hq => (hqueries q hq).2).trans (List.map_id' queries)
    simp [stored, hstored]

theorem Connection.writable_ofXml : (Connection.ofXml e).markup.unwritable? = none := by
  refine Markup.unwritable?_leaf_eq_none_iff.2 ?_
  have hempty : Legal "".toList := by decide
  simp only [List.forall_mem_cons, List.not_mem_nil, false_imp_iff, implies_true, and_true]
  exact ⟨legal.getD "name" hempty, legal.getD "connectionString" hempty,
    ConnectionSource.legal_word _⟩

theorem Design.writable_ofXml :
    Ensures (Design.ofXml e) fun d => d.markup.unwritable? = none ∧ d.stored = d := by
  unfold ofXml
  split
  · exact .throw_bind
  refine Ensures.trivial.bind fun width _ => ?_
  refine Ensures.trivial.bind fun height _ => ?_
  refine (Ensures.mapM fun child hchild => Entity.writable_ofXml
    (legal.items "Entities" "Entity" child hchild)).bind fun entities hentities => ?_
  have hconnection : (((e.elements "ConnectionString").head?.map Connection.ofXml).getD
      {}).markup.unwritable? = none := by
    cases found : (e.elements "ConnectionString").head? with
    | none => decide
    | some c => exact Connection.writable_ofXml (legal.elements c (List.mem_of_mem_head? found))
  refine .pure ⟨Markup.unwritable?_branch_eq_none_iff.2 ⟨by decide, ?_⟩, ?_⟩
  · simp only [List.forall_mem_cons, List.not_mem_nil, false_imp_iff, implies_true, and_true]
    refine ⟨hconnection, Markup.unwritable?_leaf_eq_none_iff.2 ?_,
      Markup.unwritable?_section_eq_none_iff.2 fun e he => (hentities e he).1⟩
    simp [legal_ofUInt32]
  · have hstored : entities.map Entity.stored = entities :=
      (List.map_congr_left fun e he => (hentities e he).2).trans (List.map_id' entities)
    simp [stored, hstored]

end

namespace Design

/-- A design that was read can be written, and is stored as it is. -/
theorem writable_of_read {text : String} {d : Design} (h : Design.read text = .ok d) :
    d.markup.unwritable? = none ∧ d.stored = d := by
  rw [Design.read] at h
  split at h
  · rename_i root hparse
    exact writable_ofXml (legal_parse text root hparse) d h
  · cases h

/-- Whatever text a design was read from, it can be written. The written text is read as the same
design, and written again it is the same text. -/
theorem write_of_read (text : String) (d : Design) (h : Design.read text = .ok d) :
    ∃ xml, d.write = .ok xml ∧ Design.read xml = .ok d ∧
      (Design.read xml).bind Design.write = .ok xml := by
  obtain ⟨writable, stored⟩ := writable_of_read h
  have hwrite : d.markup.write = .ok d.markup.render := by rw [Markup.write, writable]
  have written : d.write = .ok d.markup.render := by
    rw [write, hwrite]
    rfl
  have hread : Design.read d.markup.render = .ok d := by
    rw [Design.read, Markup.parse_write d.named_markup hwrite]
    exact (ofXml_markup 0 d).trans (congrArg _ stored)
  exact ⟨d.markup.render, written, hread, by rw [hread]; exact written⟩

/-- A document written by hand: a comment, repeated sections, an unknown element, a plus sign,
references and a line break in a value. -/
def handwritten : String := "<?xml version='1.0'?>
<!-- by hand -->
<DsLight>
  <Entities><Entity name='Item' x='+5' y=\"-07\">
    <Queries><Query type='Text' method='Scalar' name='Count' command='SELECT 1
      WHERE A &lt; &#x40;a'><Note/></Query></Queries>
    <Properties><Property dbType='Int32' type='int' name='A&amp;B'/></Properties>
    <Queries><Query type='Text' method='NonQuery' name='Purge' command='' error=''/></Queries>
  </Entity></Entities>
  <Entities/>
</DsLight>"

def transcribed : Design where
  entities := [{
    name := "Item"
    x := 5
    y := -7
    properties := [⟨"A&B", "int", "Int32"⟩]
    queries := [
      { name := "Count", command := "SELECT 1       WHERE A < @a", kind := .text
        execution := .scalar },
      { name := "Purge", command := "", kind := .text, execution := .nonQuery
        showError := true }] }]

set_option maxRecDepth 2000 in
theorem read_handwritten : Design.read handwritten = .ok transcribed := by
  -- the literal becomes a list by a law, since its bytes are slow to decode by evaluation
  have text : handwritten.toList = _ := String.toList_ofList
  rw [Design.read, parse, text]
  decide +kernel

theorem write_of_read_handwritten : Design.read handwritten = .ok transcribed ∧
    ∃ xml, transcribed.write = .ok xml ∧ Design.read xml = .ok transcribed ∧
      (Design.read xml).bind Design.write = .ok xml :=
  ⟨read_handwritten, write_of_read handwritten transcribed read_handwritten⟩

end Design
end EntityDesign
