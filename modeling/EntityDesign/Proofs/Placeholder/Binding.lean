import EntityDesign.Proofs.Analysis
import EntityDesign.Proofs.Placeholder.Scan

/-! The names of placeholders and of what is bound for them. The word behind an `@` may be empty,
and then a placeholder is listed that has no name; an analysis records and binds it as any other. -/
namespace EntityDesign
open Text

namespace Placeholder

/-- An `@` with a word behind it. -/
def IsToken (t : String) : Prop :=
  ∃ word, word ≠ [] ∧ (∀ c ∈ word, isWord c = true) ∧ t = String.ofList ('@' :: word)

/-- A placeholder with a name. -/
structure Named (p : Placeholder) : Prop where
  token : IsToken p.token
  name : p.parameter.name ≠ ""

/-- Somewhere in the text there is an `@` behind an equals sign that has no word behind it. -/
def Bare (s : List Char) : Prop := ∃ i rest, Forms (s.drop i) [] rest

section Name
variable {word rest : List Char} {p : Placeholder}

theorem nameOf_eq_nil_iff : nameOf word = [] ↔ word = [] := by
  constructor
  · unfold nameOf
    split
    · exact fun h => absurd h (List.cons_ne_nil _ _)
    · exact id
  · rintro rfl
    decide +kernel

theorem Records.name_ne_iff (h : Records word rest p) : p.parameter.name ≠ "" ↔ word ≠ [] := by
  rw [h.name, Ne, String.ofList_eq_empty_iff, nameOf_eq_nil_iff]

theorem Records.isToken_iff (h : Records word rest p) (chars : ∀ c ∈ word, isWord c = true) :
    IsToken p.token ↔ word ≠ [] := by
  constructor
  · rintro ⟨word', nonempty, -, token⟩
    have same := String.ofList_injective (h.token.symm.trans token)
    rwa [(List.cons.inj same).2]
  · exact fun nonempty => ⟨word, nonempty, chars, h.token⟩

theorem Records.named_iff (h : Records word rest p) (chars : ∀ c ∈ word, isWord c = true) :
    p.Named ↔ word ≠ [] :=
  ⟨fun named => h.name_ne_iff.1 named.name,
    fun nonempty => ⟨(h.isToken_iff chars).2 nonempty, h.name_ne_iff.2 nonempty⟩⟩

end Name

section Listed
variable {s : List Char} {ps : List Placeholder}

/-- What holds of the placeholders with a word holds of all of them unless there is a bare `@`. -/
theorem Lists.forall_iff_not_bare (h : Lists s ps) {P : Placeholder → Prop}
    (worded : ∀ word rest p, (∀ c ∈ word, isWord c = true) → Records word rest p →
      (P p ↔ word ≠ [])) : (∀ p ∈ ps, P p) ↔ ¬Bare s := by
  constructor
  · intro all bare
    obtain ⟨p, hp, token⟩ := h.exists_token_iff.2 bare
    obtain ⟨i, word, rest, first, records⟩ := h.exists_records hp
    have same := String.ofList_injective (token.symm.trans records.token)
    exact (worded word rest p first.1.chars records).1 (all p hp) (List.cons.inj same).2.symm
  · intro clear p hp
    obtain ⟨i, word, rest, first, records⟩ := h.exists_records hp
    refine (worded word rest p first.1.chars records).2 ?_
    rintro rfl
    exact clear ⟨i, rest, first.1⟩

end Listed
end Placeholder

namespace Database
open Placeholder
variable {σ : Type}

/-- All placeholders have names, and so has all that an analysis of a text returns and binds, unless
there is a bare `@` in the text. A placeholder without a name is an `@` alone. -/
theorem named_unless_bare (db : Database σ) (sql : String) (s : σ) :
    ((∀ p ∈ scan sql, p.Named) ↔ ¬Bare sql.toList) ∧
      (∀ p ∈ scan sql, p.Named ∨ p.token = "@" ∧ p.parameter.name = "") ∧
      (∃ parameters bound, db.bind sql .text s = (.ok (parameters, bound), s) ∧
        ((∀ p ∈ parameters, p.name ≠ "") ↔ ¬Bare sql.toList) ∧
        ((∀ b ∈ bound, IsToken b.name) ↔ ¬Bare sql.toList)) ∧
      ∀ sig, (db.analyze sql .text s).1 = .ok sig →
        ((∀ p ∈ sig.parameters, p.name ≠ "") ↔ ¬Bare sql.toList) := by
  have lists := lists_scan sql
  have returned : (∀ p ∈ (scan sql).map (·.parameter), p.name ≠ "") ↔ ¬Bare sql.toList := by
    rw [List.forall_mem_map]
    exact lists.forall_iff_not_bare fun _ _ _ _ records => records.name_ne_iff
  have bound : (∀ b ∈ (scan sql).map (·.binding), IsToken b.name) ↔ ¬Bare sql.toList := by
    rw [List.forall_mem_map]
    exact lists.forall_iff_not_bare fun _ _ _ chars records => records.isToken_iff chars
  refine ⟨lists.forall_iff_not_bare fun _ _ _ chars records => records.named_iff chars, ?_,
    ⟨_, _, rfl, returned, bound⟩, ?_⟩
  · intro p hp
    obtain ⟨i, word, rest, first, records⟩ := lists.exists_records hp
    by_cases nonempty : word = []
    · refine .inr ⟨by rw [records.token, nonempty], ?_⟩
      by_contra named
      exact records.name_ne_iff.1 named nonempty
    · exact .inl ((records.named_iff first.1.chars).2 nonempty)
  · rintro ⟨parameters, columns⟩ answer
    obtain ⟨-, -, _, _, hbind, -⟩ := (db.analyze_eq_ok_iff ..).1 answer
    cases hbind
    exact returned

/-- A database that finds no columns and keeps what has been bound. -/
def recording : Database (List Binding) where
  connect s := (.ok (), s)
  routines s := (.ok [], s)
  parameters _ s := (.ok [], s)
  describe _ _ bound _ := (.ok [], bound)

def selectById : String := "SELECT * FROM T WHERE a = @id /* dsl:long */"

theorem named_selectById :
    (recording.analyze selectById .text []).1 =
        .ok { parameters := [⟨"id", "long", .int64, false⟩] } ∧
      ¬Bare selectById.toList ∧ ∀ p ∈ scan selectById, p.Named := by
  have found : (recording.analyze selectById .text []).1 =
      .ok { parameters := [⟨"id", "long", .int64, false⟩] } := by decide +kernel
  obtain ⟨named, -, -, returned⟩ := named_unless_bare recording selectById []
  have clear : ¬Bare selectById.toList := (returned _ found).1 (by decide)
  exact ⟨found, clear, named.2 clear⟩

def selectByRowCount : String := "SELECT * FROM T WHERE a = @@ROWCOUNT AND b = @id"

/-- A system variable leaves a placeholder without a name, which is returned and bound as well. -/
theorem not_named_selectByRowCount :
    ¬(∀ p ∈ scan selectByRowCount, p.Named) ∧
      recording.analyze selectByRowCount .text [] =
        (.ok { parameters := [⟨"", "object", .string, false⟩, ⟨"id", "object", .string, false⟩] },
          [⟨"@", .string⟩, ⟨"@id", .string⟩]) := by
  constructor
  · intro named
    have nameless : ∃ p ∈ scan selectByRowCount, p.parameter.name = "" := by decide +kernel
    obtain ⟨p, hp, hname⟩ := nameless
    exact (named p hp).name hname
  · decide +kernel

end Database
end EntityDesign
