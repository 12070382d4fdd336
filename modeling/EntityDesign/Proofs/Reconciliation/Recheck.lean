import EntityDesign.Proofs.Reconciliation.Accounting
import EntityDesign.Proofs.Reconciliation.Sweep

/-! The short check in a recheck. It stops at the first mismatch, which is the first of all that the
full check finds, and a reader passes a recheck by it exactly when there is none. -/
namespace EntityDesign

namespace Reconciliation
variable {σ : Type} (analyze : Analyzer σ)

/-- Each other reader is asked for once, and marked with the verdict on the answer. -/
theorem otherReaders_recheckReaders_getElem? (index : Nat) (p : Progress σ) {k : Nat} {q : Query}
    (reader : (p.entity.otherReaders index)[k]? = some q) :
    ∃ a, (recheckAnswers analyze index p)[k]? = some a ∧
      ((recheckReaders analyze index p).entity.otherReaders index)[k]? =
        some (q.mark (p.entity.verdict a)) := by
  obtain ⟨hk, -⟩ := List.getElem?_eq_some_iff.1 reader
  have hlength : (recheckAnswers analyze index p).length = (p.entity.otherReaders index).length :=
    length_consult ..
  have answered := List.getElem?_eq_getElem (hlength ▸ hk)
  refine ⟨_, answered, ?_⟩
  rw [otherReaders_recheckReaders, List.getElem?_zipWith, reader, answered]

/-- The short check agrees with the full one: it gives the first mismatch. In a recheck, which
relies on it, another reader passes exactly when its analysis succeeds and the full check finds
nothing. -/
theorem recheck_by_full_check (index : Nat) (p : Progress σ) :
    (∀ (e : Entity) (sig : Signature), e.mismatches sig true = (e.mismatches sig false).take 1) ∧
      ∀ (k : Nat) (q : Query), (p.entity.otherReaders index)[k]? = some q →
        ∃ a q', (recheckAnswers analyze index p)[k]? = some a ∧
          ((recheckReaders analyze index p).entity.otherReaders index)[k]? = some q' ∧
          q'.definition = q.definition ∧
          (q'.showError = false ↔ ∃ sig, a = .ok sig ∧ p.entity.mismatches sig false = []) ∧
          (q'.showOk = true ↔ ∃ sig, a = .ok sig ∧ p.entity.mismatches sig false = []) := by
  refine ⟨Entity.mismatches_true, fun k q reader => ?_⟩
  obtain ⟨a, answered, marked⟩ := otherReaders_recheckReaders_getElem? analyze index p reader
  obtain ⟨error, ok⟩ := q.shows_mark (p.entity.verdict a)
  refine ⟨a, _, answered, marked, q.definition_mark _, ?_, ?_⟩
  · rw [error, ← Entity.verdict_eq_ok_iff, decide_eq_false_iff_not, not_not]
  · rw [ok, ← Entity.verdict_eq_ok_iff, decide_eq_true_iff]

/-- Beside the first reader of the sample one reader fits the columns, one cannot be analyzed and
one does not fit. -/
theorem recheck_by_full_check_mixed :
    let p : Progress Unit := ⟨mixed, { entity := "Item" }, ()⟩
    let analyze := unmoved fourCommands
    let same : Query :=
      { name := "Same", command := "SELECT A FROM U", kind := .text, execution := .reader }
    mixed.mismatches { columns := [⟨"A", "int", "Int16", false⟩] } true =
        [.additional "A" "int"] ∧
      (recheckReaders analyze 1 p).entity.otherReaders 1 =
        [{ name := "Old", command := "SELECT B FROM T", kind := .text, execution := .reader
           showOk := true },
         { name := "Lost", command := "SELECT C FROM T", kind := .text, execution := .reader
           showError := true },
         { same with showError := true }] ∧
      ∃ a q', (recheckAnswers analyze 1 p)[2]? = some a ∧
        ((recheckReaders analyze 1 p).entity.otherReaders 1)[2]? = some q' ∧
        q'.definition = same.definition ∧
        (q'.showError = false ↔ ∃ sig, a = .ok sig ∧ mixed.mismatches sig false = []) ∧
        (q'.showOk = true ↔ ∃ sig, a = .ok sig ∧ mixed.mismatches sig false = []) := by
  intro p analyze same
  obtain ⟨-, recheck⟩ := recheck_by_full_check analyze 1 p
  have reader : (mixed.otherReaders 1)[2]? = some same := rfl
  exact ⟨by decide +kernel, by decide +kernel, recheck 2 same reader⟩

end Reconciliation
end EntityDesign
