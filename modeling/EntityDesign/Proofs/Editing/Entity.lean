import Mathlib.Data.List.InsertIdx
import EntityDesign.Proofs.Reconciliation.Ownership

/-! The edits of an entity, by hand and by reconciliation: how they treat the names of its queries,
and when they are refused. -/
namespace EntityDesign
open Identifier

namespace Entity

theorem queryNames_appended (e : Entity) (q : Query) :
    (e.appended q).queryNames = e.queryNames ++ [q.name] := by
  simp [queryNames, appended]

/-- With the columns no name is dropped. -/
theorem queryNames_removed (e : Entity) (index : Nat) :
    (dropOrphanedColumns { e with queries := e.queries.eraseIdx index }).queryNames =
      e.queryNames.eraseIdx index := by
  rw [queryNames, queries_dropOrphanedColumns]
  exact (List.eraseIdx_map ..).symm

theorem toOption_addQuery (e : Entity) (q : Query) : (e.addQuery q).toOption =
    if q.name ∈ e.queryNames then none else some (e.appended q) := by
  simp only [addQuery_eq_ite, isSome_queryIndex?_iff]
  split <;> rfl

theorem map_removeQuery (e : Entity) (index : Nat) : (e.removeQuery index).map (·.2) =
    e.queries[index]?.map fun _ =>
      dropOrphanedColumns { e with queries := e.queries.eraseIdx index } := by
  rw [removeQuery_eq_map, Option.map_map]
  rfl

variable {e e' : Entity}

theorem naming_addQuery {draft : Draft} (h : e' ∈ (e.addQuery draft.query).toOption) :
    Naming queryNames (some draft.name) e e' := by
  rw [toOption_addQuery] at h
  obtain ⟨free, heq⟩ := Option.ite_none_left_eq_some.1 h
  cases heq
  exact .appended rfl free (e.queryNames_appended draft.query)

theorem naming_removeQuery {index : Nat} (h : e' ∈ (e.removeQuery index).map (·.2)) :
    Naming queryNames none e e' := by
  rw [map_removeQuery] at h
  obtain ⟨-, -, rfl⟩ := Option.map_eq_some_iff.1 h
  exact .dropped index rfl (e.queryNames_removed index)

theorem naming_renameQuery {current new : String} (h : e' ∈ e.renameQuery current new) :
    Naming queryNames (some new) e e' := by
  rw [renameQuery_eq_ite] at h
  obtain ⟨free, i, found, rfl⟩ := (mem_rename_iff e.isSome_queryIndex?_iff).1 h
  obtain ⟨q, hq, -⟩ := exists_of_queryIndex? found
  obtain ⟨hi, -⟩ := List.getElem?_eq_some_iff.1 hq
  refine .replaced i rfl free (by simpa [queryNames] using hi) ?_
  simp [modifyQuery, modify_eq_set hq, queryNames, List.map_set]

end Entity

namespace Reconciliation
variable {σ : Type} {analyze : Analyzer σ} {e : Entity} {s : σ}

/-- The text that an operation is given for a name. -/
def Operation.givenName : Operation → Option String
  | add draft _ => some draft.name
  | edit _ draft => some draft.name
  | refresh _ | refreshAll | delete _ => none

/-- Whether an operation ends with an error. -/
def Operation.fails (analyze : Analyzer σ) (op : Operation) (e : Entity) (s : σ) : Bool :=
  match op with
  | add draft decide => !(Reconciliation.add analyze draft decide e s).result.isOk
  | edit name draft => !(Reconciliation.edit analyze name draft e s).result.isOk
  | refresh name => !(Reconciliation.refresh analyze name e s).result.isOk
  | refreshAll => false
  | delete name => !(Reconciliation.delete name e s).result.isOk

/-- When an operation is refused: an addition under a name in use, any other one of a query that is
not there. -/
def Operation.Refused (e : Entity) : Operation → Prop
  | add draft _ => sanitize draft.name ∈ e.queryNames
  | edit name _ | refresh name | delete name => name ∉ e.queryNames
  | refreshAll => False

theorem queryNames_refreshQueryAt {i : Nat} {q : Query} {p : Progress σ} (cascade : Bool)
    (h : p.entity.queries[i]? = some q) :
    (refreshQueryAt analyze i cascade p).entity.queryNames = p.entity.queryNames :=
  map_refreshQueryAt analyze cascade h (·.name) (by simp) (by simp)

theorem queryNames_renewOthers : (renewOthers analyze e s).entity.queryNames = e.queryNames :=
  map_renewOthers analyze (·.name) (by simp) e s

theorem naming_added {draft : Draft} {decide : Question → Bool}
    {o : Outcome σ (ChangeReport × Option Question)} (way : Added analyze draft decide e s o) :
    Naming Entity.queryNames (some draft.name) e o.entity := by
  have hfree (free : e.queryIndex? draft.query.name = none) :
      sanitize draft.name ∉ e.queryNames :=
    (e.queryIndex?_eq_none_iff_notMem _).1 free
  cases way with
  | taken | declined => exact .unchanged
  | failed free => exact .appended rfl (hfree free) (Entity.queryNames_appended _ _)
  | kept free => exact .appended rfl (hfree free) (Entity.queryNames_appended _ _)
  | adopted free => exact .appended rfl (hfree free) (Entity.queryNames_appended _ _)
  | replaced free _ _ _ _ _ refreshed =>
    refine .appended rfl (hfree free) ?_
    rw [refreshed, queryNames_refreshQueryAt true (Entity.getElem?_appended _ _)]
    exact Entity.queryNames_appended _ _

theorem naming_perform (op : Operation) :
    Naming Entity.queryNames op.givenName e (op.perform analyze e s).entity := by
  have way := performed analyze op e s
  generalize op.perform analyze e s = after at way ⊢
  cases way with
  | added way => exact naming_added way
  | missing => exact .unchanged
  | edited _ hq =>
    obtain ⟨hi, -⟩ := List.getElem?_eq_some_iff.1 hq
    exact Entity.naming_redefined hq _
      (queryNames_refreshQueryAt false (List.getElem?_set_self hi))
  | refreshed _ hq =>
    exact .kept (queryNames_refreshQueryAt false hq) (by simp [Operation.givenName])
  | swept _ hq =>
    exact .kept ((queryNames_refreshQueryAt true hq).trans queryNames_renewOthers)
      (by simp [Operation.givenName])
  | renewed => exact .kept queryNames_renewOthers (by simp [Operation.givenName])
  | deleted => exact .dropped _ rfl (e.queryNames_removed _)

theorem isOk_result_withQuery_iff {α : Type} {name : String} {f : Nat → Outcome σ α}
    (ok : ∀ i q, e.queries[i]? = some q → (f i).result.isOk = true) :
    (withQuery e name s f).result.isOk = true ↔ name ∈ e.queryNames := by
  cases found : e.queryIndex? name with
  | none =>
    rw [withQuery_none found]
    exact iff_of_false (by simp [Except.isOk, Except.toBool])
      ((e.queryIndex?_eq_none_iff_notMem name).1 found)
  | some i =>
    obtain ⟨q, hq, -⟩ := Entity.exists_of_queryIndex? found
    rw [withQuery_some found]
    exact iff_of_true (ok i q hq) ((e.isSome_queryIndex?_iff name).1 (by simp [found]))

/-- An operation fails exactly when it is refused. -/
theorem fails_iff (op : Operation) : op.fails analyze e s = true ↔ op.Refused e := by
  cases op with
  | add draft decide =>
    have way := added analyze draft decide e s
    have hname : draft.query.name = sanitize draft.name := rfl
    simp only [Operation.fails, Operation.Refused, ← hname, ← Entity.isSome_queryIndex?_iff]
    generalize add analyze draft decide e s = o at way ⊢
    cases way with
    | taken used => exact iff_of_true rfl used
    | failed free | kept free | adopted free | declined free | replaced free =>
      exact iff_of_false (by simp [Except.isOk, Except.toBool]) (by simp [free])
  | edit name draft =>
    rw [Operation.fails, Operation.Refused, Bool.not_eq_true', ← Bool.not_eq_true, edit,
      isOk_result_withQuery_iff fun _ _ _ => rfl]
  | refresh name =>
    rw [Operation.fails, Operation.Refused, Bool.not_eq_true', ← Bool.not_eq_true, refresh,
      isOk_result_withQuery_iff fun _ _ _ => rfl]
  | refreshAll => exact iff_of_false Bool.false_ne_true not_false
  | delete name =>
    rw [Operation.fails, Operation.Refused, Bool.not_eq_true', ← Bool.not_eq_true, delete,
      isOk_result_withQuery_iff fun i q hq => by simp [Entity.removeQuery_eq_map, hq]; rfl]

/-- An operation that is refused changes nothing and asks nothing. -/
theorem perform_of_refused {op : Operation} (refused : op.Refused e) :
    (op.perform analyze e s).entity = e ∧ (op.perform analyze e s).source = s := by
  have hused {name : String} {i : Nat} (found : e.queryIndex? name = some i) :
      name ∈ e.queryNames := (e.isSome_queryIndex?_iff name).1 (by simp [found])
  have way := performed analyze op e s
  generalize op.perform analyze e s = after at way ⊢
  cases way with
  | missing => exact ⟨rfl, rfl⟩
  | added way =>
    cases way with
    | taken => exact ⟨rfl, rfl⟩
    | failed free | kept free | adopted free | declined free | replaced free =>
      exact absurd refused ((e.queryIndex?_eq_none_iff_notMem _).1 free)
  | edited found | refreshed found | deleted found => exact absurd (hused found) refused
  | swept | renewed => exact refused.elim

end Reconciliation
end EntityDesign
