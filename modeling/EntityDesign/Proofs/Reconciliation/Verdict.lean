import EntityDesign.Proofs.Compatibility
import EntityDesign.Proofs.Reconciliation.Visit

/-! Verdicts. Every analysis ends in one of three verdicts on its query, which set the flags of the
query and its place in the report. The verdicts of a pass over differently named queries are all
read off the finished report. -/
namespace EntityDesign

/-- What an analysis means for a query. -/
inductive Verdict where
  | ok
  | unfit
  | failed (message : String)
  deriving DecidableEq, Repr

/-- The failures a report lists for a query of that verdict. -/
def Verdict.failures (query : String) : Verdict → List Failure
  | .failed message => [⟨query, message⟩]
  | _ => []

/-- The verdict of an analysis that is compared with nothing. -/
def Verdict.ofAnswer : Answer → Verdict
  | .ok _ => .ok
  | .error fault => .failed fault.message

theorem Verdict.ofAnswer_eq_ok_iff (a : Answer) :
    Verdict.ofAnswer a = .ok ↔ ∃ sig, a = .ok sig := by
  cases a <;> simp [ofAnswer]

theorem Verdict.ofAnswer_ne_unfit (a : Answer) : Verdict.ofAnswer a ≠ .unfit := by
  cases a <;> simp [ofAnswer]

theorem Verdict.ofAnswer_eq_failed_iff (a : Answer) (message : String) :
    Verdict.ofAnswer a = .failed message ↔ ∃ fault, a = .error fault ∧ fault.message = message := by
  cases a <;> simp [ofAnswer]

/-- The verdict on a reader that has to fit the properties of the entity. -/
def Entity.verdict (e : Entity) : Answer → Verdict
  | .ok sig => if e.mismatches sig false = [] then .ok else .unfit
  | .error fault => .failed fault.message

theorem Entity.verdict_eq_ok_iff (e : Entity) (a : Answer) :
    e.verdict a = .ok ↔ ∃ sig, a = .ok sig ∧ e.mismatches sig false = [] := by
  cases a with
  | error fault => simp [verdict]
  | ok sig => simp only [verdict]; split <;> simp_all

theorem Entity.verdict_eq_unfit_iff (e : Entity) (a : Answer) :
    e.verdict a = .unfit ↔ ∃ sig, a = .ok sig ∧ e.mismatches sig false ≠ [] := by
  cases a with
  | error fault => simp [verdict]
  | ok sig => simp only [verdict]; split <;> simp_all

theorem Entity.verdict_eq_failed_iff (e : Entity) (a : Answer) (message : String) :
    e.verdict a = .failed message ↔ ∃ fault, a = .error fault ∧ fault.message = message := by
  cases a with
  | error fault => simp [verdict]
  | ok sig => simp only [verdict]; split <;> simp

theorem Entity.verdict_congr {e e' : Entity} (h : e.properties = e'.properties) (a : Answer) :
    e.verdict a = e'.verdict a := by
  cases e; cases e'; cases h
  cases a <;> rfl

namespace Query

/-- The query with the flags of a verdict. -/
def mark (q : Query) : Verdict → Query
  | .ok => q.approve
  | .unfit => q.flag
  | .failed _ => q.flag

/-- The query after an analysis of its own. -/
def renew (q : Query) : Answer → Query
  | .ok sig => { q with parameters := sig.parameters }.approve
  | .error _ => q.flag

/-- What the user enters of a query; no analysis changes it. -/
def definition (q : Query) : String × String × CommandKind × Execution :=
  (q.name, q.command, q.kind, q.execution)

section
variable (q : Query) (v : Verdict) (a : Answer)

@[simp] theorem name_mark : (q.mark v).name = q.name := by cases v <;> rfl

@[simp] theorem command_mark : (q.mark v).command = q.command := by cases v <;> rfl

@[simp] theorem kind_mark : (q.mark v).kind = q.kind := by cases v <;> rfl

@[simp] theorem isReader_mark : (q.mark v).isReader = q.isReader := by cases v <;> rfl

@[simp] theorem definition_mark : (q.mark v).definition = q.definition := by cases v <;> rfl

@[simp] theorem showError_mark : (q.mark v).showError = decide (v ≠ .ok) := by cases v <;> rfl

@[simp] theorem name_renew : (q.renew a).name = q.name := by cases a <;> rfl

@[simp] theorem command_renew : (q.renew a).command = q.command := by cases a <;> rfl

@[simp] theorem kind_renew : (q.renew a).kind = q.kind := by cases a <;> rfl

@[simp] theorem isReader_renew : (q.renew a).isReader = q.isReader := by cases a <;> rfl

@[simp] theorem definition_renew : (q.renew a).definition = q.definition := by cases a <;> rfl

theorem showError_renew : (q.renew a).showError = false ↔ ∃ sig, a = .ok sig := by
  cases a <;> simp [renew, approve, flag]

@[simp] theorem mark_mark : (q.mark v).mark v = q.mark v := by cases v <;> rfl

@[simp] theorem renew_renew : (q.renew a).renew a = q.renew a := by cases a <;> rfl

end
end Query

namespace ChangeReport

/-- Puts a query where its verdict belongs. -/
def record (r : ChangeReport) (query : String) : Verdict → ChangeReport
  | .ok => r.addOk query
  | .unfit => r.addUnfit query
  | .failed message => r.addFailure query message

/-- Notes that the columns changed, if they did. -/
def noteChange (r : ChangeReport) (changed : Bool) : ChangeReport :=
  if changed then { r with columnsChanged := true } else r

@[simp] theorem noteChange_false (r : ChangeReport) : r.noteChange false = r := rfl

@[simp] theorem noteChange_true (r : ChangeReport) :
    r.noteChange true = { r with columnsChanged := true } := rfl

/-- Whether the report names a query anywhere. -/
def Mentions (r : ChangeReport) (query : String) : Prop :=
  query ∈ r.ok ∨ query ∈ r.unfit ∨ ∃ f ∈ r.failures, f.query = query

/-- The report names the query once, where the verdict belongs, with the message of a failure. -/
structure Gives (r : ChangeReport) (query : String) (v : Verdict) : Prop where
  ok : r.ok.count query = if v = .ok then 1 else 0
  unfit : r.unfit.count query = if v = .unfit then 1 else 0
  failures : r.failures.filter (·.query == query) = v.failures query

@[simp] theorem mentions_noteChange (r : ChangeReport) (changed : Bool) (query : String) :
    (r.noteChange changed).Mentions query ↔ r.Mentions query := by
  cases changed <;> rfl

section
variable (r : ChangeReport) (query : String)

/-- Recording a verdict names that query and no other. -/
theorem mentions_record (other : String) (v : Verdict) :
    (r.record query v).Mentions other ↔ other = query ∨ r.Mentions other := by
  cases v with
  | ok => simp only [record, addOk]; grind [Mentions]
  | unfit => simp only [record, addUnfit, dropOk]; grind [Mentions]
  | failed message =>
    simp only [Mentions, record, addFailure, dropOk, List.mem_filter, bne_iff_ne, List.mem_append,
      List.mem_singleton]
    by_cases h : other = query
    · simp [h]
    · simp [h, or_and_right, exists_or, eq_comm]

end

/-- A report that gives a verdict on a query names it. -/
theorem Gives.mentions {r : ChangeReport} {query : String} {v : Verdict}
    (h : r.Gives query v) : r.Mentions query := by
  cases v with
  | ok => exact .inl (List.count_pos_iff.1 (by rw [h.ok]; simp))
  | unfit => exact .inr (.inl (List.count_pos_iff.1 (by rw [h.unfit]; simp)))
  | failed message =>
    have hf : (⟨query, message⟩ : Failure) ∈ r.failures.filter (·.query == query) := by
      rw [h.failures]
      exact List.mem_singleton.2 rfl
    exact .inr (.inr ⟨_, (List.mem_filter.1 hf).1, rfl⟩)

@[simp] theorem columnsChanged_record (r : ChangeReport) (query : String) (v : Verdict) :
    (r.record query v).columnsChanged = r.columnsChanged := by
  cases v with
  | ok => simp only [record, addOk]; split <;> rfl
  | unfit => simp only [record, addUnfit]; split <;> rfl
  | failed message => rfl

@[simp] theorem columnsChanged_noteChange (r : ChangeReport) (changed : Bool) :
    (r.noteChange changed).columnsChanged = (r.columnsChanged || changed) := by
  cases changed <;> simp

/-- But for the note that the columns changed, the report is as before. -/
theorem unchanged_noteChange {r : ChangeReport} (h : r.columnsChanged = false) (changed : Bool) :
    { r.noteChange changed with columnsChanged := false } = r := by
  cases r
  cases h
  cases changed <;> rfl

theorem record_noteChange (r : ChangeReport) (changed : Bool) (query : String) (v : Verdict) :
    (r.noteChange changed).record query v = (r.record query v).noteChange changed := by
  cases changed with
  | false => rfl
  | true =>
    cases v with
    | ok => by_cases h : query ∈ r.ok <;> simp [record, addOk, h]
    | unfit => by_cases h : query ∈ r.unfit <;> simp [record, addUnfit, dropOk, h]
    | failed message => rfl

/-- A query that was not named before gets exactly its verdict. -/
theorem gives_record {r : ChangeReport} {query : String} (fresh : ¬r.Mentions query) (v : Verdict) :
    (r.record query v).Gives query v := by
  simp only [Mentions, not_or, not_exists, not_and] at fresh
  obtain ⟨hok, hunfit, hfailures⟩ := fresh
  have hf : r.failures.filter (·.query == query) = [] := by simpa using hfailures
  have ho : r.ok.count query = 0 := List.count_eq_zero.2 hok
  have hd : (r.ok.filter (· != query)).count query = 0 := List.count_eq_zero.2 (by simp)
  have hu : r.unfit.count query = 0 := List.count_eq_zero.2 hunfit
  cases v with
  | ok => constructor <;> simp [record, addOk, hok, ho, hu, hf, Verdict.failures]
  | unfit => constructor <;> simp [record, addUnfit, dropOk, hunfit, hd, hu, hf, Verdict.failures]
  | failed message =>
    constructor <;> simp [record, addFailure, dropOk, hd, hu, hf, Verdict.failures]

section
variable {query other : String} (h : query ≠ other) (r : ChangeReport) (w : Verdict)
include h

theorem count_ok_record_of_ne : (r.record other w).ok.count query = r.ok.count query := by
  have hd : (r.ok.filter (· != other)).count query = r.ok.count query :=
    List.count_filter (by simpa using h)
  cases w with
  | ok => simp only [record, addOk]; split <;> simp [h.symm]
  | unfit => by_cases hu : other ∈ r.unfit <;> simp [record, addUnfit, dropOk, hu, hd]
  | failed message => exact hd

theorem count_unfit_record_of_ne : (r.record other w).unfit.count query = r.unfit.count query := by
  cases w with
  | ok => simp only [record, addOk]; split <;> rfl
  | unfit => by_cases hu : other ∈ r.unfit <;> simp [record, addUnfit, dropOk, hu, h.symm]
  | failed message => rfl

theorem filter_failures_record_of_ne : (r.record other w).failures.filter (·.query == query) =
    r.failures.filter (·.query == query) := by
  cases w with
  | ok => simp only [record, addOk]; split <;> rfl
  | unfit => by_cases hu : other ∈ r.unfit <;> simp [record, addUnfit, dropOk, hu]
  | failed message => simp [record, addFailure, dropOk, h.symm]

/-- A verdict on another query leaves what the report says about a query. -/
theorem gives_record_of_ne (v : Verdict) :
    (r.record other w).Gives query v ↔ r.Gives query v := by
  constructor
  · rintro ⟨hok, hunfit, hfailures⟩
    exact ⟨(count_ok_record_of_ne h r w).symm.trans hok,
      (count_unfit_record_of_ne h r w).symm.trans hunfit,
      (filter_failures_record_of_ne h r w).symm.trans hfailures⟩
  · rintro ⟨hok, hunfit, hfailures⟩
    exact ⟨(count_ok_record_of_ne h r w).trans hok, (count_unfit_record_of_ne h r w).trans hunfit,
      (filter_failures_record_of_ne h r w).trans hfailures⟩

end

/-- Verdicts recorded one after the other. -/
def recordAll (r : ChangeReport) (l : List (String × Verdict)) : ChangeReport :=
  l.foldl (fun r p => r.record p.1 p.2) r

theorem mentions_recordAll (r : ChangeReport) (l : List (String × Verdict)) (query : String) :
    (r.recordAll l).Mentions query ↔ query ∈ l.map (·.1) ∨ r.Mentions query := by
  induction l generalizing r with
  | nil => simp [recordAll]
  | cons p l ih =>
    have h := ih (r.record p.1 p.2)
    rw [mentions_record] at h
    simp only [recordAll, List.foldl_cons, List.map_cons, List.mem_cons] at h ⊢
    rw [h]
    tauto

@[simp] theorem columnsChanged_recordAll (r : ChangeReport) (l : List (String × Verdict)) :
    (r.recordAll l).columnsChanged = r.columnsChanged := by
  induction l generalizing r with
  | nil => rfl
  | cons p l ih => exact (ih (r.record p.1 p.2)).trans (columnsChanged_record r p.1 p.2)

/-- The columns and the verdicts can be noted in either order. -/
theorem recordAll_noteChange (r : ChangeReport) (changed : Bool) (l : List (String × Verdict)) :
    (r.noteChange changed).recordAll l = (r.recordAll l).noteChange changed := by
  induction l generalizing r with
  | nil => rfl
  | cons p l ih =>
    have step := record_noteChange r changed p.1 p.2
    exact (congrArg (recordAll · l) step).trans (ih (r.record p.1 p.2))

/-- Verdicts on other queries leave what the report says about a query. -/
theorem gives_recordAll_of_notMem {r : ChangeReport} {l : List (String × Verdict)} {query : String}
    (h : query ∉ l.map (·.1)) (v : Verdict) : (r.recordAll l).Gives query v ↔ r.Gives query v := by
  induction l generalizing r with
  | nil => rfl
  | cons p l ih =>
    simp only [List.map_cons, List.mem_cons, not_or] at h
    exact (ih h.2).trans (gives_record_of_ne h.1 r p.2 v)

/-- After verdicts on differently named queries, none named before, the report gives each of
them. -/
theorem gives_recordAll {r : ChangeReport} {l : List (String × Verdict)}
    (distinct : (l.map (·.1)).Nodup) (fresh : ∀ p ∈ l, ¬r.Mentions p.1) :
    ∀ p ∈ l, (r.recordAll l).Gives p.1 p.2 := by
  induction l generalizing r with
  | nil => simp
  | cons p l ih =>
    obtain ⟨hp, hl⟩ := List.nodup_cons.1 distinct
    intro q hq
    rcases List.mem_cons.1 hq with rfl | hq
    · exact (gives_recordAll_of_notMem hp q.2).2 (gives_record (fresh q List.mem_cons_self) q.2)
    · refine ih hl (fun q hq => ?_) q hq
      rw [mentions_record, not_or]
      refine ⟨fun h => hp ?_, fresh q (List.mem_cons_of_mem p hq)⟩
      exact List.mem_map.2 ⟨q, hq, h⟩

end ChangeReport

namespace Reconciliation
variable {σ : Type} (analyze : Analyzer σ)

/-- A recheck marks and records the verdict on the answer. -/
theorem recheck_eq (e : Entity) : recheck analyze e =
    inspect analyze (fun q a => q.mark (e.verdict a))
      fun q a r => r.record q.name (e.verdict a) := by
  funext q r s
  simp only [recheck, inspect]
  rcases analyze q.command q.kind s with ⟨fault | sig, t⟩
  · rfl
  · simp only [Entity.isEmpty_mismatches_true, List.isEmpty_iff, Entity.verdict]
    split <;> rfl

/-- An analysis of its own renews a query. -/
theorem reanalyze_eq (q : Query) (r : ChangeReport) (s : σ) : reanalyze analyze q r s =
    ((analyze q.command q.kind s).1.toOption, q.renew (analyze q.command q.kind s).1,
      r.record q.name (.ofAnswer (analyze q.command q.kind s).1),
      (analyze q.command q.kind s).2) := by
  simp only [reanalyze]
  rcases analyze q.command q.kind s with ⟨fault | sig, t⟩ <;> rfl

end Reconciliation
end EntityDesign
