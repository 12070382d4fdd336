import EntityDesign.Proofs.Reconciliation.Session

/-! Refreshing an entity whose readers all fit. A refresh may put the columns of another reader in
place of the properties, but they have the same shape, so every reader fits them as well and no
verdict is against one. -/
namespace EntityDesign

namespace ChangeReport

theorem unfit_record {v : Verdict} (h : v ≠ .unfit) (r : ChangeReport) (query : String) :
    (r.record query v).unfit = r.unfit := by
  cases v with
  | ok => simp only [record, addOk]; split <;> rfl
  | unfit => exact absurd rfl h
  | failed message => rfl

/-- Verdicts of which none is that a query is unfit name no query so. -/
theorem unfit_recordAll {l : List (String × Verdict)} (h : ∀ p ∈ l, p.2 ≠ .unfit)
    (r : ChangeReport) : (r.recordAll l).unfit = r.unfit := by
  induction l generalizing r with
  | nil => rfl
  | cons p l ih =>
    have hl : ∀ p ∈ l, p.2 ≠ .unfit := fun q hq => h q (List.mem_cons_of_mem p hq)
    calc (recordAll r (p :: l)).unfit = (r.record p.1 p.2).unfit := ih hl _
      _ = r.unfit := unfit_record (h p List.mem_cons_self) r p.1

@[simp] theorem unfit_noteChange (r : ChangeReport) (changed : Bool) :
    (r.noteChange changed).unfit = r.unfit := by
  cases changed <;> rfl

end ChangeReport

namespace Reconciliation
variable {σ : Type}

/-- Whether every reader can be analyzed and fits the columns. -/
def Consistent (answer : String → CommandKind → Answer) (e : Entity) : Prop :=
  ∀ q ∈ e.queries, q.isReader = true →
    ∃ sig, answer q.command q.kind = .ok sig ∧ e.mismatches sig false = []

section
variable {answer : String → CommandKind → Answer} {e : Entity}

/-- Properties of the same shape do as well. -/
theorem Consistent.reshape (consistent : Consistent answer e) {e' : Entity}
    (shape : Property.SameShape e'.properties e.properties)
    (same : e'.queries.map (·.definition) = e.queries.map (·.definition)) :
    Consistent answer e' := by
  intro q hq reader
  obtain ⟨q₀, hq₀, heq⟩ := List.mem_map.1 (same ▸ List.mem_map_of_mem (f := Query.definition) hq)
  simp only [Query.definition, Prod.mk.injEq] at heq
  obtain ⟨-, hcommand, hkind, hexecution⟩ := heq
  rw [Query.isReader, ← hexecution] at reader
  obtain ⟨sig, ha, hm⟩ := consistent q₀ hq₀ reader
  rw [Entity.mismatches_false, Mismatch.all_eq_nil_iff] at hm
  refine ⟨sig, by rw [← hcommand, ← hkind, ha], ?_⟩
  rw [Entity.mismatches_false, Mismatch.all_eq_nil_iff]
  exact Property.sameShape_equivalence.trans shape hm

/-- The columns of a fitting reader have the shape of the properties. -/
theorem sameShape_propertiesAfter (consistent : Consistent answer e) {q : Query}
    (hq : q ∈ e.queries) :
    Property.SameShape (e.propertiesAfter q (answer q.command q.kind)) e.properties := by
  by_cases reader : q.isReader
  · obtain ⟨sig, ha, hm⟩ := consistent q hq reader
    rw [Entity.mismatches_false, Mismatch.all_eq_nil_iff] at hm
    simp only [ha, Entity.propertiesAfter, reader, ↓reduceIte]
    exact Property.sameShape_equivalence.symm hm
  · have kept : e.propertiesAfter q (answer q.command q.kind) = e.properties := by
      cases answer q.command q.kind <;> simp [Entity.propertiesAfter, reader]
    rw [kept]
    exact Property.sameShape_equivalence.refl _

theorem Consistent.verdict_eq_ok (consistent : Consistent answer e) {q : Query}
    (hq : q ∈ e.queries) (reader : q.isReader = true) :
    e.verdict (answer q.command q.kind) = .ok :=
  (e.verdict_eq_ok_iff _).2 (consistent q hq reader)

end

section
variable {analyze : Analyzer σ} {answer : String → CommandKind → Answer}
  (steady : Steady analyze answer)
include steady

/-- A source that answers by command answers a list of queries one by one. -/
theorem consult_eq_map (qs : List Query) (s : σ) :
    (consult analyze qs s).1 = qs.map fun q => answer q.command q.kind := by
  induction qs generalizing s with
  | nil => rfl
  | cons q qs ih =>
    have hq := steady q.command q.kind s
    simp only [consult, List.map_cons, ih, hq]

section
variable {i : Nat} {q : Query} {p : Progress σ} (consistent : Consistent answer p.entity)

include consistent in
/-- A recheck finds no reader unfit. -/
theorem unfit_recheckReaders (i : Nat) :
    (recheckReaders analyze i p).report.unfit = p.report.unfit := by
  rw [report_recheckReaders]
  refine ChangeReport.unfit_recordAll (fun v hv => ?_) p.report
  rw [recheckVerdicts, recheckAnswers, consult_eq_map steady, List.zipWith_map_right,
    List.zipWith_self] at hv
  obtain ⟨q, hq, rfl⟩ := List.mem_map.1 hv
  obtain ⟨hmem, reader⟩ := List.mem_filter.1 hq
  rw [consistent.verdict_eq_ok (List.mem_of_mem_eraseIdx hmem) reader]
  simp

include consistent in
/-- A recheck flags no reader. -/
theorem flagged_recheckReaders {j : Nat} {q' : Query}
    (h : (recheckReaders analyze i p).entity.queries[j]? = some q')
    (flagged : q'.showError = true) : p.entity.queries[j]? = some q' := by
  obtain ⟨q, hq, ⟨-, rfl⟩ | ⟨-, reader, s, rfl⟩⟩ := recheckReaders_getElem? analyze h
  · exact hq
  · rw [steady, consistent.verdict_eq_ok (List.mem_of_getElem? hq) reader] at flagged
    cases flagged

include consistent in
theorem consistent_renewed (h : p.entity.queries[i]? = some q) :
    Consistent answer (renewed analyze i q p).entity := by
  have shape := sameShape_propertiesAfter consistent (List.mem_of_getElem? h)
  rw [← steady q.command q.kind p.source] at shape
  exact consistent.reshape shape (Entity.map_renewAt (·.definition) (by simp) h _)

include consistent in
/-- An analysis flags no reader. -/
theorem flagged_renewed (h : p.entity.queries[i]? = some q) {j : Nat} {q' : Query}
    (h' : (renewed analyze i q p).entity.queries[j]? = some q') (reader : q'.isReader = true)
    (flagged : q'.showError = true) : p.entity.queries[j]? = some q' := by
  obtain ⟨hi, -⟩ := List.getElem?_eq_some_iff.1 h
  simp only [renewed, Entity.renewAt] at h'
  by_cases hj : i = j
  · rw [← hj, List.getElem?_set_self hi, Option.some.injEq] at h'
    rw [← h', Query.isReader_renew] at reader
    obtain ⟨sig, ha, -⟩ := consistent q (List.mem_of_getElem? h) reader
    rw [← h', steady, ha] at flagged
    cases flagged
  · rwa [List.getElem?_set_ne hj] at h'

include consistent in
theorem consistent_refreshQueryAt (cascade : Bool) (h : p.entity.queries[i]? = some q) :
    Consistent answer (refreshQueryAt analyze i cascade p).entity := by
  have shape := sameShape_propertiesAfter consistent (List.mem_of_getElem? h)
  rw [← steady q.command q.kind p.source, ← properties_refreshQueryAt analyze cascade h] at shape
  exact consistent.reshape shape
    (map_refreshQueryAt analyze cascade h (·.definition) (by simp) (by simp))

include consistent in
/-- A refresh finds no reader unfit. -/
theorem unfit_refreshQueryAt (cascade : Bool) (h : p.entity.queries[i]? = some q) :
    (refreshQueryAt analyze i cascade p).report.unfit = p.report.unfit := by
  have own : (renewed analyze i q p).report.unfit = p.report.unfit := by
    rw [renewed, ChangeReport.unfit_noteChange,
      ChangeReport.unfit_record (Verdict.ofAnswer_ne_unfit _)]
  rw [refreshQueryAt_eq analyze cascade h]
  split
  · exact (unfit_recheckReaders steady (consistent_renewed steady consistent h) i).trans own
  · exact own

include consistent in
/-- A refresh flags no reader. -/
theorem flagged_refreshQueryAt {cascade : Bool} (h : p.entity.queries[i]? = some q) {j : Nat}
    {q' : Query} (h' : (refreshQueryAt analyze i cascade p).entity.queries[j]? = some q')
    (reader : q'.isReader = true) (flagged : q'.showError = true) :
    p.entity.queries[j]? = some q' := by
  rw [refreshQueryAt_eq analyze cascade h] at h'
  split at h'
  · have hrenewed :=
      flagged_recheckReaders steady (consistent_renewed steady consistent h) h' flagged
    exact flagged_renewed steady consistent h hrenewed reader flagged
  · exact flagged_renewed steady consistent h h' reader flagged

end

omit steady in
/-- The first pass of a full refresh finds no query unfit. -/
theorem unfit_renewOthers (e : Entity) (s : σ) : (renewOthers analyze e s).report.unfit = [] := by
  rw [report_renewOthers]
  refine ChangeReport.unfit_recordAll (fun v hv => ?_) (blank e)
  obtain ⟨k, hk, rfl⟩ := List.mem_iff_getElem.1 hv
  rw [List.getElem_zipWith]
  exact Verdict.ofAnswer_ne_unfit _

omit steady in
theorem consistent_renewOthers {e : Entity} (s : σ) (consistent : Consistent answer e) :
    Consistent answer (renewOthers analyze e s).entity :=
  consistent.reshape (Property.sameShape_equivalence.refl _)
    (map_renewOthers analyze (·.definition) (by simp) e s)

/-- Refreshing a query, or everything, in an entity whose readers can all be analyzed and fit finds
none of them unfit and flags none: a reader that is flagged afterwards is as it was. The queries
keep their definitions, and all readers fit the columns that the entity has then. -/
theorem refresh_consistent (e : Entity) (s : σ) (consistent : Consistent answer e)
    (op : Operation) (refreshing : op = .refreshAll ∨ ∃ q ∈ e.queries, op = .refresh q.name) :
    let after := op.perform analyze e s
    ∃ r, after.report = some r ∧ r.unfit = [] ∧
      after.entity.queries.map (·.definition) = e.queries.map (·.definition) ∧
      (∀ (j : Nat) (q : Query), after.entity.queries[j]? = some q → q.isReader = true →
        q.showError = true → e.queries[j]? = some q) ∧
      Consistent answer after.entity := by
  have way := performed analyze op e s
  generalize op.perform analyze e s = after at way ⊢
  cases way with
  | added | edited | deleted => simp at refreshing
  | missing target unknown =>
    exfalso
    rcases refreshing with rfl | ⟨q, hq, rfl⟩
    · cases target
    · cases target
      exact Entity.queryIndex?_eq_none_iff.1 unknown q hq rfl
  | refreshed found hq =>
    refine ⟨_, rfl, unfit_refreshQueryAt steady consistent false hq,
      map_refreshQueryAt analyze false hq (·.definition) (by simp) (by simp), ?_,
      consistent_refreshQueryAt steady consistent false hq⟩
    intro j q' hq' reader flagged
    exact flagged_refreshQueryAt steady consistent hq hq' reader flagged
  | swept first hq =>
    have pass : Consistent answer (renewOthers analyze e s).entity :=
      consistent_renewOthers s consistent
    have same := map_renewOthers analyze (·.definition) (by simp) e s
    refine ⟨_, rfl, (unfit_refreshQueryAt steady pass true hq).trans (unfit_renewOthers e s),
      (map_refreshQueryAt analyze true hq (·.definition) (by simp) (by simp)).trans same, ?_,
      consistent_refreshQueryAt steady pass true hq⟩
    intro j q' hq' reader flagged
    have hpass := flagged_refreshQueryAt steady pass hq hq' reader flagged
    exact renewOthers_getElem?_reader analyze hpass reader
  | renewed =>
    refine ⟨_, rfl, unfit_renewOthers e s, map_renewOthers analyze (·.definition) (by simp) e s,
      ?_, consistent_renewOthers s consistent⟩
    intro j q' hq' reader _
    exact renewOthers_getElem?_reader analyze hq' reader

end

/-- Two commands of a sample source with the same columns in different order. -/
def bothOrders : String → CommandKind → Answer :=
  listed [("SELECT A, B FROM T", [⟨"A", "int", "Int32", false⟩, ⟨"B", "string", "String", true⟩]),
    ("SELECT B, A FROM T", [⟨"B", "string", "AnsiString", true⟩, ⟨"A", "int", "Int32", false⟩])]

/-- An entity with a reader for each; the second one is flagged. -/
def bothReaders : Entity :=
  { name := "Item"
    properties := [⟨"A", "int", "Int32"⟩, ⟨"B", "string", "String"⟩]
    queries := [⟨"Load", "SELECT A, B FROM T", .text, .reader, [], false, true, false⟩,
      ⟨"Swap", "SELECT B, A FROM T", .text, .reader, [], true, false, false⟩] }

/-- Refreshing the second reader turns the columns round, and no reader is unfit. -/
theorem refresh_consistent_swap :
    let after := (Operation.refresh "Swap").perform (unmoved bothOrders) bothReaders ()
    after.entity.properties = [⟨"B", "string", "AnsiString"⟩, ⟨"A", "int", "Int32"⟩] ∧
    ∃ r, after.report = some r ∧ r.unfit = [] ∧
      after.entity.queries.map (·.definition) = bothReaders.queries.map (·.definition) ∧
      (∀ (j : Nat) (q : Query), after.entity.queries[j]? = some q → q.isReader = true →
        q.showError = true → bothReaders.queries[j]? = some q) ∧
      Consistent bothOrders after.entity := by
  refine ⟨by decide +kernel, refresh_consistent (steady_unmoved bothOrders) bothReaders () ?_
    (.refresh "Swap") (.inr ⟨_, List.mem_cons_of_mem _ List.mem_cons_self, rfl⟩)⟩
  intro q hq _
  simp only [bothReaders, List.mem_cons, List.not_mem_nil, or_false] at hq
  rcases hq with rfl | rfl
  · exact ⟨{ columns := [⟨"A", "int", "Int32", false⟩, ⟨"B", "string", "String", true⟩] },
      by decide +kernel, by decide +kernel⟩
  · exact ⟨{ columns := [⟨"B", "string", "AnsiString", true⟩, ⟨"A", "int", "Int32", false⟩] },
      by decide +kernel, by decide +kernel⟩

end Reconciliation
end EntityDesign
