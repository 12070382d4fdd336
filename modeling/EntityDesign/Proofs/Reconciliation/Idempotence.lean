import EntityDesign.Proofs.Reconciliation.Consistency
import EntityDesign.Proofs.Reconciliation.Ownership
import EntityDesign.Proofs.Reconciliation.Sweep

/-! Refreshing twice. With answers that depend on the command alone, a full refresh leaves an entity
that is current: its columns and each of its queries are as a refresh would leave them. Refreshing
what is current changes nothing, and its report has the same verdicts, for they depend on what was
entered and on the columns in the end. -/
namespace EntityDesign

/-- The query as it was entered, without what analyses have found. -/
def Query.entered (q : Query) : Query :=
  { name := q.name, command := q.command, kind := q.kind, execution := q.execution }

@[simp] theorem Query.entered_mark (q : Query) (v : Verdict) : (q.mark v).entered = q.entered := by
  cases v <;> rfl

@[simp] theorem Query.entered_renew (q : Query) (a : Answer) : (q.renew a).entered = q.entered := by
  cases a <;> rfl

namespace Reconciliation
variable {σ : Type} {analyze : Analyzer σ} {answer : String → CommandKind → Answer}

/-- What a full refresh makes of the query at an index, if the entity has the columns in the end. -/
def refreshedQuery (answer : String → CommandKind → Answer) (e : Entity) (j : Nat) (q : Query) :
    Query :=
  if q.isReader ∧ e.queries.findIdx? (·.isReader) ≠ some j then
    q.mark (e.verdict (answer q.command q.kind))
  else q.renew (answer q.command q.kind)

/-- Whether the columns and the queries are as a full refresh would leave them. -/
structure Current (answer : String → CommandKind → Answer) (e : Entity) : Prop where
  columns : ∀ q, e.firstReader? = some q → e.propertiesAfter q (answer q.command q.kind) =
    e.properties
  query : ∀ (j : Nat) (q : Query), e.queries[j]? = some q → refreshedQuery answer e j q = q

theorem refreshedQuery_refreshedQuery (e : Entity) (j : Nat) (q : Query) :
    refreshedQuery answer e j (refreshedQuery answer e j q) = refreshedQuery answer e j q := by
  by_cases h : q.isReader ∧ e.queries.findIdx? (·.isReader) ≠ some j
  · simp [refreshedQuery, h]
  · rw [refreshedQuery, refreshedQuery, if_neg h, Query.isReader_renew, if_neg h]
    simp

/-- A full refresh leaves the first reader where it is. -/
theorem findIdx?_refreshAll (e : Entity) (s : σ) :
    (refreshAll analyze e s).entity.queries.findIdx? (·.isReader) =
      e.queries.findIdx? (·.isReader) :=
  findIdx?_congr Query.isReader id (map_refreshAll analyze s (·.isReader) (by simp) (by simp))

section
variable (steady : Steady analyze answer)
include steady

theorem recheckReaders_eq_self {i : Nat} {p : Progress σ}
    (marked : ∀ (j : Nat) (q : Query), p.entity.queries[j]? = some q → j ≠ i → q.isReader = true →
      q.mark (p.entity.verdict (answer q.command q.kind)) = q) :
    (recheckReaders analyze i p).entity = p.entity := by
  have queries : (recheckReaders analyze i p).entity.queries = p.entity.queries := by
    apply visit_eq_self
    intro j q hq picked r s
    simp only [Nat.zero_add, Bool.and_eq_true, bne_iff_ne] at picked
    have hmark := marked j q hq picked.1 picked.2
    rw [← steady q.command q.kind s] at hmark
    rw [recheck_eq]
    exact hmark
  calc (recheckReaders analyze i p).entity
      = { p.entity with queries := (recheckReaders analyze i p).entity.queries } := rfl
    _ = p.entity := by rw [queries]

/-- A refresh of a query that has taken over its answer, among readers that have their verdicts. -/
theorem refreshQueryAt_eq_self {i : Nat} {q : Query} {p : Progress σ} {cascade : Bool}
    (h : p.entity.queries[i]? = some q)
    (own : p.entity.renewAt i q (answer q.command q.kind) = p.entity)
    (marked : cascade = true → ∀ (j : Nat) (q : Query), p.entity.queries[j]? = some q → j ≠ i →
      q.isReader = true → q.mark (p.entity.verdict (answer q.command q.kind)) = q) :
    (refreshQueryAt analyze i cascade p).entity = p.entity := by
  have hrenewed : (renewed analyze i q p).entity = p.entity := by
    rw [renewed, steady]
    exact own
  rw [refreshQueryAt_eq analyze cascade h]
  split
  next follows =>
    have hcascade : cascade = true := follows.resolve_left (not_not.2 (by rw [hrenewed]))
    rw [recheckReaders_eq_self steady (by rw [hrenewed]; exact marked hcascade), hrenewed]
  next => exact hrenewed

theorem getElem?_refreshQueryAt_self {i : Nat} {q : Query} {p : Progress σ} (cascade : Bool)
    (h : p.entity.queries[i]? = some q) :
    (refreshQueryAt analyze i cascade p).entity.queries[i]? =
      some (q.renew (answer q.command q.kind)) := by
  obtain ⟨hi, -⟩ := List.getElem?_eq_some_iff.1 h
  have own : (renewed analyze i q p).entity.queries[i]? =
      some (q.renew (answer q.command q.kind)) := by
    rw [renewed, steady]
    exact List.getElem?_set_self hi
  rw [refreshQueryAt_eq analyze cascade h]
  split
  · exact recheckReaders_getElem?_self analyze own
  · exact own

/-- The query that is refreshed is as a second refresh would leave it. -/
theorem renewAt_refreshQueryAt {i : Nat} {q : Query} {p : Progress σ} (cascade : Bool)
    (h : p.entity.queries[i]? = some q) :
    (refreshQueryAt analyze i cascade p).entity.renewAt i (q.renew (answer q.command q.kind))
        (answer q.command q.kind) = (refreshQueryAt analyze i cascade p).entity := by
  have columns := properties_refreshQueryAt analyze cascade h
  rw [steady] at columns
  exact Entity.renewAt_eq_self (getElem?_refreshQueryAt_self steady cascade h)
    (Query.renew_renew q _) (Entity.propertiesAfter_renew columns)

theorem renewOthers_eq_self {e : Entity} (s : σ)
    (fresh : ∀ q ∈ e.queries, q.isReader = false → q.renew (answer q.command q.kind) = q) :
    (renewOthers analyze e s).entity = e := by
  have queries : (renewOthers analyze e s).entity.queries = e.queries := by
    apply visit_eq_self
    intro j q hq picked r s
    have hrenew := fresh q (List.mem_of_getElem? hq) (by simpa using picked)
    rw [← steady q.command q.kind s] at hrenew
    rw [reanalyze_eq]
    exact hrenew
  calc (renewOthers analyze e s).entity
      = { e with queries := (renewOthers analyze e s).entity.queries } := rfl
    _ = e := by rw [queries]

/-- Position by position, the first pass renews what is no reader. -/
theorem getElem?_renewOthers {e : Entity} {s : σ} {j : Nat} {q' : Query}
    (h : (renewOthers analyze e s).entity.queries[j]? = some q') :
    ∃ q, e.queries[j]? = some q ∧
      q' = if q.isReader then q else q.renew (answer q.command q.kind) := by
  obtain ⟨q, hq, ⟨reader, rfl⟩ | ⟨other, r, t, rfl⟩⟩ := visit_getElem? _ h
  · refine ⟨q', hq, ?_⟩
    rw [if_pos (by simpa using reader)]
  · refine ⟨q, hq, ?_⟩
    rw [reanalyze_eq, steady, if_neg (by simpa using other)]

/-- Position by position, what a full refresh makes of the queries. -/
theorem getElem?_refreshAll {e : Entity} {s : σ} {j : Nat} {q' : Query}
    (h : (refreshAll analyze e s).entity.queries[j]? = some q') :
    ∃ q, e.queries[j]? = some q ∧
      q' = refreshedQuery answer (refreshAll analyze e s).entity j q := by
  simp only [refreshedQuery, findIdx?_refreshAll]
  have way := refreshedAll analyze e s
  generalize refreshAll analyze e s = p at way h ⊢
  cases way with
  | readerless first =>
    obtain ⟨q, hq, rfl⟩ := getElem?_renewOthers steady h
    have other : q.isReader = false := by
      simpa using List.findIdx?_eq_none_iff.1 first q (List.mem_of_getElem? hq)
    exact ⟨q, hq, by simp [other]⟩
  | @led i lead first hlead reader hpass =>
    have own := getElem?_refreshQueryAt_self steady true hpass
    rw [first]
    by_cases hji : j = i
    · subst hji
      refine ⟨lead, hlead, ?_⟩
      simpa using Option.some.inj (h.symm.trans own)
    · -- the recheck judges by the columns that the first reader has left, those in the end
      rw [refreshQueryAt_eq analyze true hpass, if_pos (.inr rfl)] at h ⊢
      obtain ⟨q₁, hq₁, cases⟩ := recheckReaders_getElem? analyze h
      have hset : (renewOthers analyze e s).entity.queries[j]? = some q₁ := by
        rw [← hq₁, renewed, Entity.renewAt, List.getElem?_set_ne (Ne.symm hji)]
      obtain ⟨q, hq, rfl⟩ := getElem?_renewOthers steady hset
      refine ⟨q, hq, ?_⟩
      by_cases hreader : q.isReader
      · obtain ⟨-, -, t, rfl⟩ := cases.resolve_left (by simp [hji, hreader])
        rw [if_pos hreader, steady, if_pos ⟨hreader, by simpa using Ne.symm hji⟩]
        rfl
      · obtain ⟨-, rfl⟩ := cases.resolve_right (by simp [hreader])
        simp [hreader]

/-- A full refresh leaves an entity that is current. -/
theorem current_refreshAll (e : Entity) (s : σ) :
    Current answer (refreshAll analyze e s).entity := by
  constructor
  case columns =>
    intro q' hfirst
    rw [Entity.firstReader?_eq, findIdx?_refreshAll] at hfirst
    have way := refreshedAll analyze e s
    generalize refreshAll analyze e s = p at way hfirst ⊢
    cases way with
    | readerless first => simp [first] at hfirst
    | led first hq reader hpass =>
      rw [first, Option.bind_some, getElem?_refreshQueryAt_self steady true hpass,
        Option.some.injEq] at hfirst
      have columns := properties_refreshQueryAt analyze true hpass
      rw [steady] at columns
      rw [← hfirst, Query.command_renew, Query.kind_renew]
      exact Entity.propertiesAfter_renew columns
  case query =>
    intro j q' hq'
    obtain ⟨q, -, rfl⟩ := getElem?_refreshAll steady hq'
    exact refreshedQuery_refreshedQuery _ j q

/-- A full refresh leaves what is current as it is. -/
theorem refreshAll_eq_self {e : Entity} (current : Current answer e) (s : σ) :
    (refreshAll analyze e s).entity = e := by
  have pass : (renewOthers analyze e s).entity = e := by
    apply renewOthers_eq_self steady
    intro q hq other
    obtain ⟨j, hj⟩ := List.mem_iff_getElem?.1 hq
    simpa [refreshedQuery, other] using current.query j q hj
  have way := refreshedAll analyze e s
  generalize refreshAll analyze e s = p at way ⊢
  cases way with
  | readerless => exact pass
  | @led i lead first hlead reader hpass =>
    have hfirst : e.firstReader? = some lead := by
      rw [Entity.firstReader?_eq, first, Option.bind_some, hlead]
    have own : lead.renew (answer lead.command lead.kind) = lead := by
      simpa [refreshedQuery, first] using current.query i lead hlead
    refine (refreshQueryAt_eq_self steady hpass ?_ fun _ => ?_).trans pass
    · rw [pass]
      exact Entity.renewAt_eq_self hlead own (current.columns lead hfirst)
    · rw [pass]
      intro j q hq hji hreader
      have mark := current.query j q hq
      rwa [refreshedQuery, if_pos ⟨hreader, by simpa [first] using Ne.symm hji⟩] at mark

end

section Report

/-- The verdict on a query by its answer alone. -/
def ownVerdict (answer : String → CommandKind → Answer) (q : Query) : String × Verdict :=
  (q.name, .ofAnswer (answer q.command q.kind))

/-- The verdict on a query by the columns of an entity. -/
def columnVerdict (answer : String → CommandKind → Answer) (e : Entity) (q : Query) :
    String × Verdict :=
  (q.name, e.verdict (answer q.command q.kind))

/-- The verdicts of a full refresh in order: on the queries that are no readers, on the first reader
and by the columns in the end on the others. -/
def sweep (answer : String → CommandKind → Answer) (after : Entity) (qs : List Query) :
    List (String × Verdict) :=
  (qs.filter (!·.isReader)).map (ownVerdict answer) ++
    (((qs.filter (·.isReader)).map (ownVerdict answer)).take 1 ++
      ((qs.filter (·.isReader)).map (columnVerdict answer after)).drop 1)

/-- Verdicts that depend on what was entered only. -/
theorem map_filter_congr {β : Type} {qs qs' : List Query}
    (same : qs.map (·.entered) = qs'.map (·.entered)) (f : Query → β) (pick : Query → Bool)
    (hf : ∀ q : Query, f q.entered = f q) (hpick : ∀ q : Query, pick q.entered = pick q) :
    (qs.filter pick).map f = (qs'.filter pick).map f := by
  have through (l : List Query) :
      ((l.map (·.entered)).filter pick).map f = (l.filter pick).map f := by
    rw [List.filter_map, List.map_map]
    simp only [Function.comp_def, hf, hpick]
  rw [← through qs, same, through]

theorem sweep_congr {qs qs' : List Query} (same : qs.map (·.entered) = qs'.map (·.entered))
    (after : Entity) : sweep answer after qs = sweep answer after qs' := by
  have own (pick : Query → Bool) (hpick : ∀ q : Query, pick q.entered = pick q) :=
    map_filter_congr same (ownVerdict answer) pick (fun _ => rfl) hpick
  have others := map_filter_congr same (columnVerdict answer after) (·.isReader) (fun _ => rfl)
    fun _ => rfl
  rw [sweep, sweep, own (!·.isReader) fun _ => rfl, own (·.isReader) fun _ => rfl, others]

section
variable (steady : Steady analyze answer)
include steady

theorem report_renewOthers_eq (e : Entity) (s : σ) : (renewOthers analyze e s).report =
    (blank e).recordAll ((e.queries.filter (!·.isReader)).map (ownVerdict answer)) := by
  rw [report_renewOthers, consult_eq_map steady, List.zipWith_map_right, List.zipWith_self]
  rfl

theorem recheckVerdicts_eq (i : Nat) (p : Progress σ) : recheckVerdicts analyze i p =
    (p.entity.otherReaders i).map (columnVerdict answer p.entity) := by
  rw [recheckVerdicts, recheckAnswers, consult_eq_map steady, List.zipWith_map_right,
    List.zipWith_self]
  rfl

/-- The report of a refresh with a cascade. -/
theorem report_refreshQueryAt_cascade {i : Nat} {q : Query} {p : Progress σ}
    (h : p.entity.queries[i]? = some q) :
    (refreshQueryAt analyze i true p).report = (p.report.recordAll (ownVerdict answer q ::
      (p.entity.otherReaders i).map
        (columnVerdict answer (refreshQueryAt analyze i true p).entity))).noteChange
      ((refreshQueryAt analyze i true p).entity.properties != p.entity.properties) := by
  have own : (renewed analyze i q p).report =
      (p.report.recordAll [ownVerdict answer q]).noteChange
        ((renewed analyze i q p).entity.properties != p.entity.properties) := by
    rw [ownVerdict, ← steady q.command q.kind p.source]
    rfl
  rw [refreshQueryAt_eq analyze true h, if_pos (.inr rfl), report_recheckReaders, own,
    ChangeReport.recordAll_noteChange, recheckVerdicts_eq steady, renewed,
    Entity.otherReaders_renewAt]
  rfl

/-- The report of a full refresh has these verdicts and notes whether the columns changed. -/
theorem report_refreshAll (e : Entity) (s : σ) : (refreshAll analyze e s).report =
    ((blank e).recordAll (sweep answer (refreshAll analyze e s).entity e.queries)).noteChange
      ((refreshAll analyze e s).entity.properties != e.properties) := by
  have pass := report_renewOthers_eq steady e s
  have entered := map_renewOthers analyze (·.entered) (by simp) e s
  have indices :=
    findIdx?_congr Query.isReader id (map_renewOthers analyze (·.isReader) (by simp) e s)
  have way := refreshedAll analyze e s
  generalize refreshAll analyze e s = p at way ⊢
  cases way with
  | readerless first =>
    have none : e.queries.filter (·.isReader) = [] := by
      simpa [List.filter_eq_nil_iff] using List.findIdx?_eq_none_iff.1 first
    rw [pass, sweep, none, properties_renewOthers, bne_self_eq_false]
    simp
  | @led i lead first hlead reader hpass =>
    have readers : (renewOthers analyze e s).entity.queries.filter (·.isReader) =
        lead :: (renewOthers analyze e s).entity.otherReaders i :=
      filter_eq_cons_of_findIdx? (indices.trans first) hpass
    have own := map_filter_congr entered (ownVerdict answer) (·.isReader) (fun _ => rfl)
      fun _ => rfl
    have others := map_filter_congr entered
      (columnVerdict answer (refreshQueryAt analyze i true (renewOthers analyze e s)).entity)
      (·.isReader) (fun _ => rfl) fun _ => rfl
    rw [report_refreshQueryAt_cascade steady hpass, pass, properties_renewOthers, sweep, ← own,
      ← others, readers, ChangeReport.recordAll, ChangeReport.recordAll, ChangeReport.recordAll,
      ← List.foldl_append]
    rfl

/-- A second full refresh reports what the first one did, but for the columns. -/
theorem report_refreshAll_refreshAll (e : Entity) (s t : σ) :
    (refreshAll analyze (refreshAll analyze e s).entity t).report =
      { (refreshAll analyze e s).report with columnsChanged := false } := by
  have same := refreshAll_eq_self steady (current_refreshAll steady e s) t
  have entered := map_refreshAll analyze s (e := e) (·.entered) (by simp) (by simp)
  have name : blank (refreshAll analyze e s).entity = blank e :=
    congrArg (fun name => ({ entity := name } : ChangeReport)) (name_perform .refreshAll e s)
  have twice := report_refreshAll steady (refreshAll analyze e s).entity t
  rw [same, name, sweep_congr entered, bne_self_eq_false, ChangeReport.noteChange_false] at twice
  rw [twice, report_refreshAll steady e s]
  exact (ChangeReport.unchanged_noteChange (by simp [blank]) _).symm

end
end Report

section
variable {e : Entity} {i : Nat} {q : Query} (h : e.queries[i]? = some q)
include h

theorem queryIndex?_refreshOne (s : σ) (name : String) :
    (refreshOne analyze e s i).entity.queryIndex? name = e.queryIndex? name :=
  findIdx?_congr Query.name (· == name)
    (map_refreshQueryAt analyze (p := ⟨e, blank e, s⟩) false h (·.name) (by simp) (by simp))

/-- A second refresh of a query leaves it, its siblings and the columns. -/
theorem refreshOne_refreshOne (steady : Steady analyze answer) (s t : σ) :
    (refreshOne analyze (refreshOne analyze e s i).entity t i).entity =
      (refreshOne analyze e s i).entity := by
  have found := getElem?_refreshQueryAt_self steady (p := ⟨e, blank e, s⟩) false h
  have own := renewAt_refreshQueryAt steady (p := ⟨e, blank e, s⟩) false h
  -- no columns change this time, so that no sibling is looked at
  apply refreshQueryAt_eq_self steady (p := ⟨(refreshOne analyze e s i).entity, blank _, t⟩) found
  · rw [Query.command_renew, Query.kind_renew]
    exact own
  · intro cascade
    cases cascade

end

/-- With answers that depend on the command alone, a second refresh changes nothing, whether or not
the names of the queries are distinct: a full refresh reports the same verdicts and no change of the
columns, a refresh of one query finds it again and leaves it, its siblings and the columns as they
are. -/
theorem refresh_idempotent (steady : Steady analyze answer) (e : Entity) (s t : σ) :
    (let once := refreshAll analyze e s
     let twice := refreshAll analyze once.entity t
     twice.entity = once.entity ∧ twice.report = { once.report with columnsChanged := false }) ∧
    ∀ q ∈ e.queries,
      let once := refresh analyze q.name e s
      let twice := refresh analyze q.name once.entity t
      once.result.isOk ∧ twice.result.isOk ∧ twice.entity = once.entity := by
  constructor
  · exact ⟨refreshAll_eq_self steady (current_refreshAll steady e s) t,
      report_refreshAll_refreshAll steady e s t⟩
  · intro q hq
    have known : (e.queryIndex? q.name).isSome :=
      (e.isSome_queryIndex?_iff q.name).2 (List.mem_map_of_mem hq)
    obtain ⟨i, found⟩ := Option.isSome_iff_exists.1 known
    obtain ⟨q₀, hq₀, -⟩ := Entity.exists_of_queryIndex? found
    have once : refresh analyze q.name e s = refreshOne analyze e s i := withQuery_some found
    have twice : refresh analyze q.name (refreshOne analyze e s i).entity t =
        refreshOne analyze (refreshOne analyze e s i).entity t i :=
      withQuery_some ((queryIndex?_refreshOne hq₀ s q.name).trans found)
    simp only [once, twice]
    exact ⟨rfl, rfl, refreshOne_refreshOne hq₀ steady s t⟩

/-- The first refresh changes the columns, with two failures or by the first reader alone; the
second one changes nothing. -/
theorem refresh_idempotent_mixed :
    let once := refreshAll (unmoved fourCommands) mixed ()
    let twice := refreshAll (unmoved fourCommands) once.entity ()
    let loaded := refresh (unmoved fourCommands) "Load" mixed ()
    once.report.columnsChanged = true ∧ once.report.failures.length = 2 ∧
      twice.entity = once.entity ∧ twice.report = { once.report with columnsChanged := false } ∧
      loaded.entity.properties ≠ mixed.properties ∧
      (refresh (unmoved fourCommands) "Load" loaded.entity ()).entity = loaded.entity := by
  obtain ⟨⟨entity, report⟩, single⟩ := refresh_idempotent (steady_unmoved fourCommands) mixed () ()
  obtain ⟨-, -, loaded⟩ := single mixed.queries[1] (List.getElem_mem _)
  exact ⟨by decide +kernel, by decide +kernel, entity, report, by decide +kernel, loaded⟩

end Reconciliation
end EntityDesign
