import EntityDesign.Proofs.Reconciliation.Accounting

/-! Refreshing everything, with answers that depend on the command alone. Each query gets one
verdict: the first reader and the queries that are no readers by their answers alone, the other
readers by the columns that the entity has in the end. -/
namespace EntityDesign

/-- The reader that defines the columns. -/
def Entity.firstReader? (e : Entity) : Option Query := e.queries.find? (·.isReader)

theorem Entity.firstReader?_eq (e : Entity) :
    e.firstReader? = (e.queries.findIdx? (·.isReader)).bind (e.queries[·]?) :=
  List.find?_eq_bind_findIdx?_getElem?

namespace Reconciliation
variable {σ : Type}

section Pass
variable (analyze : Analyzer σ) {e : Entity} (s : σ)

/-- A full refresh names every query. -/
theorem mentions_refreshAll {q : Query} (hq : q ∈ e.queries) :
    (refreshAll analyze e s).report.Mentions q.name := by
  have others (other : q.isReader = false) : (renewOthers analyze e s).report.Mentions q.name := by
    rw [mentions_renewOthers]
    exact List.mem_map_of_mem (List.mem_filter.2 ⟨hq, by simp [other]⟩)
  have way := refreshedAll analyze e s
  generalize refreshAll analyze e s = p at way ⊢
  cases way with
  | readerless first => exact others (by simpa using List.findIdx?_eq_none_iff.1 first q hq)
  | @led i lead first hlead reader hpass =>
    rw [mentions_refreshQueryAt_cascade analyze hpass]
    by_cases reader' : q.isReader
    · obtain ⟨j, hj⟩ := List.mem_iff_getElem?.1 hq
      by_cases hji : j = i
      · subst hji
        cases hj.symm.trans hlead
        exact .inr (.inl rfl)
      · refine .inl (List.mem_map_of_mem (List.mem_filter.2 ⟨?_, reader'⟩))
        rw [List.mem_eraseIdx_iff_getElem?]
        exact ⟨j, hji, renewOthers_getElem?_of_reader analyze s hj reader'⟩
    · exact .inr (.inr (others (by simpa using reader')))

/-- A full refresh notes whether it changed the columns. -/
theorem columnsChanged_refreshAll : (refreshAll analyze e s).report.columnsChanged =
    ((refreshAll analyze e s).entity.properties != e.properties) := by
  have pass : (renewOthers analyze e s).report.columnsChanged = false := by
    rw [report_renewOthers, ChangeReport.columnsChanged_recordAll]
    rfl
  have way := refreshedAll analyze e s
  generalize refreshAll analyze e s = p at way ⊢
  cases way with
  | readerless => simp [pass]
  | led first hq reader hpass =>
    rw [columnsChanged_refreshQueryAt analyze true hpass, pass, Bool.false_or,
      properties_renewOthers]

/-- A full refresh keeps of each query what an analysis keeps. -/
theorem map_refreshAll {β : Type} (g : Query → β) (marked : ∀ q v, g (q.mark v) = g q)
    (kept : ∀ q a, g (q.renew a) = g q) :
    (refreshAll analyze e s).entity.queries.map g = e.queries.map g := by
  have pass := map_renewOthers analyze g kept e s
  have way := refreshedAll analyze e s
  generalize refreshAll analyze e s = p at way ⊢
  cases way with
  | readerless => exact pass
  | led first hq reader hpass =>
    exact (map_refreshQueryAt analyze true hpass g marked kept).trans pass

end Pass

section
variable {analyze : Analyzer σ} {answer : String → CommandKind → Answer}

/-- The columns are those of the first reader, if it could be analyzed, else they stay. -/
theorem properties_refreshAll (steady : Steady analyze answer) (e : Entity) (s : σ) :
    (refreshAll analyze e s).entity.properties = match e.firstReader? with
      | some q => e.propertiesAfter q (answer q.command q.kind)
      | none => e.properties := by
  rw [Entity.firstReader?_eq]
  have way := refreshedAll analyze e s
  generalize refreshAll analyze e s = p at way ⊢
  cases way with
  | readerless first =>
    rw [first]
    rfl
  | led first hq reader hpass =>
    rw [properties_refreshQueryAt analyze true hpass, steady, first, Option.bind_some, hq]
    rfl

/-- How a query of the entity `e` comes out of a full refresh that ends in `after`. -/
inductive Emerges (answer : String → CommandKind → Answer) (e after : Entity) (q : Query) :
    Query → Verdict → Prop
  /-- By its answer alone. -/
  | renewed (leading : q.isReader = false ∨ e.firstReader? = some q) :
    Emerges answer e after q (q.renew (answer q.command q.kind))
      (.ofAnswer (answer q.command q.kind))
  /-- By the columns in the end. -/
  | marked (reader : q.isReader = true) (following : e.firstReader? ≠ some q) :
    Emerges answer e after q (q.mark (after.verdict (answer q.command q.kind)))
      (after.verdict (answer q.command q.kind))

/-- The report of a full refresh gives the queries the verdicts with which they emerge. -/
theorem accounts_emerging (steady : Steady analyze answer) {e : Entity} (s : σ)
    (distinct : (e.queries.map (·.name)).Nodup) :
    Accounts (fun j q' v => ∃ q, e.queries[j]? = some q ∧
      Emerges answer e (refreshAll analyze e s).entity q q' v) e.queries
      (refreshAll analyze e s).entity.queries (refreshAll analyze e s).report := by
  refine accounts_refreshAll distinct (fun j q t leading hq => ⟨q, hq, ?_⟩)
    fun j q t reader following hq => ⟨q, hq, ?_⟩
  · rw [steady]
    refine .renewed (leading.imp_right fun first => ?_)
    rw [Entity.firstReader?_eq, first, Option.bind_some, hq]
  · rw [steady]
    refine .marked reader fun first => ?_
    rw [Entity.firstReader?_eq, Option.bind_eq_some_iff] at first
    obtain ⟨i, hi, hq'⟩ := first
    refine following (hi.trans (congrArg some ?_))
    by_contra hne
    exact Entity.name_ne_of_ne distinct hq' hq hne rfl

/-- Every query of the entity emerges and has its verdict in the report. -/
theorem emerges_refreshAll (steady : Steady analyze answer) {e : Entity} (s : σ)
    (distinct : (e.queries.map (·.name)).Nodup) {j : Nat} {q : Query}
    (h : e.queries[j]? = some q) :
    ∃ q' v, (refreshAll analyze e s).entity.queries[j]? = some q' ∧
      (refreshAll analyze e s).report.Gives q.name v ∧
      Emerges answer e (refreshAll analyze e s).entity q q' v := by
  have accounts := accounts_emerging steady s distinct
  have names := congrArg (·[j]?) (map_refreshAll analyze s (e := e) (·.name) (by simp) (by simp))
  simp only [List.getElem?_map, h, Option.map_some, Option.map_eq_some_iff] at names
  obtain ⟨q', hq', same⟩ := names
  have named := mentions_refreshAll analyze s (List.mem_of_getElem? h)
  obtain ⟨v, hv, q₀, hq₀, emerges⟩ := (accounts.settled j q' hq').gives (same ▸ named)
  cases h.symm.trans hq₀
  exact ⟨q', v, hq', same ▸ hv, emerges⟩

/-- What a full refresh makes of the entity `e` and reports, complete and exact. -/
structure Swept (answer : String → CommandKind → Answer) (e after : Entity) (r : ChangeReport) :
    Prop where
  once : ∀ q ∈ e.queries, r.names.count q.name = 1
  present : ∀ name ∈ r.names, ∃ q ∈ e.queries, q.name = name
  failed : ∀ q ∈ e.queries, ∀ message, (⟨q.name, message⟩ : Failure) ∈ r.failures ↔
    ∃ fault, answer q.command q.kind = .error fault ∧ fault.message = message
  adopted : ∀ q sig, e.firstReader? = some q → answer q.command q.kind = .ok sig →
    after.properties = sig.columns.map .ofColumn
  kept : (∀ q sig, e.firstReader? = some q → answer q.command q.kind ≠ .ok sig) →
    after.properties = e.properties
  changed : r.columnsChanged = true ↔ after.properties ≠ e.properties
  renewed : ∀ (j : Nat) (q : Query), e.queries[j]? = some q →
    (q.isReader = false ∨ e.firstReader? = some q) →
      after.queries[j]? = some (q.renew (answer q.command q.kind)) ∧
      (q.name ∈ r.ok ↔ ∃ sig, answer q.command q.kind = .ok sig) ∧ q.name ∉ r.unfit
  marked : ∀ (j : Nat) (q : Query), e.queries[j]? = some q → q.isReader = true →
    e.firstReader? ≠ some q →
      after.queries[j]? = some (q.mark (after.verdict (answer q.command q.kind))) ∧
      (q.name ∈ r.ok ↔
        ∃ sig, answer q.command q.kind = .ok sig ∧ after.mismatches sig false = []) ∧
      (q.name ∈ r.unfit ↔
        ∃ sig, answer q.command q.kind = .ok sig ∧ after.mismatches sig false ≠ [])

/-- With answers that depend on the command alone, a full refresh of an entity whose queries have
distinct names is complete and exact. -/
theorem refreshAll_exact (steady : Steady analyze answer) (e : Entity) (s : σ)
    (distinct : (e.queries.map (·.name)).Nodup) :
    Swept answer e (refreshAll analyze e s).entity (refreshAll analyze e s).report := by
  have properties := properties_refreshAll steady e s
  have emerges {j : Nat} {q : Query} (hq : e.queries[j]? = some q) :=
    emerges_refreshAll steady s distinct hq
  constructor
  case once =>
    intro q hq
    obtain ⟨j, hj⟩ := List.mem_iff_getElem?.1 hq
    obtain ⟨q', v, -, hv, -⟩ := emerges hj
    exact hv.count_names
  case present =>
    intro name hname
    have hafter := (accounts_emerging steady s distinct).present name
      (ChangeReport.mem_names_iff.1 hname)
    rw [map_refreshAll analyze s (·.name) (by simp) (by simp)] at hafter
    exact List.mem_map.1 hafter
  case failed =>
    intro q hq message
    obtain ⟨j, hj⟩ := List.mem_iff_getElem?.1 hq
    obtain ⟨q', v, -, hv, hemerges⟩ := emerges hj
    rw [hv.mem_failures_iff]
    cases hemerges with
    | renewed => exact Verdict.ofAnswer_eq_failed_iff _ message
    | marked => exact Entity.verdict_eq_failed_iff _ _ message
  case adopted =>
    intro q sig first answered
    have reader : q.isReader = true := by simpa using List.find?_some first
    rw [properties, first]
    simp [answered, Entity.propertiesAfter, reader]
  case kept =>
    intro unanswered
    rw [properties]
    cases first : e.firstReader? with
    | none => rfl
    | some q =>
      cases answered : answer q.command q.kind with
      | ok sig => exact absurd answered (unanswered q sig first)
      | error fault => simp [answered, Entity.propertiesAfter]
  case changed =>
    rw [columnsChanged_refreshAll, bne_iff_ne]
  case renewed =>
    intro j q hq leading
    obtain ⟨q', v, hq', hv, hemerges⟩ := emerges hq
    cases hemerges with
    | renewed =>
      rw [hv.mem_ok_iff, hv.mem_unfit_iff]
      exact ⟨hq', Verdict.ofAnswer_eq_ok_iff _, Verdict.ofAnswer_ne_unfit _⟩
    | marked reader following => simp [reader, following] at leading
  case marked =>
    intro j q hq reader following
    obtain ⟨q', v, hq', hv, hemerges⟩ := emerges hq
    cases hemerges with
    | renewed leading => simp [reader, following] at leading
    | marked =>
      rw [hv.mem_ok_iff, hv.mem_unfit_iff]
      exact ⟨hq', Entity.verdict_eq_ok_iff _ _, Entity.verdict_eq_unfit_iff _ _⟩

end

/-- Answers to four commands of a sample source; other commands fail. -/
def fourCommands : String → CommandKind → Answer :=
  listed [("DELETE FROM T", []), ("SELECT A FROM T", [⟨"A", "int", "Int32", false⟩]),
    ("SELECT B FROM T", [⟨"B", "int", "Int32", false⟩]),
    ("SELECT A FROM U", [⟨"A", "int", "Int16", false⟩])]

/-- A query of each kind: the first reader has columns other than those of the entity, one of the
readers after it fits them. -/
def mixed : Entity :=
  { name := "Item"
    properties := [⟨"B", "int", "Int32"⟩]
    queries := [{ name := "Gone", command := "DELETE FROM U", kind := .text, execution := .scalar },
      { name := "Load", command := "SELECT A FROM T", kind := .text, execution := .reader },
      { name := "Old", command := "SELECT B FROM T", kind := .text, execution := .reader },
      { name := "Lost", command := "SELECT C FROM T", kind := .text, execution := .reader },
      { name := "Purge", command := "DELETE FROM T", kind := .text, execution := .nonQuery },
      { name := "Same", command := "SELECT A FROM U", kind := .text, execution := .reader }] }

/-- Refreshing it names the queries in all three lists. -/
theorem refreshAll_exact_mixed :
    let after := refreshAll (unmoved fourCommands) mixed ()
    after.entity.properties = [⟨"A", "int", "Int32"⟩] ∧
      after.report.ok = ["Purge", "Load", "Same"] ∧ after.report.unfit = ["Old"] ∧
      after.report.failures = [⟨"Gone", "unknown command"⟩, ⟨"Lost", "unknown command"⟩] ∧
      Swept fourCommands mixed after.entity after.report :=
  ⟨by decide +kernel, by decide +kernel, by decide +kernel, by decide +kernel,
    refreshAll_exact (steady_unmoved fourCommands) mixed () (by decide)⟩

end Reconciliation
end EntityDesign
