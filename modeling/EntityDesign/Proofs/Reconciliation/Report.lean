import EntityDesign.Proofs.Reconciliation.Accounting

/-! What a report says of the queries of an entity is so. Every operation accounts for the queries
with the flags that they show in the end, however the answers of the source change on the way. -/
namespace EntityDesign.Reconciliation
variable {σ : Type}

/-- The verdict that is due to a query is the one its flags show. -/
def Shown (_ : Nat) (q : Query) (v : Verdict) : Prop := q.Shows v

/-- The report names each query at most once; the queries in order and the others show it; all of
them are there, and a query that is not named is what it was. -/
structure Truthful (before after : Entity) (r : ChangeReport) : Prop where
  once : r.names.Nodup
  approved : ∀ q ∈ after.queries, q.name ∈ r.ok → q.showError = false ∧ q.showOk = true
  flagged : ∀ q ∈ after.queries, q.name ∈ r.unfit ∨ (∃ f ∈ r.failures, f.query = q.name) →
    q.showError = true ∧ q.showOk = false
  present : ∀ name ∈ r.names, ∃ q ∈ after.queries, q.name = name
  untouched : ∀ (j : Nat) (q : Query), after.queries[j]? = some q → q.name ∉ r.names →
    before.queries[j]? = some q

theorem Accounts.truthful {before after : Entity} {r : ChangeReport}
    (h : Accounts Shown before.queries after.queries r) : Truthful before after r := by
  have present (name : String) (hname : r.Mentions name) :
      ∃ q ∈ after.queries, q.name = name := List.mem_map.1 (h.present name hname)
  have gives {q : Query} (hq : q ∈ after.queries) (hname : r.Mentions q.name) :
      ∃ v, r.Gives q.name v ∧ q.Shows v := by
    obtain ⟨j, hj⟩ := List.mem_iff_getElem?.1 hq
    exact (h.settled j q hj).gives hname
  constructor
  case once =>
    rw [List.nodup_iff_count_le_one]
    intro name
    by_cases hname : name ∈ r.names
    · obtain ⟨q, hq, rfl⟩ := present name (ChangeReport.mem_names_iff.1 hname)
      obtain ⟨v, hv, -⟩ := gives hq (ChangeReport.mem_names_iff.1 hname)
      exact Nat.le_of_eq hv.count_names
    · rw [List.count_eq_zero.2 hname]
      exact Nat.zero_le 1
  case approved =>
    intro q hq hok
    obtain ⟨v, hv, hshows⟩ := gives hq (.inl hok)
    rw [Query.Shows, hv.mem_ok_iff.1 hok] at hshows
    simpa using hshows
  case flagged =>
    intro q hq hflagged
    obtain ⟨v, hv, hshows⟩ := gives hq (.inr hflagged)
    have hne : v ≠ .ok := by
      rintro rfl
      rcases hflagged with hunfit | ⟨f, hf, hname⟩
      · cases hv.mem_unfit_iff.1 hunfit
      · rw [← hname] at hv
        cases (hv.mem_failures_iff f.message).1 hf
    simpa [Query.Shows, hne] using hshows
  case present =>
    exact fun name hname => present name (ChangeReport.mem_names_iff.1 hname)
  case untouched =>
    exact fun j q hq hname =>
      (h.settled j q hq).kept fun hm => hname (ChangeReport.mem_names_iff.2 hm)

section
variable {analyze : Analyzer σ} {e : Entity} {s : σ}

/-- A report with the verdict on an appended query accounts for the queries. -/
theorem accounts_appended {q : Query} {r : ChangeReport} {v : Verdict}
    (distinct : (e.queries.map (·.name)).Nodup) (free : e.queryIndex? q.name = none)
    (silent : ∀ name, ¬r.Mentions name) (shown : q.Shows v) :
    Accounts Shown e.queries (e.appended q).queries (r.record q.name v) := by
  have hq := Entity.getElem?_appended e q
  have hset : (e.appended q).queries.set e.queries.length q = (e.appended q).queries := by
    simp [Entity.appended]
  rw [← hset]
  refine accounts_record (fun name hname => absurd hname (silent name)) (fun j p hj hp => ?_)
    (nodup_appended distinct free) hq rfl (.inl (silent q.name)) shown
  have hlength := (List.getElem?_eq_some_iff.1 hp).1
  simp only [Entity.appended, List.length_append, List.length_singleton] at hlength
  rw [Entity.appended, List.getElem?_append_left (by omega)] at hp
  exact .inr ⟨silent p.name, hp⟩

/-- A refresh of a query that nothing was said about accounts for the queries, whatever the query
was before. -/
theorem accounts_refreshed {i : Nat} {q : Query} {e' : Entity} {cascade : Bool}
    (distinct : (e'.queries.map (·.name)).Nodup) (h : e'.queries[i]? = some q)
    (others : ∀ j q, j ≠ i → e'.queries[j]? = some q → e.queries[j]? = some q) :
    Accounts Shown e.queries (refreshQueryAt analyze i cascade ⟨e', blank e', s⟩).entity.queries
      (refreshQueryAt analyze i cascade ⟨e', blank e', s⟩).report := by
  apply accounts_refreshQueryAt h distinct
  case present => exact fun name hname => absurd hname (not_mentions_blank e' name)
  case others => exact fun j p hj hp => .inr ⟨not_mentions_blank e' p.name, others j p hj hp⟩
  case calm => exact .inl (not_mentions_blank e' q.name)
  case fresh => exact fun p _ => not_mentions_blank e' p.name
  case own => exact Query.shows_renew q _
  case due => exact fun j p t _ _ _ => Query.shows_mark p _

/-- A new query that was found in order is refreshed once more, with whatever answer. -/
theorem accounts_replaced {q : Query} {ps : List Property} {r : ChangeReport} {t : σ}
    {p : Progress σ} (distinct : (e.queries.map (·.name)).Nodup)
    (free : e.queryIndex? q.name = none) (silent : ∀ name, ¬r.Mentions name) (shown : q.Shows .ok)
    (hp : p = refreshQueryAt analyze e.queries.length true
      ⟨Entity.appended { e with properties := ps } q,
        { r.record q.name .ok with suppressed := true }, t⟩) :
    Accounts Shown e.queries p.entity.queries p.report := by
  have hready : Accounts Shown e.queries (e.appended q).queries
      { r.record q.name .ok with suppressed := true } :=
    (accounts_appended distinct free silent shown).congr rfl rfl rfl
  have hgives : ChangeReport.Gives { r.record q.name .ok with suppressed := true } q.name .ok :=
    (ChangeReport.gives_record (silent q.name) .ok).congr rfl rfl rfl
  have hothers := Entity.otherReaders_appended { e with properties := ps } q
  rw [hp]
  apply accounts_refreshQueryAt (Entity.getElem?_appended { e with properties := ps } q)
    (nodup_appended distinct free)
  case present => exact hready.present
  case others => exact fun j p _ hp => hready.settled j p hp
  case calm => exact .inr hgives
  case fresh => exact fun p hp => not_mentions_of_free free silent .ok (hothers ▸ hp)
  case own => exact Query.shows_renew q _
  case due => exact fun j p t _ _ _ => Query.shows_mark p _

theorem accounts_added {draft : Draft} {decide : Question → Bool}
    {o : Outcome σ (ChangeReport × Option Question)} (way : Added analyze draft decide e s o)
    (distinct : (e.queries.map (·.name)).Nodup) {r : ChangeReport} {asked : Option Question}
    (result : o.result = .ok (r, asked)) : Accounts Shown e.queries o.entity.queries r := by
  have ready {sig : Signature} {r : ChangeReport} (free : e.queryIndex? draft.query.name = none)
      (silent : ∀ name, ¬r.Mentions name) : Accounts Shown e.queries
        (e.appended (draft.query.renew (.ok sig))).queries (r.record draft.query.name .ok) :=
    accounts_appended distinct free silent (Query.shows_renew draft.query (.ok sig))
  cases way with
  | taken => cases result
  | failed free answer =>
    cases result
    exact accounts_appended distinct free (not_mentions_blank e) ⟨rfl, rfl⟩
  | kept free answer fits =>
    cases result
    exact ready free (not_mentions_blank e)
  | adopted free answer reader empty =>
    cases result
    exact ready free (not_mentions_blank e)
  | @replaced sig t free answer reader columns differ agreed p refreshed =>
    cases result
    exact accounts_replaced (q := draft.query.renew (.ok sig)) distinct free
      (by exact not_mentions_blank e) (Query.shows_renew draft.query (.ok sig)) refreshed
  | declined =>
    cases result
    exact (accounts_blank e).congr rfl rfl rfl

/-- Every operation accounts for the queries of the entity in its report. -/
theorem accounts_perform {op : Operation} {after : Aftermath σ}
    (way : Performed analyze e s op after) (distinct : (e.queries.map (·.name)).Nodup)
    {r : ChangeReport} (reported : after.report = some r) :
    Accounts Shown e.queries after.entity.queries r := by
  have hall : Accounts Shown e.queries (refreshAll analyze e s).entity.queries
      (refreshAll analyze e s).report :=
    accounts_refreshAll distinct (fun j q t _ _ => Query.shows_renew q _)
      fun j q t _ _ _ => Query.shows_mark q _
  cases way with
  | @added _ _ o way =>
    cases result : o.result with
    | error fault => simp [result, Except.toOption] at reported
    | ok outcome =>
      rw [result, Except.toOption, Option.map_some, Option.some.injEq] at reported
      exact accounts_added way distinct (result.trans (by rw [← reported]))
  | missing | deleted => cases reported
  | @edited name draft i q found hq =>
    cases reported
    obtain ⟨hi, -⟩ := List.getElem?_eq_some_iff.1 hq
    refine accounts_refreshed (nodup_redefined distinct hq draft) (List.getElem?_set_self hi)
      fun j p hj hp => ?_
    rwa [Entity.redefined, List.getElem?_set_ne (Ne.symm hj)] at hp
  | refreshed found hq =>
    cases reported
    exact accounts_refreshed distinct hq fun j p _ hp => hp
  | swept first hq =>
    cases reported
    rw [refreshAll_eq, first] at hall
    exact hall
  | renewed readerless =>
    cases reported
    rw [refreshAll_eq, readerless] at hall
    exact hall

end

/-- Whatever an operation reports about an entity whose queries have distinct names is so, also
when the source answers the same question differently during the operation. -/
theorem report_truthful (analyze : Analyzer σ) (op : Operation) (e : Entity) (s : σ)
    (distinct : (e.queries.map (·.name)).Nodup) {r : ChangeReport}
    (reported : (op.perform analyze e s).report = some r) :
    Truthful e (op.perform analyze e s).entity r :=
  (accounts_perform (performed analyze op e s) distinct reported).truthful

/-- A source that gives no answer to the second question it is asked. -/
def faltering (answer : String → CommandKind → Answer) : Analyzer Nat := fun command kind n =>
  (if n = 1 then .error (.database "connection lost") else answer command kind, n + 1)

/-- Two commands with one column each. -/
def aOrB : String → CommandKind → Answer :=
  listed [("SELECT A FROM T", [⟨"A", "int", "Int32", false⟩]),
    ("SELECT B FROM T", [⟨"B", "int", "Int32", false⟩])]

/-- An entity with the column of the first command. -/
def holdsA : Entity :=
  { name := "Item"
    properties := [⟨"A", "int", "Int32"⟩]
    queries := [⟨"Load", "SELECT A FROM T", .text, .reader, [], false, true, false⟩] }

/-- The second command in a new reader, whose columns shall win. -/
def addB : Operation := .add ⟨"Other", "SELECT B FROM T", .text, .reader⟩ fun _ => true

/-- The new reader is in order at first and then cannot be analyzed once more; the old one is unfit
for its columns. -/
theorem report_truthful_faltering :
    ∃ r, (addB.perform (faltering aOrB) holdsA 0).report = some r ∧ r.ok = [] ∧
      r.unfit = ["Load"] ∧ r.failures = [⟨"Other", "connection lost"⟩] ∧
      Truthful holdsA (addB.perform (faltering aOrB) holdsA 0).entity r :=
  ⟨_, rfl, by decide +kernel, by decide +kernel, by decide +kernel,
    report_truthful (faltering aOrB) addB holdsA 0 (by decide) rfl⟩

end EntityDesign.Reconciliation
