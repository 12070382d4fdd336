import EntityDesign.Proofs.Reconciliation.Session

/-! Reports account for the queries. One step sets a query and records its verdict; a pass is such
steps at different positions, and an operation is made of passes and single steps. In the end every
query that is named has its verdict, and every other one is as it was. -/
namespace EntityDesign

namespace ChangeReport

/-- All names in the lists of a report. -/
def names (r : ChangeReport) : List String := r.ok ++ r.unfit ++ r.failures.map (·.query)

theorem mem_names_iff {r : ChangeReport} {query : String} : query ∈ r.names ↔ r.Mentions query := by
  simp [names, Mentions]

namespace Gives
variable {r : ChangeReport} {query : String} {v : Verdict} (h : r.Gives query v)
include h

/-- What a report gives depends on its lists only. -/
theorem congr {r' : ChangeReport} (ok : r'.ok = r.ok) (unfit : r'.unfit = r.unfit)
    (failures : r'.failures = r.failures) : r'.Gives query v := by
  refine ⟨?_, ?_, ?_⟩
  · rw [ok, h.ok]
  · rw [unfit, h.unfit]
  · rw [failures, h.failures]

theorem mem_ok_iff : query ∈ r.ok ↔ v = .ok := by
  rw [← List.count_pos_iff, h.ok]
  split <;> simp [*]

theorem mem_unfit_iff : query ∈ r.unfit ↔ v = .unfit := by
  rw [← List.count_pos_iff, h.unfit]
  split <;> simp [*]

theorem mem_failures_iff (message : String) :
    (⟨query, message⟩ : Failure) ∈ r.failures ↔ v = .failed message := by
  have hfilter : (⟨query, message⟩ : Failure) ∈ r.failures ↔
      (⟨query, message⟩ : Failure) ∈ r.failures.filter (·.query == query) := by simp
  rw [hfilter, h.failures]
  cases v <;> simp [Verdict.failures, eq_comm]

/-- A query with a verdict is named once in all. -/
theorem count_names : r.names.count query = 1 := by
  have hfailures : (r.failures.map (·.query)).count query = (v.failures query).length := by
    rw [← h.failures, List.count, List.countP_map, List.countP_eq_length_filter]
    rfl
  rw [names, List.count_append, List.count_append, h.ok, h.unfit, hfailures]
  cases v <;> rfl

end Gives

/-- A query that was found in order before gets its new verdict. -/
theorem gives_record_of_ok {r : ChangeReport} {query : String} (h : r.Gives query .ok)
    (v : Verdict) : (r.record query v).Gives query v := by
  have hmem : query ∈ r.ok := h.mem_ok_iff.2 rfl
  have hunfit : query ∉ r.unfit := fun hm => by simpa using h.mem_unfit_iff.1 hm
  have hdropped : (r.ok.filter (· != query)).count query = 0 := List.count_eq_zero.2 (by simp)
  have hfailures : r.failures.filter (·.query == query) = [] := h.failures
  have hcount : r.unfit.count query = 0 := List.count_eq_zero.2 hunfit
  cases v with
  | ok => simpa [record, addOk, hmem] using h
  | unfit =>
    constructor <;>
      simp [record, addUnfit, dropOk, hunfit, hdropped, hcount, hfailures, Verdict.failures]
  | failed message =>
    constructor <;> simp [record, addFailure, dropOk, hdropped, hcount, hfailures, Verdict.failures]

end ChangeReport

/-- The flags of the query are those of the verdict. -/
def Query.Shows (q : Query) (v : Verdict) : Prop :=
  q.showError = decide (v ≠ .ok) ∧ q.showOk = decide (v = .ok)

theorem Query.shows_mark (q : Query) (v : Verdict) : (q.mark v).Shows v := by
  cases v <;> exact ⟨rfl, rfl⟩

theorem Query.shows_renew (q : Query) (a : Answer) : (q.renew a).Shows (.ofAnswer a) := by
  cases a <;> exact ⟨rfl, rfl⟩

namespace Reconciliation
variable {σ : Type}

/-- A query at a position is settled if it has a verdict that is due there, or is not named and
stands as before. -/
def Settled (Due : Nat → Query → Verdict → Prop) (before : List Query) (r : ChangeReport) (j : Nat)
    (q : Query) : Prop :=
  (∃ v, r.Gives q.name v ∧ Due j q v) ∨ (¬r.Mentions q.name ∧ before[j]? = some q)

/-- A report accounts for a list of queries if it names no others and all of them are settled. -/
structure Accounts (Due : Nat → Query → Verdict → Prop) (before after : List Query)
    (r : ChangeReport) : Prop where
  present : ∀ name, r.Mentions name → name ∈ after.map (·.name)
  settled : ∀ j q, after[j]? = some q → Settled Due before r j q

section
variable {Due : Nat → Query → Verdict → Prop} {before : List Query}

theorem Settled.gives {r : ChangeReport} {j : Nat} {q : Query} (h : Settled Due before r j q)
    (named : r.Mentions q.name) : ∃ v, r.Gives q.name v ∧ Due j q v :=
  h.resolve_right fun hkept => hkept.1 named

theorem Settled.kept {r : ChangeReport} {j : Nat} {q : Query} (h : Settled Due before r j q)
    (unnamed : ¬r.Mentions q.name) : before[j]? = some q := by
  rcases h with ⟨v, hgives, -⟩ | ⟨-, hq⟩
  · exact absurd hgives.mentions unnamed
  · exact hq

/-- A report without verdicts accounts for queries that stand as before. -/
theorem accounts_blank (e : Entity) : Accounts Due before before (blank e) where
  present name hname := absurd hname (not_mentions_blank e name)
  settled _ q hq := .inr ⟨not_mentions_blank e q.name, hq⟩

theorem Accounts.congr {after : List Query} {r r' : ChangeReport} (h : Accounts Due before after r)
    (ok : r'.ok = r.ok) (unfit : r'.unfit = r.unfit) (failures : r'.failures = r.failures) :
    Accounts Due before after r' := by
  have hmentions (name : String) : r'.Mentions name ↔ r.Mentions name := by
    rw [ChangeReport.Mentions, ok, unfit, failures]
    rfl
  refine ⟨fun name hname => h.present name ((hmentions name).1 hname), fun j q hq => ?_⟩
  rcases h.settled j q hq with ⟨v, hgives, due⟩ | ⟨unnamed, hbefore⟩
  · exact .inl ⟨v, hgives.congr ok unfit failures, due⟩
  · exact .inr ⟨fun hm => unnamed ((hmentions _).1 hm), hbefore⟩

theorem Accounts.noteChange {after : List Query} {r : ChangeReport}
    (h : Accounts Due before after r) (changed : Bool) :
    Accounts Due before after (r.noteChange changed) := by
  cases changed with
  | false => exact h
  | true => exact h.congr rfl rfl rfl

/-- A step sets one query and records its verdict, whatever the query was before. -/
theorem accounts_record {qs : List Query} {r : ChangeReport} {i : Nat} {q q' : Query} {v : Verdict}
    (present : ∀ name, r.Mentions name → name ∈ qs.map (·.name))
    (others : ∀ j q, j ≠ i → qs[j]? = some q → Settled Due before r j q)
    (distinct : (qs.map (·.name)).Nodup) (hq : qs[i]? = some q) (same : q'.name = q.name)
    (calm : ¬r.Mentions q.name ∨ r.Gives q.name .ok) (due : Due i q' v) :
    Accounts Due before (qs.set i q') (r.record q.name v) := by
  obtain ⟨hi, hget⟩ := List.getElem?_eq_some_iff.1 hq
  constructor
  · intro name hname
    rw [map_set_of_eq (·.name) hq same]
    rcases (ChangeReport.mentions_record r q.name name v).1 hname with rfl | hname
    · exact List.mem_map_of_mem (List.mem_of_getElem? hq)
    · exact present name hname
  · intro j p hp
    by_cases hj : i = j
    · rw [← hj, List.getElem?_set_self hi, Option.some.injEq] at hp
      subst hp hj
      refine .inl ⟨v, ?_, due⟩
      rw [same]
      exact calm.elim (ChangeReport.gives_record · v) (ChangeReport.gives_record_of_ok · v)
    · rw [List.getElem?_set_ne hj] at hp
      have hne := Entity.name_ne_of_ne distinct hq hp hj
      rcases others j p (Ne.symm hj) hp with ⟨w, hgives, hdue⟩ | ⟨unnamed, hbefore⟩
      · exact .inl ⟨w, (ChangeReport.gives_record_of_ne hne r v w).2 hgives, hdue⟩
      · refine .inr ⟨?_, hbefore⟩
        rw [ChangeReport.mentions_record, not_or]
        exact ⟨hne, unnamed⟩

/-- A pass records a verdict for each query that it picks. None of them may be named before. -/
theorem accounts_visit (pick : Nat → Query → Bool)
    (f : Query → ChangeReport → σ → Query × ChangeReport × σ)
    (step : ∀ j q r s, pick j q = true → before[j]? = some q →
      ∃ v, (f q r s).2.1 = r.record q.name v ∧ (f q r s).1.name = q.name ∧ Due j (f q r s).1 v)
    (done qs : List Query) (r : ChangeReport) (s : σ) (h : Accounts Due before (done ++ qs) r)
    (distinct : ((done ++ qs).map (·.name)).Nodup)
    (fresh : ∀ q ∈ picked pick done.length qs, ¬r.Mentions q.name) :
    Accounts Due before (done ++ (visit pick f done.length qs r s).1)
      (visit pick f done.length qs r s).2.1 := by
  induction qs generalizing done r s with
  | nil => exact h
  | cons q qs ih =>
    by_cases hpick : pick done.length q
    · simp only [picked, hpick, ↓reduceIte, List.forall_mem_cons] at fresh
      obtain ⟨hfresh, hrest⟩ := fresh
      have hq : (done ++ q :: qs)[done.length]? = some q := by simp
      obtain ⟨v, hreport, same, due⟩ :=
        step done.length q r s hpick ((h.settled _ q hq).kept hfresh)
      have hset : (done ++ q :: qs).set done.length (f q r s).1 =
          (done ++ [(f q r s).1]) ++ qs := by simp
      have hnext := accounts_record h.present (fun j p _ => h.settled j p) distinct hq same
        (.inl hfresh) due
      rw [hset, ← hreport] at hnext
      have hnames : ((done ++ [(f q r s).1]) ++ qs).map (·.name) =
          (done ++ q :: qs).map (·.name) := by simp [same]
      have hlast := ih _ _ (f q r s).2.2 hnext (hnames ▸ distinct) fun p hp => by
        rw [List.length_append, List.length_singleton] at hp
        rw [hreport, ChangeReport.mentions_record, not_or]
        have hmem : p ∈ qs := (picked_sublist pick _ qs).subset hp
        rw [List.map_append, List.nodup_append, List.map_cons, List.nodup_cons] at distinct
        exact ⟨fun heq => distinct.2.1.1 (List.mem_map.2 ⟨p, hmem, heq⟩), hrest p hp⟩
      simpa [visit, hpick] using hlast
    · have hlast := ih (done ++ [q]) r s (by simpa using h)
        (by simpa using distinct) (by simpa [picked, hpick] using fresh)
      simpa [visit, hpick] using hlast

section
variable {analyze : Analyzer σ} {i : Nat} {q : Query} {p : Progress σ} {cascade : Bool}

/-- A recheck accounts for all queries if none of the other readers was named before. -/
theorem accounts_recheckReaders (h : Accounts Due before p.entity.queries p.report)
    (distinct : (p.entity.queries.map (·.name)).Nodup)
    (fresh : ∀ q ∈ p.entity.otherReaders i, ¬p.report.Mentions q.name)
    (due : ∀ j q s, j ≠ i → q.isReader = true → before[j]? = some q →
      Due j (q.mark (p.entity.verdict (analyze q.command q.kind s).1))
        (p.entity.verdict (analyze q.command q.kind s).1)) :
    Accounts Due before (recheckReaders analyze i p).entity.queries
      (recheckReaders analyze i p).report := by
  refine accounts_visit (fun j q => j != i && q.isReader) (recheck analyze p.entity)
    (fun j q r s hpick hq => ?_) [] p.entity.queries p.report p.source h distinct ?_
  · rw [Bool.and_eq_true, bne_iff_ne] at hpick
    rw [recheck_eq]
    exact ⟨_, rfl, Query.name_mark q _, due j q s hpick.1 hpick.2 hq⟩
  · rw [List.length_nil, picked_others]
    exact fresh

/-- A refresh accounts for all queries if the others are settled and none of the other readers was
named before. -/
theorem accounts_refreshQueryAt (h : p.entity.queries[i]? = some q)
    (distinct : (p.entity.queries.map (·.name)).Nodup)
    (present : ∀ name, p.report.Mentions name → name ∈ p.entity.queries.map (·.name))
    (others : ∀ j q, j ≠ i → p.entity.queries[j]? = some q → Settled Due before p.report j q)
    (calm : ¬p.report.Mentions q.name ∨ p.report.Gives q.name .ok)
    (fresh : ∀ q ∈ p.entity.otherReaders i, ¬p.report.Mentions q.name)
    (own : Due i (q.renew (analyze q.command q.kind p.source).1)
      (.ofAnswer (analyze q.command q.kind p.source).1))
    (due : ∀ j q' s, j ≠ i → q'.isReader = true → before[j]? = some q' →
      Due j (q'.mark ((renewed analyze i q p).entity.verdict (analyze q'.command q'.kind s).1))
        ((renewed analyze i q p).entity.verdict (analyze q'.command q'.kind s).1)) :
    Accounts Due before (refreshQueryAt analyze i cascade p).entity.queries
      (refreshQueryAt analyze i cascade p).report := by
  have hrenewed : Accounts Due before (renewed analyze i q p).entity.queries
      (renewed analyze i q p).report :=
    (accounts_record present others distinct h (Query.name_renew q _) calm own).noteChange _
  rw [refreshQueryAt_eq analyze cascade h]
  split
  · refine accounts_recheckReaders hrenewed ?_ (fun q' hq' => ?_) due
    · rw [renewed, Entity.map_renewAt (·.name) (by simp) h]
      exact distinct
    · simp only [renewed, Entity.otherReaders_renewAt] at hq'
      rw [renewed, ChangeReport.mentions_noteChange, ChangeReport.mentions_record, not_or]
      exact ⟨Entity.name_ne_of_mem_otherReaders distinct h hq', fresh q' hq'⟩
  · exact hrenewed

/-- The first pass of a full refresh accounts for all queries. -/
theorem accounts_renewOthers {e : Entity} {s : σ} (distinct : (e.queries.map (·.name)).Nodup)
    (due : ∀ j q s, q.isReader = false → e.queries[j]? = some q →
      Due j (q.renew (analyze q.command q.kind s).1)
        (.ofAnswer (analyze q.command q.kind s).1)) :
    Accounts Due e.queries (renewOthers analyze e s).entity.queries
      (renewOthers analyze e s).report := by
  refine accounts_visit (fun _ q => !q.isReader) (fun q r s => (reanalyze analyze q r s).2)
    (fun j q r s hpick hq => ?_) [] e.queries (blank e) s (accounts_blank e) distinct
    fun q _ => not_mentions_blank e q.name
  rw [reanalyze_eq]
  exact ⟨_, rfl, Query.name_renew q _, due j q s (by simpa using hpick) hq⟩

/-- A full refresh accounts for all queries. The first reader and the queries that are no readers
are renewed, and the other readers are marked by the columns that the entity has then. -/
theorem accounts_refreshAll {e : Entity} {s : σ} (distinct : (e.queries.map (·.name)).Nodup)
    (renews : ∀ j q t, q.isReader = false ∨ e.queries.findIdx? (·.isReader) = some j →
      e.queries[j]? = some q → Due j (q.renew (analyze q.command q.kind t).1)
        (.ofAnswer (analyze q.command q.kind t).1))
    (marks : ∀ j q t, q.isReader = true → e.queries.findIdx? (·.isReader) ≠ some j →
      e.queries[j]? = some q →
      Due j (q.mark ((refreshAll analyze e s).entity.verdict (analyze q.command q.kind t).1))
        ((refreshAll analyze e s).entity.verdict (analyze q.command q.kind t).1)) :
    Accounts Due e.queries (refreshAll analyze e s).entity.queries
      (refreshAll analyze e s).report := by
  have names := map_renewOthers analyze (·.name) (by simp) e s
  have pass : Accounts Due e.queries (renewOthers analyze e s).entity.queries
      (renewOthers analyze e s).report :=
    accounts_renewOthers distinct fun j q t other hq => renews j q t (.inl other) hq
  have way := refreshedAll analyze e s
  generalize refreshAll analyze e s = p at way marks ⊢
  cases way with
  | readerless => exact pass
  | @led i q first hbefore reader hq =>
    refine accounts_refreshQueryAt hq (names ▸ distinct) pass.present
      (fun j q _ => pass.settled j q) ?_ (fun q' hq' => ?_) (renews i q _ (.inr first) hbefore)
      (fun j q' t hj reader' hq' => ?_)
    · left
      exact not_mentions_renewOthers analyze distinct s (List.mem_of_getElem? hq) reader
    · obtain ⟨hmem, reader'⟩ := List.mem_filter.1 hq'
      exact not_mentions_renewOthers analyze distinct s (List.mem_of_mem_eraseIdx hmem) reader'
    · have same (a : Answer) :
          (refreshQueryAt analyze i true (renewOthers analyze e s)).entity.verdict a =
            (renewed analyze i q (renewOthers analyze e s)).entity.verdict a :=
        Entity.verdict_congr (properties_refreshQueryAt analyze true hq) a
      rw [← same]
      exact marks j q' t reader' (by simpa [first] using Ne.symm hj) hq'

end
end
end Reconciliation
end EntityDesign
