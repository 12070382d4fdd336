import EntityDesign.Proofs.InPlace
import EntityDesign.Proofs.Naming
import EntityDesign.Proofs.Reconciliation.Refresh

/-! The operations on an entity, each with all it can do: the ways of an addition, an edit as a
redefinition with a refresh, a refresh of everything as a pass over the other queries with a
refresh of the first reader. -/
namespace EntityDesign

namespace Entity

theorem exists_of_queryIndex? {e : Entity} {name : String} {i : Nat}
    (h : e.queryIndex? name = some i) : ∃ q, e.queries[i]? = some q ∧ q.name = name :=
  exists_of_findIdx?_key h

theorem queryIndex?_eq_none_iff {e : Entity} {name : String} :
    e.queryIndex? name = none ↔ ∀ q ∈ e.queries, q.name ≠ name := by
  simp [queryIndex?]

/-- The entity with one query more. -/
def appended (e : Entity) (q : Query) : Entity := { e with queries := e.queries ++ [q] }

theorem addQuery_eq {e : Entity} {q : Query} (free : e.queryIndex? q.name = none) :
    e.addQuery q = .ok (e.appended q) := by
  simp [addQuery_eq_ite, free, appended]

theorem getElem?_appended (e : Entity) (q : Query) :
    (e.appended q).queries[e.queries.length]? = some q := by simp [appended]

/-- The name and the position of an entity. -/
def place (e : Entity) : String × Int32 × Int32 := (e.name, e.x, e.y)

/-- Without a reader an entity loses its columns only. -/
theorem place_dropOrphanedColumns (e : Entity) : e.dropOrphanedColumns.place = e.place := by
  rw [dropOrphanedColumns]
  split <;> rfl

@[simp] theorem queries_dropOrphanedColumns (e : Entity) :
    e.dropOrphanedColumns.queries = e.queries := by
  rw [dropOrphanedColumns]
  split <;> rfl

@[simp] theorem otherReaders_appended (e : Entity) (q : Query) :
    (e.appended q).otherReaders e.queries.length = e.readers := by
  simp [otherReaders, appended, readers, List.eraseIdx_append_of_length_le]

end Entity

/-- What a draft makes of an existing query; a name that is taken is ignored. -/
def Draft.redefine (d : Draft) (taken : Bool) (q : Query) : Query :=
  { q with
    name := if taken then q.name else Identifier.sanitize d.name
    command := d.command, kind := d.kind, execution := d.execution }

/-- The entity with the query `q` at an index redefined by a draft. -/
def Entity.redefined (e : Entity) (index : Nat) (q : Query) (d : Draft) : Entity :=
  let taken := (e.queryIndex? (Identifier.sanitize d.name)).isSome
  { e with queries := e.queries.set index (d.redefine taken q) }

/-- A redefinition is a rename to a name that is free, or none. -/
theorem Entity.naming_redefined {e e' : Entity} {i : Nat} {q : Query}
    (hq : e.queries[i]? = some q) (draft : Draft)
    (h : e'.queryNames = (e.redefined i q draft).queryNames) :
    Naming Entity.queryNames (some draft.name) e e' := by
  by_cases used : Identifier.sanitize draft.name ∈ e.queryNames
  · have taken := (e.isSome_queryIndex?_iff (Identifier.sanitize draft.name)).2 used
    have hname : (draft.redefine true q).name = q.name := rfl
    refine .kept (h.trans ?_) fun text given => ?_
    · simp only [Entity.redefined, taken]
      exact map_set_of_eq _ hq hname
    · cases given
      exact used
  · have free := (e.queryIndex?_eq_none_iff_notMem _).2 used
    obtain ⟨hi, -⟩ := List.getElem?_eq_some_iff.1 hq
    refine .replaced i rfl used (by simpa [Entity.queryNames] using hi) (h.trans ?_)
    simp [Entity.redefined, free, Entity.queryNames, List.map_set, Draft.redefine]

namespace Reconciliation
variable {σ : Type} (analyze : Analyzer σ)

theorem nodup_redefined {e : Entity} {i : Nat} {q : Query}
    (distinct : (e.queries.map (·.name)).Nodup) (h : e.queries[i]? = some q) (draft : Draft) :
    ((e.redefined i q draft).queries.map (·.name)).Nodup :=
  (Entity.naming_redefined h draft rfl).nodup distinct

theorem nodup_appended {e : Entity} {q : Query} (distinct : (e.queries.map (·.name)).Nodup)
    (free : e.queryIndex? q.name = none) : ((e.appended q).queries.map (·.name)).Nodup := by
  simp only [Entity.appended, List.map_append, List.map_cons, List.map_nil]
  refine distinct.append (List.nodup_singleton _) fun name hname hq => ?_
  obtain ⟨q', hq', same⟩ := List.mem_map.1 hname
  exact Entity.queryIndex?_eq_none_iff.1 free q' hq' (same.trans (List.mem_singleton.1 hq))

/-- The report of an operation that has not analyzed anything. -/
def blank (e : Entity) : ChangeReport := { entity := e.name }

theorem not_mentions_blank (e : Entity) (name : String) : ¬(blank e).Mentions name := by
  simp [ChangeReport.Mentions, blank]

/-- A report that has recorded a new name only names none of the readers that were there. -/
theorem not_mentions_of_free {e : Entity} {r : ChangeReport} {name : String}
    (free : e.queryIndex? name = none) (clear : ∀ other, ¬r.Mentions other) (v : Verdict)
    {q : Query} (hq : q ∈ e.readers) : ¬(r.record name v).Mentions q.name := by
  rw [ChangeReport.mentions_record, not_or]
  exact ⟨Entity.queryIndex?_eq_none_iff.1 free q (List.mem_filter.1 hq).1, clear q.name⟩

/-- The ways in which adding a query can go. -/
inductive Added (draft : Draft) (decide : Question → Bool) (e : Entity) (s : σ) :
    Outcome σ (ChangeReport × Option Question) → Prop
  /-- The name is taken. -/
  | taken (used : (e.queryIndex? draft.query.name).isSome) :
    Added draft decide e s ⟨.error (.duplicateQuery e.name draft.query.name), e, s⟩
  /-- The query cannot be analyzed and is added flagged. -/
  | failed {fault : AnalysisFault} {t : σ} (free : e.queryIndex? draft.query.name = none)
      (answer : analyze draft.command draft.kind s = (.error fault, t)) :
    Added draft decide e s
      ⟨.ok ((blank e).record draft.query.name (.failed fault.message), none),
        e.appended draft.query.flag, t⟩
  /-- The columns stay. -/
  | kept {sig : Signature} {t : σ} (free : e.queryIndex? draft.query.name = none)
      (answer : analyze draft.command draft.kind s = (.ok sig, t))
      (fits : draft.query.isReader = true → e.properties ≠ [] ∧ e.mismatches sig false = []) :
    Added draft decide e s ⟨.ok ((blank e).record draft.query.name .ok, none),
      e.appended (draft.query.renew (.ok sig)), t⟩
  /-- The entity has no columns and takes those of the query. -/
  | adopted {sig : Signature} {t : σ} (free : e.queryIndex? draft.query.name = none)
      (answer : analyze draft.command draft.kind s = (.ok sig, t))
      (reader : draft.query.isReader = true) (empty : e.properties = []) :
    Added draft decide e s
      ⟨.ok ({ blank e with columnsChanged := !sig.columns.isEmpty }.record draft.query.name .ok,
          none),
        { e with properties := sig.columns.map .ofColumn }.appended (draft.query.renew (.ok sig)),
        t⟩
  /-- The columns give way, the query is refreshed once more and the other readers follow. -/
  | replaced {sig : Signature} {t : σ} (free : e.queryIndex? draft.query.name = none)
      (answer : analyze draft.command draft.kind s = (.ok sig, t))
      (reader : draft.query.isReader = true) (columns : e.properties ≠ [])
      (differ : e.mismatches sig false ≠ [])
      (agreed : decide ⟨draft.query.name, e.mismatches sig false⟩ = true)
      {p : Progress σ} (refreshed : p = refreshQueryAt analyze e.queries.length true
        ⟨{ e with properties := sig.columns.map .ofColumn }.appended (draft.query.renew (.ok sig)),
          { { blank e with
              columnsChanged := e.properties != sig.columns.map Property.ofColumn
              mismatches := e.mismatches sig false }.record draft.query.name .ok with
            suppressed := true }, t⟩) :
    Added draft decide e s
      ⟨.ok (p.report, some ⟨draft.query.name, e.mismatches sig false⟩), p.entity, p.source⟩
  /-- The question whether the columns may give way is answered with no. -/
  | declined {sig : Signature} {t : σ} (free : e.queryIndex? draft.query.name = none)
      (answer : analyze draft.command draft.kind s = (.ok sig, t))
      (reader : draft.query.isReader = true) (columns : e.properties ≠ [])
      (differ : e.mismatches sig false ≠ [])
      (refused : decide ⟨draft.query.name, e.mismatches sig false⟩ = false) :
    Added draft decide e s ⟨.ok ({ blank e with
        mismatches := e.mismatches sig false, accepted := false },
      some ⟨draft.query.name, e.mismatches sig false⟩), e, t⟩

theorem append_none {q : Query} {p : Progress σ} (free : p.entity.queryIndex? q.name = none) :
    append analyze q none p = ⟨.ok (p.report, none), p.entity.appended q, p.source⟩ := by
  simp [append, Entity.addQuery_eq free]

theorem append_some {q : Query} {asked : Question} {p : Progress σ}
    (free : p.entity.queryIndex? q.name = none) : append analyze q (some asked) p =
      let p := refreshQueryAt analyze p.entity.queries.length true
        ⟨p.entity.appended q, { p.report with suppressed := true }, p.source⟩
      ⟨.ok (p.report, some asked), p.entity, p.source⟩ := by
  simp [append, Entity.addQuery_eq free]

/-- Every addition goes one of these ways. -/
theorem added (draft : Draft) (decide : Question → Bool) (e : Entity) (s : σ) :
    Added analyze draft decide e s (add analyze draft decide e s) := by
  cases free : e.queryIndex? draft.query.name with
  | some i =>
    have used : (e.queryIndex? draft.query.name).isSome := by simp [free]
    simp only [add, used, ↓reduceIte]
    exact .taken used
  | none =>
    rcases answer : analyze draft.query.command draft.query.kind s with ⟨fault | sig, t⟩
    · simp only [add, free, answer, Option.isSome_none, Bool.false_eq_true, ↓reduceIte]
      rw [append_none analyze (by exact free)]
      exact .failed free answer
    · by_cases reader : draft.query.isReader
      · by_cases empty : e.properties = []
        · have he : effect e draft.query sig decide = .adopt := by simp [effect, reader, empty]
          have hc : (e.properties != sig.columns.map Property.ofColumn) = !sig.columns.isEmpty := by
            rw [empty]; cases sig.columns <;> rfl
          simp only [add, free, answer, he, Entity.adoptColumns_eq, Option.isSome_none,
            Bool.false_eq_true, ↓reduceIte]
          rw [append_none analyze (by exact free), hc]
          exact .adopted free answer reader empty
        · by_cases differ : e.mismatches sig false = []
          · have he : effect e draft.query sig decide = .keep := by
              simp [effect, reader, empty, differ]
            simp only [add, free, answer, he, Option.isSome_none, Bool.false_eq_true, ↓reduceIte]
            rw [append_none analyze (by exact free)]
            exact .kept free answer fun _ => ⟨empty, differ⟩
          · cases answered : decide ⟨draft.query.name, e.mismatches sig false⟩ with
            | true =>
              have he : effect e draft.query sig decide =
                  .replace ⟨draft.query.name, e.mismatches sig false⟩ := by
                simp [effect, reader, empty, differ, answered]
              simp only [add, free, answer, he, Entity.adoptColumns_eq, Option.isSome_none,
                Bool.false_eq_true, ↓reduceIte]
              rw [append_some analyze (by exact free)]
              exact .replaced free answer reader empty differ answered rfl
            | false =>
              have he : effect e draft.query sig decide =
                  .decline ⟨draft.query.name, e.mismatches sig false⟩ := by
                simp [effect, reader, empty, differ, answered]
              simp only [add, free, answer, he, Option.isSome_none, Bool.false_eq_true, ↓reduceIte]
              exact .declined free answer reader empty differ answered
      · have he : effect e draft.query sig decide = .keep := by simp [effect, reader]
        simp only [add, free, answer, he, Option.isSome_none, Bool.false_eq_true, ↓reduceIte]
        rw [append_none analyze (by exact free)]
        exact .kept free answer (by simp [reader])

/-- A reader gives its columns to an entity without any. -/
theorem add_of_empty {draft : Draft} {decide : Question → Bool} {e : Entity} {s t : σ}
    {sig : Signature} (free : e.queryIndex? draft.query.name = none)
    (answer : analyze draft.command draft.kind s = (.ok sig, t))
    (reader : draft.query.isReader = true) (empty : e.properties = []) :
    add analyze draft decide e s =
      ⟨.ok ({ blank e with columnsChanged := !sig.columns.isEmpty }.record draft.query.name .ok,
          none),
        { e with properties := sig.columns.map .ofColumn }.appended (draft.query.renew (.ok sig)),
        t⟩ := by
  have way := added analyze draft decide e s
  generalize add analyze draft decide e s = outcome at way
  cases way with
  | taken used => simp [free] at used
  | failed _ answer' => cases answer.symm.trans answer'
  | kept _ _ fits => exact absurd empty (fits reader).1
  | adopted _ answer' =>
    cases answer.symm.trans answer'
    rfl
  | replaced _ _ _ columns => exact absurd empty columns
  | declined _ _ _ columns => exact absurd empty columns

theorem withQuery_none {α : Type} {e : Entity} {name : String} {s : σ} {f : Nat → Outcome σ α}
    (missing : e.queryIndex? name = none) :
    withQuery e name s f = ⟨.error (.queryNotFound e.name name), e, s⟩ := by
  simp [withQuery, missing]

theorem withQuery_some {α : Type} {e : Entity} {name : String} {s : σ} {f : Nat → Outcome σ α}
    {i : Nat} (found : e.queryIndex? name = some i) : withQuery e name s f = f i := by
  simp [withQuery, found]

/-- An edit redefines the query and refreshes it. -/
theorem edit_eq {e : Entity} {name : String} {s : σ} {i : Nat} {q : Query} (draft : Draft)
    (found : e.queryIndex? name = some i) (hq : e.queries[i]? = some q) :
    edit analyze name draft e s = refreshOne analyze (e.redefined i q draft) s i := by
  simp only [edit, withQuery_some found]
  congr 1
  by_cases same : Identifier.sanitize draft.name = name
  · simp [same, found, Entity.redefined, Draft.redefine, Entity.modifyQuery, modify_eq_set hq]
  · cases taken : e.queryIndex? (Identifier.sanitize draft.name) with
    | some j =>
      simp [same, taken, Entity.renameQuery_eq_ite, Entity.redefined, Draft.redefine,
        Entity.modifyQuery, modify_eq_set hq]
    | none =>
      have hi : i < e.queries.length := (List.getElem?_eq_some_iff.1 hq).1
      simp [same, taken, found, Entity.renameQuery_eq_ite, Entity.redefined, Draft.redefine,
        Entity.modifyQuery, modify_eq_set hq,
        modify_eq_set (List.getElem?_set_self (a := _) hi)]

/-- A deletion takes out the query, and the columns with the last reader. -/
theorem delete_eq {e : Entity} {name : String} {s : σ} {i : Nat} {q : Query}
    (found : e.queryIndex? name = some i) (hq : e.queries[i]? = some q) :
    delete name e s =
      ⟨.ok q, { e with queries := e.queries.eraseIdx i }.dropOrphanedColumns, s⟩ := by
  simp [delete, withQuery_some found, Entity.removeQuery_eq_map, hq]

/-- The first pass of a full refresh, over the queries that are no readers. -/
def renewOthers (e : Entity) (s : σ) : Progress σ :=
  visitAll (fun _ q => !q.isReader) (fun q r s => (reanalyze analyze q r s).2) ⟨e, blank e, s⟩

theorem renewOthers_pass : (fun q r s => (reanalyze analyze q r s).2) =
    inspect analyze Query.renew fun q a r => r.record q.name (.ofAnswer a) := by
  funext q r s
  rw [reanalyze_eq]
  rfl

@[simp] theorem properties_renewOthers (e : Entity) (s : σ) :
    (renewOthers analyze e s).entity.properties = e.properties := rfl

/-- The first pass reports on the queries that are no readers. -/
theorem report_renewOthers (e : Entity) (s : σ) : (renewOthers analyze e s).report =
    (blank e).recordAll ((e.queries.filter (!·.isReader)).zipWith
      (fun q a => (q.name, Verdict.ofAnswer a))
      (consult analyze (e.queries.filter (!·.isReader)) s).1) := by
  simp only [renewOthers, renewOthers_pass, visitAll, visit_inspect_report,
    picked_all fun q => !q.isReader, ChangeReport.recordAll]
  rw [← List.map_uncurry_zip_eq_zipWith, List.foldl_map]
  rfl

/-- The first pass keeps of each query what an analysis keeps. -/
theorem map_renewOthers {β : Type} (g : Query → β) (kept : ∀ q a, g (q.renew a) = g q) (e : Entity)
    (s : σ) : (renewOthers analyze e s).entity.queries.map g = e.queries.map g := by
  unfold renewOthers visitAll
  refine map_visit _ g (fun q r s => ?_) 0 e.queries (blank e) s
  rw [reanalyze_eq]
  exact kept q _

/-- The first pass leaves the readers as they are, and no other query becomes one. -/
theorem renewOthers_getElem?_reader {e : Entity} {s : σ} {j : Nat} {q : Query}
    (h : (renewOthers analyze e s).entity.queries[j]? = some q) (reader : q.isReader = true) :
    e.queries[j]? = some q := by
  rw [renewOthers, renewOthers_pass] at h
  obtain ⟨q₀, hq₀, ⟨-, rfl⟩ | ⟨other, r, s, rfl⟩⟩ := visit_getElem? _ h
  · exact hq₀
  · rw [inspect, Query.isReader_renew] at reader
    simp [reader] at other

theorem renewOthers_getElem?_of_reader {e : Entity} (s : σ) {j : Nat} {q : Query}
    (h : e.queries[j]? = some q) (reader : q.isReader = true) :
    (renewOthers analyze e s).entity.queries[j]? = some q := by
  have hreaders := congrArg (·[j]?) (map_renewOthers analyze (·.isReader) (by simp) e s)
  simp only [List.getElem?_map, h, Option.map_some, Option.map_eq_some_iff] at hreaders
  obtain ⟨q', hq', reader'⟩ := hreaders
  have same := renewOthers_getElem?_reader analyze hq' (reader'.trans reader)
  rwa [← h, same]

/-- The first pass of a full refresh names the queries that are no readers. -/
theorem mentions_renewOthers (e : Entity) (s : σ) (name : String) :
    (renewOthers analyze e s).report.Mentions name ↔
      name ∈ (e.queries.filter (!·.isReader)).map (·.name) := by
  rw [report_renewOthers, ChangeReport.mentions_recordAll, map_fst_zipWith_consult,
    or_iff_left (not_mentions_blank e name)]

/-- It names no reader. -/
theorem not_mentions_renewOthers {e : Entity} (distinct : (e.queries.map (·.name)).Nodup)
    (t : σ) {q : Query} (hq : q ∈ (renewOthers analyze e t).entity.queries)
    (reader : q.isReader = true) : ¬(renewOthers analyze e t).report.Mentions q.name := by
  obtain ⟨j, hj⟩ := List.mem_iff_getElem?.1 hq
  have hbefore := List.mem_of_getElem? (renewOthers_getElem?_reader analyze hj reader)
  rw [mentions_renewOthers]
  intro named
  obtain ⟨q', hq', same⟩ := List.mem_map.1 named
  obtain ⟨hmem, hother⟩ := List.mem_filter.1 hq'
  cases List.inj_on_of_nodup_map distinct hmem hbefore same
  simp [reader] at hother

/-- After the first pass a full refresh is the refresh of the first reader, with a cascade. -/
theorem refreshAll_eq (e : Entity) (s : σ) : refreshAll analyze e s =
    match e.queries.findIdx? (·.isReader) with
    | some index => refreshQueryAt analyze index true (renewOthers analyze e s)
    | none => renewOthers analyze e s := by
  have h := congrArg (List.findIdx? id) (map_renewOthers analyze (·.isReader) (by simp) e s)
  simp only [List.findIdx?_map, Function.id_comp] at h
  rw [← h]
  rfl

/-- The ways in which a full refresh can go. -/
inductive RefreshedAll (e : Entity) (s : σ) : Progress σ → Prop
  /-- There is no reader to refresh. -/
  | readerless (first : e.queries.findIdx? (·.isReader) = none) :
    RefreshedAll e s (renewOthers analyze e s)
  /-- After the other queries the first reader is refreshed, and then every reader. -/
  | led {i : Nat} {q : Query} (first : e.queries.findIdx? (·.isReader) = some i)
      (hq : e.queries[i]? = some q) (reader : q.isReader = true)
      (hpass : (renewOthers analyze e s).entity.queries[i]? = some q) :
    RefreshedAll e s (refreshQueryAt analyze i true (renewOthers analyze e s))

/-- Every full refresh goes one of these ways. -/
theorem refreshedAll (e : Entity) (s : σ) : RefreshedAll analyze e s (refreshAll analyze e s) := by
  rw [refreshAll_eq]
  cases first : e.queries.findIdx? (·.isReader) with
  | none => exact .readerless first
  | some i =>
    obtain ⟨hi, reader, -⟩ := List.findIdx?_eq_some_iff_getElem.1 first
    have hq : e.queries[i]? = some e.queries[i] := List.getElem?_eq_getElem hi
    exact .led first hq reader (renewOthers_getElem?_of_reader analyze s hq reader)

end Reconciliation
end EntityDesign
