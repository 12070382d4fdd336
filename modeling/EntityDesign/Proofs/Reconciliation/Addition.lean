import Mathlib.Data.List.InsertIdx
import EntityDesign.Proofs.Reconciliation.Report

/-! What an addition does. Its question is asked in one case only, a no leaves everything as it was,
and in all other cases the query is appended behind siblings that keep all but their flags. -/
namespace EntityDesign

/-- A query but for the flags that a verdict sets. -/
def Query.unmarked (q : Query) : Query := { q with showError := false, showOk := false }

@[simp] theorem Query.unmarked_mark (q : Query) (v : Verdict) :
    (q.mark v).unmarked = q.unmarked := by
  cases v <;> rfl

namespace ChangeReport

/-- What a report says beside its verdicts and the change of columns. -/
def heading (r : ChangeReport) : String × Bool × List Mismatch × Bool :=
  (r.entity, r.accepted, r.mismatches, r.suppressed)

@[simp] theorem heading_record (r : ChangeReport) (query : String) (v : Verdict) :
    (r.record query v).heading = r.heading := by
  cases v with
  | ok => simp only [record, addOk]; split <;> rfl
  | unfit => simp only [record, addUnfit]; split <;> rfl
  | failed message => rfl

@[simp] theorem heading_noteChange (r : ChangeReport) (changed : Bool) :
    (r.noteChange changed).heading = r.heading := by
  cases changed <;> rfl

@[simp] theorem heading_recordAll (r : ChangeReport) (l : List (String × Verdict)) :
    (r.recordAll l).heading = r.heading := by
  induction l generalizing r with
  | nil => rfl
  | cons p l ih => exact (ih (r.record p.1 p.2)).trans (heading_record r p.1 p.2)

end ChangeReport

/-- The entity has one query more, made from the draft; the queries before it are those that were
there, but for the flags of their verdicts. -/
def Entity.Grown (draft : Draft) (before after : Entity) : Prop :=
  ∃ siblings q, after.queries = siblings ++ [q] ∧
    siblings.map (·.unmarked) = before.queries.map (·.unmarked) ∧
    q.name = Identifier.sanitize draft.name ∧ q.command = draft.command ∧ q.kind = draft.kind ∧
    q.execution = draft.execution

namespace Reconciliation
variable {σ : Type} (analyze : Analyzer σ)

section
variable {index : Nat} {q : Query} {p : Progress σ} (cascade : Bool)
  (h : p.entity.queries[index]? = some q)
include h

/-- A refresh leaves the report about everything but verdicts and columns. -/
theorem heading_refreshQueryAt :
    (refreshQueryAt analyze index cascade p).report.heading = p.report.heading := by
  have own : (renewed analyze index q p).report.heading = p.report.heading := by simp [renewed]
  rw [refreshQueryAt_eq analyze cascade h]
  split
  · rw [report_recheckReaders, ChangeReport.heading_recordAll, own]
  · exact own

/-- A refresh does to the other queries what marks do. -/
theorem map_eraseIdx_refreshQueryAt {β : Type} (g : Query → β)
    (marked : ∀ q v, g (q.mark v) = g q) :
    ((refreshQueryAt analyze index cascade p).entity.queries.eraseIdx index).map g =
      (p.entity.queries.eraseIdx index).map g := by
  have own : (renewed analyze index q p).entity.queries.eraseIdx index =
      p.entity.queries.eraseIdx index := Entity.eraseIdx_renewAt p.entity index q _
  rw [refreshQueryAt_eq analyze cascade h]
  split
  · have hmap : (recheckReaders analyze index (renewed analyze index q p)).entity.queries.map g =
        (renewed analyze index q p).entity.queries.map g := by
      refine map_visit _ g (fun q r s => ?_) 0 _ _ _
      rw [recheck_eq]
      exact marked q _
    rw [← List.eraseIdx_map, hmap, List.eraseIdx_map, own]
  · rw [own]

end

/-- Behind a new last query, a refresh leaves the queries that were there but for their flags. -/
theorem grown_refreshQueryAt {draft : Draft} {e e' : Entity} {q : Query} {r : ChangeReport} {s : σ}
    (queries : e'.queries = e.queries ++ [q])
    (definition : q.definition = draft.query.definition) (cascade : Bool) :
    e.Grown draft (refreshQueryAt analyze e.queries.length cascade ⟨e', r, s⟩).entity := by
  have h : e'.queries[e.queries.length]? = some q := by simp [queries]
  have hsiblings := map_eraseIdx_refreshQueryAt analyze (p := ⟨e', r, s⟩) cascade h (·.unmarked)
    Query.unmarked_mark
  have hall := map_refreshQueryAt analyze (p := ⟨e', r, s⟩) cascade h (·.definition)
    Query.definition_mark Query.definition_renew
  generalize (refreshQueryAt analyze e.queries.length cascade ⟨e', r, s⟩).entity = after at *
  simp only [queries, List.eraseIdx_append_of_length_le (Nat.le_refl _), Nat.sub_self,
    List.eraseIdx_zero, List.tail_cons, List.append_nil] at hsiblings hall
  have hlength : after.queries.length = e.queries.length + 1 := by
    simpa using congrArg List.length hall
  have hne : after.queries ≠ [] := by
    intro hnil
    rw [hnil] at hlength
    exact absurd hlength (by simp)
  refine ⟨after.queries.dropLast, after.queries.getLast hne,
    (List.dropLast_concat_getLast hne).symm, ?_, ?_⟩
  · rw [← hsiblings, List.eraseIdx_eq_dropLast hlength.symm]
  · have hlast : (after.queries.getLast hne).definition = draft.query.definition := by
      have hmap := hall
      rw [← List.dropLast_concat_getLast hne, List.map_append, List.map_append] at hmap
      have hends := (List.append_inj' hmap rfl).2
      simpa [definition] using hends
    simpa [Query.definition, Draft.query, Query.named] using hlast

/-- So does an addition that refreshes nothing. -/
theorem grown_appended {draft : Draft} {e e' : Entity} {q : Query}
    (queries : e'.queries = e.queries) (definition : q.definition = draft.query.definition) :
    e.Grown draft (e'.appended q) := by
  refine ⟨e.queries, q, by rw [Entity.appended, queries], rfl, ?_⟩
  simpa [Query.definition, Draft.query, Query.named] using definition

/-- The answer matters only if there is a question. -/
theorem effect_congr {e : Entity} {q : Query} {sig : Signature} {decide decide' : Question → Bool}
    (same : q.isReader = true → e.properties ≠ [] → e.mismatches sig false ≠ [] →
      decide' ⟨q.name, e.mismatches sig false⟩ = decide ⟨q.name, e.mismatches sig false⟩) :
    effect e q sig decide' = effect e q sig decide := by
  by_cases reader : q.isReader = true
  · by_cases empty : e.properties = []
    · simp [effect, reader, empty]
    · by_cases fits : e.mismatches sig false = []
      · simp [effect, reader, empty, fits]
      · simp [effect, reader, empty, fits, same reader empty fits]
  · simp [effect, reader]

/-- What is asked when a query is added: whether the columns may give way to those of a reader that
does not fit them. -/
def Asks (draft : Draft) (e : Entity) (s : σ) (question : Question) : Prop :=
  draft.execution = .reader ∧ e.properties ≠ [] ∧
    ∃ sig, (analyze draft.command draft.kind s).1 = .ok sig ∧ e.mismatches sig false ≠ [] ∧
      question = ⟨Identifier.sanitize draft.name, e.mismatches sig false⟩

/-- What an addition does that is not refused. -/
structure Concluded (draft : Draft) (decide : Question → Bool) (e : Entity) (s : σ)
    (r : ChangeReport) (asked : Option Question) (after : Entity) : Prop where
  asks : ∀ question, asked = some question ↔ Asks analyze draft e s question
  reported : r.mismatches = (asked.map (·.mismatches)).getD []
  /-- Nothing depends on what would be answered to other questions. -/
  unasked : ∀ decide', (∀ question ∈ asked, decide' question = decide question) →
    add analyze draft decide' e s = add analyze draft decide e s
  declined : ∀ question ∈ asked, decide question = false → r.accepted = false ∧ r.ok = [] ∧
    r.unfit = [] ∧ r.failures = [] ∧ r.columnsChanged = false ∧ after = e
  accepted : (∀ question ∈ asked, decide question = true) → r.accepted = true ∧ e.Grown draft after

section
variable {analyze} {draft : Draft} {decide : Question → Bool} {e : Entity} {s : σ}
  {o : Outcome σ (ChangeReport × Option Question)} {r : ChangeReport} {asked : Option Question}

theorem isReader_query_iff (draft : Draft) :
    draft.query.isReader = true ↔ draft.execution = .reader := by
  simp [Draft.query, Query.named, Query.isReader]

/-- A reader that does not fit the columns raises one question. -/
theorem asks_iff_eq {sig : Signature} {t : σ}
    (answer : analyze draft.command draft.kind s = (.ok sig, t))
    (reader : draft.query.isReader = true) (columns : e.properties ≠ [])
    (differ : e.mismatches sig false ≠ []) (question : Question) :
    Asks analyze draft e s question ↔
      question = ⟨draft.query.name, e.mismatches sig false⟩ := by
  constructor
  · rintro ⟨-, -, sig', hsig, -, rfl⟩
    rw [answer] at hsig
    cases hsig
    rfl
  · rintro rfl
    exact ⟨(isReader_query_iff draft).1 reader, columns, sig, by rw [answer], differ, rfl⟩

theorem asks_of_added (way : Added analyze draft decide e s o) (result : o.result = .ok (r, asked))
    (question : Question) : asked = some question ↔ Asks analyze draft e s question := by
  cases way with
  | taken => cases result
  | failed free answer =>
    cases result
    simp [Asks, answer]
  | kept free answer fits =>
    cases result
    refine iff_of_false (by simp) ?_
    rintro ⟨reader, -, sig', hsig, differ, -⟩
    rw [answer] at hsig
    cases hsig
    exact differ (fits ((isReader_query_iff draft).2 reader)).2
  | adopted free answer reader empty =>
    cases result
    simp [Asks, empty]
  | replaced free answer reader columns differ agreed =>
    cases result
    rw [asks_iff_eq answer reader columns differ, Option.some.injEq, eq_comm]
  | declined free answer reader columns differ refused =>
    cases result
    rw [asks_iff_eq answer reader columns differ, Option.some.injEq, eq_comm]

/-- If the question that is asked has the same answer, the addition goes the same way. -/
theorem add_congr {decide' : Question → Bool}
    (same : ∀ question, Asks analyze draft e s question → decide' question = decide question) :
    add analyze draft decide' e s = add analyze draft decide e s := by
  have heffect (sig : Signature) (t : σ)
      (answer : analyze draft.query.command draft.query.kind s = (.ok sig, t)) :
      effect e draft.query sig decide' = effect e draft.query sig decide :=
    effect_congr fun reader columns differ =>
      same _ ((asks_iff_eq answer reader columns differ _).2 rfl)
  simp only [add]
  split
  · rfl
  · rcases answer : analyze draft.query.command draft.query.kind s with ⟨fault | sig, t⟩
    · rfl
    · simp only [heffect sig t answer]

theorem concluded_of_added (way : Added analyze draft decide e s o)
    (result : o.result = .ok (r, asked)) :
    r.mismatches = (asked.map (·.mismatches)).getD [] ∧
    (∀ question ∈ asked, decide question = false → r.accepted = false ∧ r.ok = [] ∧ r.unfit = [] ∧
      r.failures = [] ∧ r.columnsChanged = false ∧ o.entity = e) ∧
    ((∀ question ∈ asked, decide question = true) →
      r.accepted = true ∧ e.Grown draft o.entity) := by
  have heading {r r' : ChangeReport} (h : r.heading = r'.heading) :
      r.accepted = r'.accepted ∧ r.mismatches = r'.mismatches :=
    ⟨congrArg (·.2.1) h, congrArg (·.2.2.1) h⟩
  cases way with
  | taken => cases result
  | failed =>
    cases result
    obtain ⟨haccepted, hmismatches⟩ := heading (ChangeReport.heading_record (blank e) _ _)
    exact ⟨hmismatches, by simp, fun _ => ⟨haccepted, grown_appended rfl rfl⟩⟩
  | kept =>
    cases result
    obtain ⟨haccepted, hmismatches⟩ := heading (ChangeReport.heading_record (blank e) _ _)
    exact ⟨hmismatches, by simp, fun _ =>
      ⟨haccepted, grown_appended rfl (Query.definition_renew draft.query _)⟩⟩
  | adopted =>
    cases result
    obtain ⟨haccepted, hmismatches⟩ := heading (ChangeReport.heading_record _ _ _)
    exact ⟨hmismatches, by simp, fun _ =>
      ⟨haccepted, grown_appended rfl (Query.definition_renew draft.query _)⟩⟩
  | @replaced sig t free answer reader columns differ agreed p refreshed =>
    cases result
    have hp : p.report.heading = (e.name, true, e.mismatches sig false, true) := by
      rw [refreshed, heading_refreshQueryAt analyze true (by exact Entity.getElem?_appended _ _)]
      rfl
    refine ⟨congrArg (·.2.2.1) hp, fun question hq hno => ?_, fun _ =>
      ⟨congrArg (·.2.1) hp, ?_⟩⟩
    · cases hq
      exact Bool.noConfusion (agreed.symm.trans hno)
    · rw [refreshed]
      exact grown_refreshQueryAt analyze rfl (Query.definition_renew draft.query _) true
  | declined free answer reader columns differ refused =>
    cases result
    refine ⟨rfl, fun _ _ _ => ⟨rfl, rfl, rfl, rfl, rfl, rfl⟩, fun agreed => ?_⟩
    exact absurd (agreed _ rfl) (by simp [refused])

end

/-- An addition that is not refused asks exactly if a reader was analyzed whose columns do not fit
those of the entity, reports the mismatches that it asks about, leaves everything as it was after a
no, and else appends the query. -/
theorem add_concluded (analyze : Analyzer σ) (draft : Draft) (decide : Question → Bool) (e : Entity)
    (s : σ) {r : ChangeReport} {asked : Option Question}
    (result : (add analyze draft decide e s).result = .ok (r, asked)) :
    Concluded analyze draft decide e s r asked (add analyze draft decide e s).entity := by
  have way := added analyze draft decide e s
  have asks := asks_of_added way result
  obtain ⟨reported, declined, accepted⟩ := concluded_of_added way result
  refine ⟨asks, reported, fun decide' same => ?_, declined, accepted⟩
  exact add_congr fun question hask => same question ((asks question).2 hask)

/-- A reader with another column. -/
def draftB : Draft := ⟨"Other reader", "SELECT B FROM T", .text, .reader⟩

def questionB : Question := ⟨"Other_reader", [.additional "B" "int", .missing "A" "int"]⟩

/-- After a yes the query stays though it cannot be analyzed once more; after a no nothing has
happened. -/
theorem concluded_draftB :
    (∃ r, (add (faltering aOrB) draftB (fun _ => true) holdsA 0).result =
        .ok (r, some questionB) ∧ r.failures = [⟨"Other_reader", "connection lost"⟩] ∧
      Concluded (faltering aOrB) draftB (fun _ => true) holdsA 0 r (some questionB)
        (add (faltering aOrB) draftB (fun _ => true) holdsA 0).entity) ∧
    ∃ r, (add (faltering aOrB) draftB (fun _ => false) holdsA 0).result =
        .ok (r, some questionB) ∧
      Concluded (faltering aOrB) draftB (fun _ => false) holdsA 0 r (some questionB)
        (add (faltering aOrB) draftB (fun _ => false) holdsA 0).entity := by
  have agreed : (add (faltering aOrB) draftB (fun _ => true) holdsA 0).result =
      .ok ({ entity := "Item", columnsChanged := true, mismatches := questionB.mismatches
             unfit := ["Load"], failures := [⟨"Other_reader", "connection lost"⟩]
             suppressed := true }, some questionB) := by decide +kernel
  have refused : (add (faltering aOrB) draftB (fun _ => false) holdsA 0).result =
      .ok ({ entity := "Item", accepted := false, mismatches := questionB.mismatches },
        some questionB) := by decide +kernel
  exact ⟨⟨_, agreed, rfl, add_concluded _ _ _ _ _ agreed⟩,
    ⟨_, refused, add_concluded _ _ _ _ _ refused⟩⟩

end Reconciliation
end EntityDesign
