import EntityDesign.Proofs.Reconciliation.Addition
import EntityDesign.Proofs.Reconciliation.Cascade

/-! What analyses leave alone. An edit or a refresh is a course of inquiries: each puts the command
of one query to the source and either refreshes that query or rechecks it. One inquiry spares all
but one query, and of that one all but the flags and, after a success, the parameters; a course
spares what all of its inquiries spare, whichever of them fail. -/
namespace EntityDesign

/-- The entity with the query at an index marked by the verdict on an answer. -/
def Entity.markAt (e : Entity) (index : Nat) (q : Query) (a : Answer) : Entity :=
  { e with queries := e.queries.set index (q.mark (e.verdict a)) }

namespace Reconciliation
variable {σ : Type}

/-- What the query at an index is analyzed for, with the answer. -/
inductive Inquiry where
  /-- To take over what is found. -/
  | refresh (index : Nat) (answer : Answer)
  /-- To see whether it fits the columns. -/
  | recheck (index : Nat) (answer : Answer)

/-- The index of the query that is refreshed. -/
def Inquiry.refreshed? : Inquiry → Option Nat
  | refresh index _ => some index
  | recheck .. => none

/-- From an entity and a source to those that the inquiries leave. Each inquiry asks about the query
that stands at its index then, in the state in which the one before left the source. -/
inductive Course (analyze : Analyzer σ) : Entity → σ → List Inquiry → Entity → σ → Prop
  | finished {e : Entity} {s : σ} : Course analyze e s [] e s
  | refreshed {e e' : Entity} {s t s' : σ} {i : Nat} {q : Query} {a : Answer} {l : List Inquiry}
      (hq : e.queries[i]? = some q) (answer : analyze q.command q.kind s = (a, t))
      (rest : Course analyze (e.renewAt i q a) t l e' s') :
    Course analyze e s (.refresh i a :: l) e' s'
  | rechecked {e e' : Entity} {s t s' : σ} {i : Nat} {q : Query} {a : Answer} {l : List Inquiry}
      (hq : e.queries[i]? = some q) (reader : q.isReader = true)
      (answer : analyze q.command q.kind s = (a, t))
      (rest : Course analyze (e.markAt i q a) t l e' s') :
    Course analyze e s (.recheck i a :: l) e' s'

/-- What inquiries spare. A query keeps its definition and all but its flags, unless it was
refreshed with success; then it has the parameters that were found. The properties change to the
columns of a reader that was refreshed with success only. -/
structure Spared (l : List Inquiry) (before after : Entity) : Prop where
  place : (after.name, after.x, after.y) = (before.name, before.x, before.y)
  definitions : after.queries.map (·.definition) = before.queries.map (·.definition)
  query : ∀ (j : Nat) (q q' : Query), before.queries[j]? = some q → after.queries[j]? = some q' →
    q'.unmarked = q.unmarked ∨ ∃ sig, .refresh j (.ok sig) ∈ l ∧
      q'.unmarked = { q with parameters := sig.parameters }.unmarked
  columns : after.properties = before.properties ∨ ∃ j q sig, .refresh j (.ok sig) ∈ l ∧
    before.queries[j]? = some q ∧ q.isReader = true ∧
      after.properties = sig.columns.map .ofColumn

namespace Spared
variable {e before middle after : Entity} {l m : List Inquiry} {i : Nat} {q : Query}

theorem refl (e : Entity) : Spared [] e e where
  place := rfl
  definitions := rfl
  query j q q' hq hq' := by
    cases hq.symm.trans hq'
    exact .inl rfl
  columns := .inl rfl

/-- A query of the entity before is there afterwards, with the same definition. -/
theorem exists_query (h : Spared l before after) {j : Nat} {q : Query}
    (hq : before.queries[j]? = some q) :
    ∃ q', after.queries[j]? = some q' ∧ q'.definition = q.definition := by
  have same := congrArg (·[j]?) h.definitions
  simpa [List.getElem?_map, hq] using same

theorem trans (h : Spared l before middle) (h' : Spared m middle after) :
    Spared (l ++ m) before after := by
  constructor
  case place => exact h'.place.trans h.place
  case definitions => exact h'.definitions.trans h.definitions
  case query =>
    intro j q₀ q₂ hq₀ hq₂
    obtain ⟨q₁, hq₁, -⟩ := h.exists_query hq₀
    rcases h'.query j q₁ q₂ hq₁ hq₂ with second | ⟨sig, hsig, second⟩
    · rcases h.query j q₀ q₁ hq₀ hq₁ with first | ⟨sig, hsig, first⟩
      · exact .inl (second.trans first)
      · exact .inr ⟨sig, List.mem_append_left m hsig, second.trans first⟩
    · -- the later parameters count, whatever the first inquiries have found
      refine .inr ⟨sig, List.mem_append_right l hsig, second.trans ?_⟩
      have first : ({ q₁ with parameters := sig.parameters } : Query).unmarked =
          ({ q₁.unmarked with parameters := sig.parameters } : Query) := rfl
      rcases h.query j q₀ q₁ hq₀ hq₁ with same | ⟨_, -, same⟩
      · rw [first, same]
        rfl
      · rw [first, same]
        rfl
  case columns =>
    rcases h'.columns with same | ⟨j, q₁, sig, hsig, hq₁, reader, columns⟩
    · rcases h.columns with same' | ⟨j, q₀, sig, hsig, hq₀, reader, columns⟩
      · exact .inl (same.trans same')
      · exact .inr ⟨j, q₀, sig, List.mem_append_left m hsig, hq₀, reader, same.trans columns⟩
    · have hdefinition := congrArg (·[j]?) h.definitions
      simp only [List.getElem?_map, hq₁, Option.map_some] at hdefinition
      obtain ⟨q₀, hq₀, same⟩ := Option.map_eq_some_iff.1 hdefinition.symm
      have execution : q₀.execution = q₁.execution := congrArg (·.2.2.2) same
      refine .inr ⟨j, q₀, sig, List.mem_append_right l hsig, hq₀, ?_, columns⟩
      rwa [Query.isReader, execution]

/-- Setting one query spares the others. -/
theorem query_set {q' : Query} (h : e.queries[i]? = some q)
    (own : q'.unmarked = q.unmarked ∨ ∃ sig, .refresh i (.ok sig) ∈ l ∧
      q'.unmarked = { q with parameters := sig.parameters }.unmarked)
    {j : Nat} {p p' : Query} (hp : e.queries[j]? = some p)
    (hp' : (e.queries.set i q')[j]? = some p') :
    p'.unmarked = p.unmarked ∨ ∃ sig, .refresh j (.ok sig) ∈ l ∧
      p'.unmarked = { p with parameters := sig.parameters }.unmarked := by
  by_cases hj : i = j
  · subst hj
    cases h.symm.trans hp
    obtain ⟨hi, -⟩ := List.getElem?_eq_some_iff.1 h
    rw [List.getElem?_set_self hi, Option.some.injEq] at hp'
    rwa [← hp']
  · rw [List.getElem?_set_ne hj] at hp'
    cases hp.symm.trans hp'
    exact .inl rfl

/-- What a refresh of one query spares. -/
theorem renewAt (h : e.queries[i]? = some q) (a : Answer) :
    Spared [.refresh i a] e (e.renewAt i q a) := by
  constructor
  case place => rfl
  case definitions => exact Entity.map_renewAt _ (by simp) h a
  case query =>
    intro j p p' hp hp'
    refine query_set h ?_ hp hp'
    cases a with
    | error fault => exact .inl rfl
    | ok sig => exact .inr ⟨sig, List.mem_singleton_self _, rfl⟩
  case columns =>
    by_cases same : e.propertiesAfter q a = e.properties
    · exact .inl same
    · obtain ⟨reader, sig, rfl, columns⟩ := Entity.reader_of_propertiesAfter_ne same
      exact .inr ⟨i, q, sig, List.mem_singleton_self _, h, reader, columns⟩

/-- What a recheck of one query spares. -/
theorem markAt (h : e.queries[i]? = some q) (a : Answer) :
    Spared [.recheck i a] e (e.markAt i q a) where
  place := rfl
  definitions := map_set_of_eq _ h (q.definition_mark _)
  query _ _ _ hp hp' := query_set h (.inl (q.unmarked_mark _)) hp hp'
  columns := .inl rfl

end Spared

namespace Course
variable {analyze : Analyzer σ} {e e' : Entity} {s s' : σ} {l : List Inquiry}

theorem append {e'' : Entity} {s'' : σ} {m : List Inquiry} (h : Course analyze e s l e' s')
    (h' : Course analyze e' s' m e'' s'') : Course analyze e s (l ++ m) e'' s'' := by
  induction h with
  | finished => exact h'
  | refreshed hq answer _ ih => exact .refreshed hq answer (ih h')
  | rechecked hq reader answer _ ih => exact .rechecked hq reader answer (ih h')

/-- What every inquiry of a course spares, the course spares. -/
theorem spared (h : Course analyze e s l e' s') : Spared l e e' := by
  induction h with
  | finished => exact .refl _
  | refreshed hq _ _ ih => exact (Spared.renewAt hq _).trans ih
  | rechecked hq _ _ _ ih => exact (Spared.markAt hq _).trans ih

end Course

section Pass
variable (analyze : Analyzer σ)

/-- A pass is a course if each of its visits is an inquiry; `due` is what a visit refreshes. -/
theorem course_visit (e : Entity) (pick : Nat → Query → Bool) (mark : Query → Answer → Query)
    (note : Query → Answer → ChangeReport → ChangeReport) (inquiry : Nat → Answer → Inquiry)
    (due : Nat → Option Nat) (refreshed : ∀ i a, (inquiry i a).refreshed? = due i)
    (step : ∀ {qs : List Query} {i : Nat} {q : Query} {s s' : σ} {l : List Inquiry} {e' : Entity},
      qs[i]? = some q → pick i q = true →
      Course analyze { e with queries := qs.set i (mark q (analyze q.command q.kind s).1) }
        (analyze q.command q.kind s).2 l e' s' →
      Course analyze { e with queries := qs } s
        (inquiry i (analyze q.command q.kind s).1 :: l) e' s')
    (done qs : List Query) (r : ChangeReport) (s : σ) :
    ∃ l, Course analyze { e with queries := done ++ qs } s l
        { e with queries :=
          done ++ (visit pick (inspect analyze mark note) done.length qs r s).1 }
        (visit pick (inspect analyze mark note) done.length qs r s).2.2 ∧
      l.filterMap Inquiry.refreshed? = (qs.zipIdx done.length).filterMap fun p =>
        bif pick p.2 p.1 then due p.2 else none := by
  -- the queries that were visited are `done`, those to come `qs`
  induction qs generalizing done r s with
  | nil => exact ⟨[], .finished, rfl⟩
  | cons q qs ih =>
    by_cases hpick : pick done.length q
    · have hq : (done ++ q :: qs)[done.length]? = some q := by simp
      obtain ⟨l, hcourse, hl⟩ := ih (done ++ [mark q (analyze q.command q.kind s).1])
        (note q (analyze q.command q.kind s).1 r) (analyze q.command q.kind s).2
      have hset : (done ++ q :: qs).set done.length (mark q (analyze q.command q.kind s).1) =
          (done ++ [mark q (analyze q.command q.kind s).1]) ++ qs := by simp
      rw [← hset] at hcourse
      refine ⟨inquiry done.length (analyze q.command q.kind s).1 :: l, ?_, ?_⟩
      · have hstep := step hq hpick hcourse
        simpa [visit, hpick, inspect] using hstep
      · simp [hl, refreshed, hpick, List.filterMap_cons]
    · obtain ⟨l, hcourse, hl⟩ := ih (done ++ [q]) r s
      refine ⟨l, ?_, ?_⟩
      · simpa [visit, hpick] using hcourse
      · simpa [hpick] using hl

/-- A recheck of the other readers refreshes none of them. -/
theorem course_recheckReaders (index : Nat) (p : Progress σ) :
    ∃ l, Course analyze p.entity p.source l (recheckReaders analyze index p).entity
        (recheckReaders analyze index p).source ∧ l.filterMap Inquiry.refreshed? = [] := by
  have hpass := course_visit analyze p.entity (fun i q => i != index && q.isReader)
    (fun q a => q.mark (p.entity.verdict a)) (fun q a r => r.record q.name (p.entity.verdict a))
    .recheck (fun _ => none) (fun _ _ => rfl) ?_ [] p.entity.queries p.report p.source
  · obtain ⟨l, hcourse, hl⟩ := hpass
    refine ⟨l, ?_, by simpa using hl⟩
    simp only [recheckReaders, recheck_eq, visitAll]
    exact hcourse
  · intro qs i q s s' l e' hq hpick rest
    have reader : q.isReader = true := (Bool.and_eq_true_iff.1 hpick).2
    exact .rechecked hq reader rfl rest

/-- The first pass of a full refresh refreshes the queries that are no readers. -/
theorem course_renewOthers (e : Entity) (s : σ) :
    ∃ l, Course analyze e s l (renewOthers analyze e s).entity (renewOthers analyze e s).source ∧
      l.filterMap Inquiry.refreshed? = e.queries.findIdxs (!·.isReader) := by
  have hpass := course_visit analyze e (fun _ q => !q.isReader) Query.renew
    (fun q a r => r.record q.name (.ofAnswer a)) .refresh some (fun _ _ => rfl) ?_ [] e.queries
    (blank e) s
  · obtain ⟨l, hcourse, hl⟩ := hpass
    refine ⟨l, ?_, ?_⟩
    · simp only [renewOthers, renewOthers_pass, visitAll]
      exact hcourse
    · rw [hl, List.findIdxs_eq_filterMap_zipIdx]
      rfl
  · intro qs i q s s' l e' hq hpick rest
    -- what is renewed here is no reader, so that its columns do not matter
    have kept : ({ e with queries := qs } : Entity).propertiesAfter q
        (analyze q.command q.kind s).1 = e.properties := by
      cases (analyze q.command q.kind s).1 <;> simp_all [Entity.propertiesAfter]
    refine .refreshed hq rfl ?_
    rw [Entity.renewAt, kept]
    exact rest

/-- The refresh of a query refreshes that one only. -/
theorem course_refreshQueryAt {index : Nat} {q : Query} {p : Progress σ} (cascade : Bool)
    (h : p.entity.queries[index]? = some q) :
    ∃ l, Course analyze p.entity p.source l (refreshQueryAt analyze index cascade p).entity
        (refreshQueryAt analyze index cascade p).source ∧
      l.filterMap Inquiry.refreshed? = [index] := by
  have own {l : List Inquiry} {e' : Entity} {s' : σ}
      (rest : Course analyze (renewed analyze index q p).entity (renewed analyze index q p).source
        l e' s') : Course analyze p.entity p.source
          (.refresh index (analyze q.command q.kind p.source).1 :: l) e' s' :=
    .refreshed h rfl rest
  rw [refreshQueryAt_eq analyze cascade h]
  split
  · obtain ⟨l, hcourse, hl⟩ := course_recheckReaders analyze index (renewed analyze index q p)
    exact ⟨_, own hcourse, by rw [List.filterMap_cons, hl]; rfl⟩
  · exact ⟨_, own .finished, rfl⟩

end Pass

/-- The entity whose queries an operation analyzes: for an edit, with the query as the draft has
it. -/
def Operation.edited (op : Operation) (e : Entity) : Entity :=
  match op with
  | edit name draft =>
    let taken := (e.queryIndex? (Identifier.sanitize draft.name)).isSome
    match e.queryIndex? name with
    | some index => e.modifyQuery index (draft.redefine taken)
    | none => e
  | _ => e

/-- The indices of the queries that an operation on existing queries refreshes, in order. -/
def Operation.refreshed (op : Operation) (e : Entity) : List Nat :=
  match op with
  | edit name _ | refresh name => (e.queryIndex? name).toList
  | refreshAll =>
    e.queries.findIdxs (!·.isReader) ++ (e.queries.findIdx? (·.isReader)).toList
  | add .. | delete _ => []

theorem Operation.edited_edit {e : Entity} {name : String} {i : Nat} {q : Query} (draft : Draft)
    (found : e.queryIndex? name = some i) (hq : e.queries[i]? = some q) :
    (Operation.edit name draft).edited e = e.redefined i q draft := by
  simp only [Operation.edited, found, Entity.redefined, Entity.modifyQuery, modify_eq_set hq]

/-- An edit or a refresh is a course that refreshes the queries it is about, and rechecks others. -/
theorem course_perform (analyze : Analyzer σ) (op : Operation) (e : Entity) (s : σ)
    (analyzing : op = .refreshAll ∨ (∃ name, op = .refresh name) ∨
      ∃ name draft, op = .edit name draft) :
    ∃ l, Course analyze (op.edited e) s l (op.perform analyze e s).entity
        (op.perform analyze e s).source ∧ l.filterMap Inquiry.refreshed? = op.refreshed e := by
  have way := performed analyze op e s
  generalize op.perform analyze e s = after at way ⊢
  cases way with
  | added | deleted => simp at analyzing
  | @missing _ name target unknown =>
    cases op with
    | add | refreshAll => cases target
    | delete => simp at analyzing
    | edit | refresh =>
      cases target
      exact ⟨[], by simpa [Operation.edited, unknown] using .finished,
        by simp [Operation.refreshed, unknown]⟩
  | @edited name draft i q found hq =>
    obtain ⟨hi, -⟩ := List.getElem?_eq_some_iff.1 hq
    have hset : (e.redefined i q draft).queries[i]? =
        some (draft.redefine (e.queryIndex? (Identifier.sanitize draft.name)).isSome q) :=
      List.getElem?_set_self hi
    rw [Operation.edited_edit draft found hq, Operation.refreshed, found]
    exact course_refreshQueryAt analyze (p := ⟨_, blank e, s⟩) false hset
  | refreshed found hq =>
    rw [Operation.refreshed, found]
    exact course_refreshQueryAt analyze (p := ⟨e, blank e, s⟩) false hq
  | swept first hq =>
    obtain ⟨l, hothers, hl⟩ := course_renewOthers analyze e s
    obtain ⟨m, hlead, hm⟩ := course_refreshQueryAt analyze true hq
    refine ⟨l ++ m, hothers.append hlead, ?_⟩
    rw [List.filterMap_append, hl, hm, Operation.refreshed, first]
    rfl
  | renewed readerless =>
    obtain ⟨l, hothers, hl⟩ := course_renewOthers analyze e s
    refine ⟨l, hothers, ?_⟩
    rw [hl, Operation.refreshed, readerless, Option.toList_none, List.append_nil]

/-- Whatever an edit or a refresh is answered, it is a course of inquiries: the queries it is about
are refreshed, readers are rechecked, and what all these spare is as it was, or as the draft has
it. -/
theorem analyses_spare (analyze : Analyzer σ) (op : Operation) (e : Entity) (s : σ)
    (analyzing : op = .refreshAll ∨ (∃ name, op = .refresh name) ∨
      ∃ name draft, op = .edit name draft) :
    ∃ l, Course analyze (op.edited e) s l (op.perform analyze e s).entity
        (op.perform analyze e s).source ∧
      l.filterMap Inquiry.refreshed? = op.refreshed e ∧
      Spared l (op.edited e) (op.perform analyze e s).entity := by
  obtain ⟨l, course, refreshed⟩ := course_perform analyze op e s analyzing
  exact ⟨l, course, refreshed, course.spared⟩

/-- Two readers with a parameter each, of which the first defines the columns. -/
def parameterized : Entity :=
  { name := "Item"
    properties := [⟨"A", "int", "Int32"⟩]
    queries := [{
      name := "Load"
      command := "SELECT A FROM T"
      kind := .text
      execution := .reader
      parameters := [⟨"Id", "int", .int32, false⟩] }, {
      name := "Other"
      command := "SELECT A FROM T"
      kind := .text
      execution := .reader
      parameters := [⟨"Key", "int", .int32, false⟩] }] }

/-- The first reader with the command of the other column. -/
def editLoadToB : Operation := .edit "Load" ⟨"Load", "SELECT B FROM T", .text, .reader⟩

/-- If the edited reader can be analyzed, it changes the columns, and of its sibling, whose analysis
fails then, the flags only. If its own analysis fails, it changes nothing but its flags. -/
theorem analyses_spare_editLoadToB :
    let after := editLoadToB.perform (faltering aOrB) parameterized
    (after 0).entity.properties = [⟨"B", "int", "Int32"⟩] ∧
      (after 0).entity.queries.map (fun q => (q.parameters.map (·.name), q.showError)) =
        [([], false), (["Key"], true)] ∧
      (∃ l, Course (faltering aOrB) (editLoadToB.edited parameterized) 0 l (after 0).entity
          (after 0).source ∧ l.filterMap Inquiry.refreshed? = [0] ∧
        Spared l (editLoadToB.edited parameterized) (after 0).entity) ∧
      (after 1).entity.properties = parameterized.properties ∧
      (after 1).entity.queries.map (fun q => (q.parameters.map (·.name), q.showError)) =
        [(["Id"], true), (["Key"], false)] ∧
      ∃ l, Course (faltering aOrB) (editLoadToB.edited parameterized) 1 l (after 1).entity
          (after 1).source ∧ l.filterMap Inquiry.refreshed? = [0] ∧
        Spared l (editLoadToB.edited parameterized) (after 1).entity := by
  have analyzing : editLoadToB = .refreshAll ∨ (∃ name, editLoadToB = .refresh name) ∨
      ∃ name draft, editLoadToB = .edit name draft := .inr (.inr ⟨_, _, rfl⟩)
  have refreshed : editLoadToB.refreshed parameterized = [0] := by decide
  have course (n : Nat) := analyses_spare (faltering aOrB) editLoadToB parameterized n analyzing
  rw [refreshed] at course
  exact ⟨by decide +kernel, by decide +kernel, course 0, by decide +kernel, by decide +kernel,
    course 1⟩

end Reconciliation
end EntityDesign
