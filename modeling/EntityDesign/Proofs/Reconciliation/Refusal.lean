import EntityDesign.Proofs.Editing.Entity
import EntityDesign.Proofs.Reconciliation.Recording
import EntityDesign.Proofs.Reconciliation.Report

/-! Refusals. An operation ends with an error only if the name it needs is in use or missing,
whatever the source would answer. It has then changed nothing and asked nothing. -/
namespace EntityDesign.Reconciliation
open Identifier

variable {σ : Type}

/-- The error that stands in place of a result. -/
def Outcome.error? {α : Type} (o : Outcome σ α) : Option EditError :=
  match o.result with
  | .error error => some error
  | .ok _ => none

/-- The error with which an operation ends. -/
def Operation.error? (analyze : Analyzer σ) (op : Operation) (e : Entity) (s : σ) :
    Option EditError :=
  match op with
  | add draft decide => (Reconciliation.add analyze draft decide e s).error?
  | edit name draft => (Reconciliation.edit analyze name draft e s).error?
  | refresh name => (Reconciliation.refresh analyze name e s).error?
  | refreshAll => none
  | delete name => (Reconciliation.delete name e s).error?

/-- What there is to object to an operation, by the names of the queries alone. -/
inductive Objection (e : Entity) : Operation → EditError → Prop
  | taken {draft : Draft} {decide : Question → Bool} (used : sanitize draft.name ∈ e.queryNames) :
    Objection e (.add draft decide) (.duplicateQuery e.name (sanitize draft.name))
  | missing {op : Operation} {name : String} (target : op.target = some name)
      (unknown : name ∉ e.queryNames) : Objection e op (.queryNotFound e.name name)

theorem Objection.refused {e : Entity} {op : Operation} {error : EditError}
    (h : Objection e op error) : op.Refused e := by
  cases h with
  | taken used => exact used
  | missing target unknown =>
    cases op with
    | add | refreshAll => cases target
    | edit | refresh | delete =>
      cases target
      exact unknown

section
variable {analyze : Analyzer σ} {e : Entity} {s : σ} {error : EditError}

/-- An addition that finds its name free has no error, not even from the step that appends the
query behind changed columns. -/
theorem error?_of_added {draft : Draft} {decide : Question → Bool}
    {o : Outcome σ (ChangeReport × Option Question)} (way : Added analyze draft decide e s o) :
    o.error? = some error ↔ Objection e (.add draft decide) error := by
  constructor
  · intro h
    cases way with
    | taken used =>
      cases h
      exact .taken ((e.isSome_queryIndex?_iff _).1 used)
    | failed | kept | adopted | replaced | declined => cases h
  · intro h
    cases h with
    | missing target => cases target
    | taken used =>
      have taken := (e.isSome_queryIndex?_iff _).2 used
      cases way with
      | taken => rfl
      | failed free | kept free | adopted free | replaced free | declined free =>
        rw [show draft.query.name = sanitize draft.name from rfl] at free
        simp [free] at taken

theorem error?_withQuery {α : Type} {name : String} {f : Nat → Outcome σ α}
    (ok : ∀ i q, e.queries[i]? = some q → (f i).error? = none) :
    (withQuery e name s f).error? = some error ↔
      name ∉ e.queryNames ∧ error = .queryNotFound e.name name := by
  cases found : e.queryIndex? name with
  | none =>
    have unknown := (e.queryIndex?_eq_none_iff_notMem name).1 found
    rw [withQuery_none found, Outcome.error?, Option.some.injEq, and_iff_right unknown, eq_comm]
  | some i =>
    have known := (e.isSome_queryIndex?_iff name).1 (by simp [found])
    obtain ⟨q, hq, -⟩ := Entity.exists_of_queryIndex? found
    rw [withQuery_some found, ok i q hq]
    simp [known]

theorem objection_iff_of_target {op : Operation} (name : String) (target : op.target = some name) :
    Objection e op error ↔ name ∉ e.queryNames ∧ error = .queryNotFound e.name name := by
  constructor
  · intro h
    cases h with
    | taken => cases target
    | missing target' unknown =>
      cases target.symm.trans target'
      exact ⟨unknown, rfl⟩
  · rintro ⟨unknown, rfl⟩
    exact .missing target unknown

theorem error?_eq_some_iff (op : Operation) :
    op.error? analyze e s = some error ↔ Objection e op error := by
  cases op with
  | add draft decide => exact error?_of_added (added analyze draft decide e s)
  | edit name draft =>
    rw [objection_iff_of_target name rfl]
    apply error?_withQuery
    intros
    rfl
  | refresh name =>
    rw [objection_iff_of_target name rfl]
    apply error?_withQuery
    intros
    rfl
  | refreshAll =>
    constructor
    · intro h
      cases h
    · intro h
      exact h.refused.elim
  | delete name =>
    rw [objection_iff_of_target name rfl]
    apply error?_withQuery
    intro i q hq
    simp [Entity.removeQuery_eq_map, hq, Outcome.error?]

end

/-- An operation ends with an error exactly when there is an objection to it, and with that error:
an addition when its name is in use, any other operation on a query when no query has that name.
It leaves the entity and the source as they were, and nothing was analyzed. -/
theorem refused_exactly (analyze : Analyzer σ) (op : Operation) (e : Entity) (s : σ)
    (error : EditError) :
    (op.error? analyze e s = some error ↔ Objection e op error) ∧
      (op.error? analyze e s = some error → (op.perform analyze e s).entity = e ∧
        (op.perform analyze e s).source = s ∧
        (op.perform (recorded analyze) e (s, [])).source.2 = []) := by
  refine ⟨error?_eq_some_iff op, fun failed => ?_⟩
  have refused := ((error?_eq_some_iff op).1 failed).refused
  have recording : (op.perform (recorded analyze) e (s, [])).source = (s, []) :=
    (perform_of_refused refused).2
  obtain ⟨entity, source⟩ : (op.perform analyze e s).entity = e ∧
      (op.perform analyze e s).source = s := perform_of_refused refused
  exact ⟨entity, source, congrArg (·.2) recording⟩

/-- An entity as a document may hold it, with two queries of one name. -/
def twins : Entity :=
  { name := "Item"
    properties := [⟨"A", "int", "Int32"⟩]
    queries := [⟨"_1st_load", "SELECT A FROM T", .text, .reader, [], false, true, false⟩,
      ⟨"_1st_load", "SELECT B FROM T", .text, .reader, [], true, false, false⟩] }

/-- A reader whose name becomes that of the twins. -/
def addTwin : Operation := .add ⟨"1st load", "SELECT B FROM T", .text, .reader⟩ fun _ => true

/-- Its addition is refused before the columns can give way, and so is a refresh under the name that
was typed. -/
theorem refused_exactly_twins :
    (addTwin.error? (faltering aOrB) twins 0 = some (.duplicateQuery "Item" "_1st_load") ∧
      (addTwin.perform (faltering aOrB) twins 0).entity = twins ∧
      (addTwin.perform (recorded (faltering aOrB)) twins (0, [])).source.2 = []) ∧
    (Operation.refresh "1st load").error? (faltering aOrB) twins 0 =
      some (.queryNotFound "Item" "1st load") := by
  have used : Objection twins addTwin (.duplicateQuery "Item" "_1st_load") := by
    have name : sanitize "1st load" = "_1st_load" := by decide +kernel
    rw [← name]
    apply Objection.taken
    rw [name]
    decide
  have unknown : Objection twins (.refresh "1st load") (.queryNotFound "Item" "1st load") := by
    apply Objection.missing rfl
    decide
  obtain ⟨error, untouched⟩ := refused_exactly (faltering aOrB) addTwin twins 0 _
  obtain ⟨entity, -, unasked⟩ := untouched (error.2 used)
  exact ⟨⟨error.2 used, entity, unasked⟩, (refused_exactly _ _ _ _ _).1.2 unknown⟩

end EntityDesign.Reconciliation
