import EntityDesign.Proofs.Editing.Session
import EntityDesign.Proofs.Identifier

/-! The names in an edited design. They differ and sanitizing leaves them alone, whatever is edited.
The validator also wants them not to be empty, which no edit looks at. -/
namespace EntityDesign.Editing
open Identifier Reconciliation
variable {σ : Type}

/-- Names that differ and that sanitizing leaves alone. -/
def Orderly (names : List String) : Prop := names.Nodup ∧ ∀ name ∈ names, sanitize name = name

theorem orderly_nil : Orderly [] := ⟨List.nodup_nil, by simp⟩

/-- A text for a name is sanitized before it is compared and before it is taken. -/
theorem orderly_of_naming {α : Type} {names : α → List String} {given : Option String}
    {before after : α} (h : Naming names given before after) (orderly : Orderly (names before)) :
    Orderly (names after) := by
  constructor
  · exact h.nodup orderly.1
  · intro name hname
    rcases h.mem hname with old | ⟨text, -, rfl⟩
    · exact orderly.2 name old
    · exact sanitize_sanitize text

theorem named_orderly_run (analyze : Analyzer σ) (edits : List Edit) (s : σ) :
    Named Orderly (run analyze edits s).1 := by
  have start : Named Orderly {} := ⟨orderly_nil, fun _ h => absurd h List.not_mem_nil⟩
  apply List.foldlRecOn (motive := fun p : Design × σ => Named Orderly p.1) edits _ start
  intro p named edit _
  exact (edit.step_perform p.1 p.2).named orderly_nil orderly_of_naming named

/-- All through a session the names of the entities are orderly, and so are those of the queries of
each entity. An edit is refused for the reasons that `Edit.Refused` lists, and then the design stays
as it was. -/
theorem run_orderly (analyze : Analyzer σ) (edits : List Edit) (s : σ) :
    Named Orderly (run analyze edits s).1 ∧
    ∀ edit : Edit,
      let after := edit.perform analyze (run analyze edits s).1 (run analyze edits s).2
      (after.refused = true ↔ edit.Refused (run analyze edits s).1) ∧
        (after.refused = true → after.value = (run analyze edits s).1) := by
  constructor
  · exact named_orderly_run analyze edits s
  · intro edit
    refine ⟨edit.refused_iff _ _, ?_⟩
    intro refused
    rw [Edit.perform_of_refused refused]

/-- A query that is renamed by an edit, in an entity whose name is not the text it was given. -/
def orderLine : List Edit :=
  [.addEntity "order line" 10 10, .within 0 (.reconcile addLoad),
    .within 0 (.reconcile (.edit "Load" ⟨"1st load", "SELECT A FROM T", .text, .reader⟩))]

/-- Another text for the same name is refused. -/
theorem orderly_orderLine :
    let p := run (unmoved purgeAndLoad) orderLine ()
    p.1.entityNames = ["order_line"] ∧
      p.1.entities.map (·.queryNames) = [["_1st_load"]] ∧ Named Orderly p.1 ∧
      ((Edit.addEntity "order-line" 50 50).perform (unmoved purgeAndLoad) p.1 p.2).value = p.1 := by
  obtain ⟨orderly, refusals⟩ := run_orderly (unmoved purgeAndLoad) orderLine ()
  have names : (run (unmoved purgeAndLoad) orderLine ()).1.entityNames = ["order_line"] := by
    decide +kernel
  have taken : (Edit.addEntity "order-line" 50 50).Refused
      (run (unmoved purgeAndLoad) orderLine ()).1 := by
    rw [Edit.Refused, names]
    decide +kernel
  refine ⟨names, by decide +kernel, orderly, ?_⟩
  exact (refusals _).2 ((refusals _).1.2 taken)

/-- An edit that lets in the empty name. -/
def Edit.Blanks (analyze : Analyzer σ) (edit : Edit) (d : Design) (s : σ) : Prop :=
  edit.givenName = some "" ∧ (edit.perform analyze d s).value ≠ d

/-- Names that the validator accepts. -/
def Legal (names : List String) : Prop := ∀ name ∈ names, IsName name

theorem legal_nil : Legal [] := by simp [Legal]

theorem not_legal_of_mem {names : List String} (h : sanitize "" ∈ names) : ¬Legal names :=
  fun legal => (legal _ h).1 sanitize_empty

theorem named_legal_iff (d : Design) : Named Legal d ↔ ∀ p ∈ d.problems, p.isNaming = false := by
  simp [Design.forall_isNaming_iff, Named, Legal, Design.entityNames, Entity.queryNames, forall_and]

/-- Without an empty text, what is let in is accepted. -/
theorem legal_of_naming {α : Type} {names : α → List String} {given : Option String}
    {before after : α} (filled : given ≠ some "") (h : Naming names given before after)
    (legal : Legal (names before)) : Legal (names after) := by
  intro name hname
  rcases h.mem hname with old | ⟨text, asked, rfl⟩
  · exact legal name old
  · refine ⟨fun empty => filled ?_, sanitize_sanitize text⟩
    rw [sanitize_eq_empty_iff] at empty
    exact empty ▸ asked

/-- An edit keeps all names acceptable unless it lets in the empty one. -/
theorem Edit.legal_perform_iff {analyze : Analyzer σ} {edit : Edit} {d : Design} {s : σ}
    (legal : Named Legal d) :
    Named Legal (edit.perform analyze d s).value ↔ ¬edit.Blanks analyze d s := by
  have step : Step edit.givenName d (edit.perform analyze d s).value := edit.step_perform d s
  constructor
  · rintro after ⟨given, changed⟩
    rw [given] at step
    rcases step.entered with same | entered | ⟨e, he, entered⟩
    · exact changed same
    · exact not_legal_of_mem entered after.1
    · exact not_legal_of_mem entered (after.2 e he)
  · intro proper
    by_cases given : edit.givenName = some ""
    · have same : (edit.perform analyze d s).value = d := by
        by_contra changed
        exact proper ⟨given, changed⟩
      rwa [same]
    · exact step.named legal_nil (legal_of_naming given) legal

/-- What the validator has to say about names is about empty ones. It has nothing to say all through
a session if and only if no edit lets in the empty name. -/
theorem run_legal_iff (analyze : Analyzer σ) (edits : List Edit) (s : σ) :
    (∀ p ∈ (run analyze edits s).1.problems, p.isNaming = true → p.isEmptyName = true) ∧
    ((∀ before, before <+: edits →
        ∀ p ∈ (run analyze before s).1.problems, p.isNaming = false) ↔
      ∀ before edit, before ++ [edit] <+: edits →
        ¬edit.Blanks analyze (run analyze before s).1 (run analyze before s).2) := by
  constructor
  · obtain ⟨entities, queries⟩ := named_orderly_run analyze edits s
    rw [Design.forall_isEmptyName_iff]
    intro e he
    refine .inr ⟨entities.2 _ (List.mem_map_of_mem he), ?_⟩
    intro q hq
    exact (queries e he).2 _ (List.mem_map_of_mem hq)
  · have start : Named Legal {} := ⟨legal_nil, fun _ h => absurd h List.not_mem_nil⟩
    simp only [← named_legal_iff]
    exact foldl_prefix_iff (f := advance analyze) (b := ({}, s)) (P := fun p => Named Legal p.1)
      (Q := fun p edit => edit.Blanks analyze p.1 p.2) (fun _ edit => edit.legal_perform_iff) start
      edits

/-- Where texts are given that are not empty, there is nothing to say. -/
theorem legal_orderLine : ∀ before, before <+: orderLine →
    ∀ p ∈ (run (unmoved purgeAndLoad) before ()).1.problems, p.isNaming = false := by
  refine (run_legal_iff (unmoved purgeAndLoad) orderLine ()).2.2 fun before edit hb blanks => ?_
  have filled : ∀ edit ∈ orderLine, edit.givenName ≠ some "" := by
    simp [orderLine, Edit.givenName, Change.givenName, Operation.givenName, addLoad]
  exact filled edit (hb.subset (by simp)) blanks.1

/-- The empty text makes an entity and a query that the validator does not accept. -/
theorem not_legal_unnamed :
    .emptyEntityName ∈ (run (unmoved purgeAndLoad) [.addEntity "" 0 0] ()).1.problems ∧
    .unsafeQueryName "Item" "" ∈ (run (unmoved purgeAndLoad) [.addEntity "Item" 0 0,
      .within 0 (.addQuery ⟨"", "SELECT A FROM T", .text, .reader⟩)] ()).1.problems := by
  decide +kernel

end EntityDesign.Editing
