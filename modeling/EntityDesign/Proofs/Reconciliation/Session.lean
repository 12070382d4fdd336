import EntityDesign.Proofs.Reconciliation.Operation

/-! Sessions: operations on one entity, one after the other. A property that every operation keeps
but for some missteps holds all along a session exactly when no misstep is taken. -/
namespace EntityDesign.Reconciliation
variable {σ : Type}

/-- An operation on an entity. An addition brings the answer to its question. -/
inductive Operation where
  | add (draft : Draft) (decide : Question → Bool)
  | edit (name : String) (draft : Draft)
  | refresh (name : String)
  | refreshAll
  | delete (name : String)

/-- What an operation leaves; a refusal or a deletion has no report. -/
structure Aftermath (σ : Type) where
  entity : Entity
  source : σ
  report : Option ChangeReport

def Operation.perform (analyze : Analyzer σ) (op : Operation) (e : Entity) (s : σ) : Aftermath σ :=
  match op with
  | add draft decide =>
    let o := Reconciliation.add analyze draft decide e s
    ⟨o.entity, o.source, o.result.toOption.map (·.1)⟩
  | edit name draft =>
    let o := Reconciliation.edit analyze name draft e s
    ⟨o.entity, o.source, o.result.toOption⟩
  | refresh name =>
    let o := Reconciliation.refresh analyze name e s
    ⟨o.entity, o.source, o.result.toOption⟩
  | refreshAll =>
    let p := Reconciliation.refreshAll analyze e s
    ⟨p.entity, p.source, some p.report⟩
  | delete name =>
    let o := Reconciliation.delete name e s
    ⟨o.entity, o.source, none⟩

/-- What a finished progress leaves. -/
def Progress.aftermath (p : Progress σ) : Aftermath σ := ⟨p.entity, p.source, some p.report⟩

/-- The name an operation asks for, if it is about a query that should be there. -/
def Operation.target : Operation → Option String
  | add .. => none
  | edit name _ => some name
  | refresh name => some name
  | refreshAll => none
  | delete name => some name

/-- The ways in which an operation can go. -/
inductive Performed (analyze : Analyzer σ) (e : Entity) (s : σ) : Operation → Aftermath σ → Prop
  | added {draft : Draft} {decide : Question → Bool}
      {o : Outcome σ (ChangeReport × Option Question)} (way : Added analyze draft decide e s o) :
    Performed analyze e s (.add draft decide) ⟨o.entity, o.source, o.result.toOption.map (·.1)⟩
  /-- There is no query of that name. -/
  | missing {op : Operation} {name : String} (target : op.target = some name)
      (unknown : e.queryIndex? name = none) : Performed analyze e s op ⟨e, s, none⟩
  | edited {name : String} {draft : Draft} {i : Nat} {q : Query}
      (found : e.queryIndex? name = some i) (hq : e.queries[i]? = some q) :
    Performed analyze e s (.edit name draft)
      (refreshQueryAt analyze i false ⟨e.redefined i q draft, blank e, s⟩).aftermath
  | refreshed {name : String} {i : Nat} {q : Query} (found : e.queryIndex? name = some i)
      (hq : e.queries[i]? = some q) : Performed analyze e s (.refresh name)
        (refreshQueryAt analyze i false ⟨e, blank e, s⟩).aftermath
  /-- After the other queries the first reader is refreshed, and then every reader. -/
  | swept {i : Nat} {q : Query} (first : e.queries.findIdx? (·.isReader) = some i)
      (hq : (renewOthers analyze e s).entity.queries[i]? = some q) :
    Performed analyze e s .refreshAll
      (refreshQueryAt analyze i true (renewOthers analyze e s)).aftermath
  /-- There is no reader to refresh. -/
  | renewed (readerless : e.queries.findIdx? (·.isReader) = none) :
    Performed analyze e s .refreshAll (renewOthers analyze e s).aftermath
  | deleted {name : String} {i : Nat} {q : Query} (found : e.queryIndex? name = some i)
      (hq : e.queries[i]? = some q) : Performed analyze e s (.delete name)
        ⟨{ e with queries := e.queries.eraseIdx i }.dropOrphanedColumns, s, none⟩

/-- Every operation goes one of these ways. -/
theorem performed (analyze : Analyzer σ) (op : Operation) (e : Entity) (s : σ) :
    Performed analyze e s op (op.perform analyze e s) := by
  cases op with
  | add draft decide => exact .added (added analyze draft decide e s)
  | edit name draft =>
    cases found : e.queryIndex? name with
    | none =>
      simp only [Operation.perform, edit, withQuery_none found]
      exact .missing rfl found
    | some i =>
      obtain ⟨q, hq, -⟩ := Entity.exists_of_queryIndex? found
      simp only [Operation.perform, edit_eq analyze draft found hq]
      exact .edited found hq
  | refresh name =>
    cases found : e.queryIndex? name with
    | none =>
      simp only [Operation.perform, refresh, withQuery_none found]
      exact .missing rfl found
    | some i =>
      obtain ⟨q, hq, -⟩ := Entity.exists_of_queryIndex? found
      simp only [Operation.perform, refresh, withQuery_some found]
      exact .refreshed found hq
  | refreshAll =>
    simp only [Operation.perform]
    have way := refreshedAll analyze e s
    generalize refreshAll analyze e s = p at way
    cases way with
    | readerless first => exact .renewed first
    | led first _ _ hpass => exact .swept first hpass
  | delete name =>
    cases found : e.queryIndex? name with
    | none =>
      simp only [Operation.perform, delete, withQuery_none found]
      exact .missing rfl found
    | some i =>
      obtain ⟨q, hq, -⟩ := Entity.exists_of_queryIndex? found
      simp only [Operation.perform, delete_eq found hq]
      exact .deleted found hq

theorem place_refreshQueryAt {analyze : Analyzer σ} {i : Nat} {q : Query} {p : Progress σ}
    (cascade : Bool) (h : p.entity.queries[i]? = some q) :
    (refreshQueryAt analyze i cascade p).entity.place = p.entity.place := by
  rw [refreshQueryAt_eq analyze cascade h]
  split <;> rfl

/-- No operation renames or moves the entity. -/
theorem place_perform (analyze : Analyzer σ) (op : Operation) (e : Entity) (s : σ) :
    (op.perform analyze e s).entity.place = e.place := by
  have way := performed analyze op e s
  generalize op.perform analyze e s = after at way ⊢
  cases way with
  | added way =>
    cases way with
    | taken | failed | kept | adopted | declined => rfl
    | replaced _ _ _ _ _ _ refreshed =>
      rw [refreshed]
      exact place_refreshQueryAt true (Entity.getElem?_appended _ _)
  | missing | renewed => rfl
  | edited found hq =>
    obtain ⟨hi, -⟩ := List.getElem?_eq_some_iff.1 hq
    exact place_refreshQueryAt false (List.getElem?_set_self hi)
  | refreshed found hq => exact place_refreshQueryAt false hq
  | swept first hq => exact place_refreshQueryAt true hq
  | deleted => exact Entity.place_dropOrphanedColumns _

/-- The entity and the source after a session. -/
def run (analyze : Analyzer σ) (ops : List Operation) (e : Entity) (s : σ) : Entity × σ :=
  ops.foldl (fun p op => let a := op.perform analyze p.1 p.2; (a.entity, a.source)) (e, s)

/-- A source that answers and never moves. -/
def unmoved (answer : String → CommandKind → Answer) : Analyzer Unit := fun command kind s =>
  (answer command kind, s)

/-- The answers of a list of commands with their columns; other commands fail. -/
def listed (results : List (String × List Column)) (command : String) (_ : CommandKind) : Answer :=
  match results.lookup command with
  | some columns => .ok { columns }
  | none => .error (.database "unknown command")

/-- The source answers by command and kind alone. -/
def Steady (analyze : Analyzer σ) (answer : String → CommandKind → Answer) : Prop :=
  ∀ command kind s, (analyze command kind s).1 = answer command kind

theorem steady_unmoved (answer : String → CommandKind → Answer) : Steady (unmoved answer) answer :=
  fun _ _ _ => rfl

section
variable (analyze : Analyzer σ) (e : Entity) (s : σ)

/-- What every operation keeps, a session keeps. -/
theorem run_invariant {P : Entity → Prop}
    (step : ∀ e s (op : Operation), P e → P (op.perform analyze e s).entity) (start : P e)
    (ops : List Operation) : P (run analyze ops e s).1 :=
  List.foldlRecOn (motive := fun p : Entity × σ => P p.1) ops _ start fun p h op _ =>
    step p.1 p.2 op h

/-- What every operation keeps unless it is a misstep holds all along a session if and only if no
misstep is taken. -/
theorem run_invariant_iff {P : Entity → Prop} {Misstep : Entity → Operation → Prop}
    (step : ∀ e s (op : Operation), P e → (P (op.perform analyze e s).entity ↔ ¬Misstep e op))
    (start : P e) (ops : List Operation) :
    (∀ before, before <+: ops → P (run analyze before e s).1) ↔
      ∀ before op, before ++ [op] <+: ops → ¬Misstep (run analyze before e s).1 op :=
  foldl_prefix_iff (P := fun p : Entity × σ => P p.1) (Q := fun p => Misstep p.1)
    (fun p op h => step p.1 p.2 op h) start ops

end

/-- Two commands of a sample source: one without a result, one with a column. -/
def purgeAndLoad : String → CommandKind → Answer :=
  listed [("DELETE FROM T", []), ("SELECT A FROM T", [⟨"A", "int", "Int32", false⟩])]

def addPurge : Operation := .add ⟨"Purge", "DELETE FROM T", .text, .reader⟩ fun _ => true

def addLoad : Operation := .add ⟨"Load", "SELECT A FROM T", .text, .reader⟩ fun _ => true

end EntityDesign.Reconciliation
