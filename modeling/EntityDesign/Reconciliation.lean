import EntityDesign.Analysis
import EntityDesign.ChangeReport

/-! Keeping the columns of an entity and the queries bound to it in step. The first reader defines
the columns; a later reader that does not fit replaces them only after a decision; whenever the
columns change, the other readers are analyzed again and flagged if they no longer fit. -/
namespace EntityDesign

/-- What the user enters for a new or changed query. -/
structure Draft where
  name : String
  command : String
  kind : CommandKind
  execution : Execution
  deriving DecidableEq, Repr

def Draft.query (d : Draft) : Query := Query.named d.name d.command d.kind d.execution

/-- What is asked before the columns of an entity are replaced. -/
structure Question where
  query : String
  mismatches : List Mismatch
  deriving DecidableEq, Repr

namespace Reconciliation
variable {σ : Type}

/-- The result of an operation, with the entity and the source of answers as it left them. -/
structure Outcome (σ α : Type) where
  result : Except EditError α
  entity : Entity
  source : σ

/-- An operation under way. -/
structure Progress (σ : Type) where
  entity : Entity
  report : ChangeReport
  source : σ

/-- Analyzes a query anew. On success it takes the parameters that were found. -/
def reanalyze (analyze : Analyzer σ) (q : Query) (r : ChangeReport) (s : σ) :
    Option Signature × Query × ChangeReport × σ :=
  match analyze q.command q.kind s with
  | (.ok sig, s) =>
    (some sig, { q with parameters := sig.parameters }.approve, r.addOk q.name, s)
  | (.error e, s) => (none, q.flag, r.addFailure q.name e.message, s)

/-- Checks whether the result of a query fits the entity `e`, and flags it. -/
def recheck (analyze : Analyzer σ) (e : Entity) (q : Query) (r : ChangeReport) (s : σ) :
    Query × ChangeReport × σ :=
  match analyze q.command q.kind s with
  | (.ok sig, s) =>
    if (e.mismatches sig true).isEmpty then (q.approve, r.addOk q.name, s)
    else (q.flag, r.addUnfit q.name, s)
  | (.error e, s) => (q.flag, r.addFailure q.name e.message, s)

/-- Replaces in order the queries picked by position and value; `i` is the first position. -/
def visit (pick : Nat → Query → Bool) (f : Query → ChangeReport → σ → Query × ChangeReport × σ)
    (i : Nat) : List Query → ChangeReport → σ → List Query × ChangeReport × σ
  | [], r, s => ([], r, s)
  | q :: qs, r, s =>
    let (q, r, s) := if pick i q then f q r s else (q, r, s)
    let (qs, r, s) := visit pick f (i + 1) qs r s
    (q :: qs, r, s)

def visitAll (pick : Nat → Query → Bool) (f : Query → ChangeReport → σ → Query × ChangeReport × σ)
    (p : Progress σ) : Progress σ :=
  let (queries, report, source) := visit pick f 0 p.entity.queries p.report p.source
  ⟨{ p.entity with queries }, report, source⟩

/-- Rechecks every reader except the one at `index` against the columns of the entity. -/
def recheckReaders (analyze : Analyzer σ) (index : Nat) (p : Progress σ) : Progress σ :=
  visitAll (fun i q => i != index && q.isReader) (recheck analyze p.entity) p

/-- Refreshes the query at `index`. A reader defines the columns anew; if they change, or if
`cascade` is set, the other readers are rechecked. -/
def refreshQueryAt (analyze : Analyzer σ) (index : Nat) (cascade : Bool) (p : Progress σ) :
    Progress σ :=
  match p.entity.queries[index]? with
  | none => p
  | some q =>
    let (found, q', report, source) := reanalyze analyze q p.report p.source
    let (changed, entity) := match found with
      | some sig => if q.isReader then p.entity.adoptColumns sig else (false, p.entity)
      | none => (false, p.entity)
    let entity := entity.modifyQuery index fun _ => q'
    let report := if changed then { report with columnsChanged := true } else report
    if changed || cascade then recheckReaders analyze index ⟨entity, report, source⟩
    else ⟨entity, report, source⟩

/-- What a new query does to the columns. -/
inductive Effect where
  /-- They stay. -/
  | keep
  /-- The entity had none and takes those of the query. -/
  | adopt
  /-- They give way after a question. -/
  | replace (asked : Question)
  /-- The question was answered with no. -/
  | decline (asked : Question)
  deriving DecidableEq, Repr

def effect (e : Entity) (q : Query) (sig : Signature) (decide : Question → Bool) : Effect :=
  if !q.isReader then .keep
  else if e.properties.isEmpty then .adopt
  else
    let asked : Question := ⟨q.name, e.mismatches sig false⟩
    if asked.mismatches.isEmpty then .keep
    else if decide asked then .replace asked
    else .decline asked

/-- Appends a query and finishes the report; after a replacement the other readers follow. -/
def append (analyze : Analyzer σ) (q : Query) (asked : Option Question) (p : Progress σ) :
    Outcome σ (ChangeReport × Option Question) :=
  match p.entity.addQuery q with
  | .error e => ⟨.error e, p.entity, p.source⟩
  | .ok entity =>
    if asked.isSome then
      let p := refreshQueryAt analyze p.entity.queries.length true
        ⟨entity, { p.report with suppressed := true }, p.source⟩
      ⟨.ok (p.report, asked), p.entity, p.source⟩
    else ⟨.ok (p.report, asked), entity, p.source⟩

/-- Adds a query. A query that cannot be analyzed is added as well, flagged. Besides the report the
result holds the question that was asked. -/
def add (analyze : Analyzer σ) (draft : Draft) (decide : Question → Bool) (e : Entity) (s : σ) :
    Outcome σ (ChangeReport × Option Question) :=
  let q := draft.query
  let report : ChangeReport := { entity := e.name }
  if (e.queryIndex? q.name).isSome then ⟨.error (.duplicateQuery e.name q.name), e, s⟩
  else
    match analyze q.command q.kind s with
    | (.error err, s) =>
      append analyze q.flag none ⟨e, report.addFailure q.name err.message, s⟩
    | (.ok sig, s) =>
      let ready := { q with parameters := sig.parameters }.approve
      match effect e q sig decide with
      | .keep => append analyze ready none ⟨e, report.addOk q.name, s⟩
      | .adopt =>
        let (columnsChanged, e) := e.adoptColumns sig
        append analyze ready none ⟨e, { report with columnsChanged }.addOk q.name, s⟩
      | .replace asked =>
        let (columnsChanged, e) := e.adoptColumns sig
        let report := { report with mismatches := asked.mismatches, columnsChanged }
        append analyze ready (some asked) ⟨e, report.addOk q.name, s⟩
      | .decline asked =>
        ⟨.ok ({ report with mismatches := asked.mismatches, accepted := false }, some asked), e, s⟩

/-- Runs an operation on the position of the query called `name`. -/
def withQuery {α : Type} (e : Entity) (name : String) (s : σ) (f : Nat → Outcome σ α) :
    Outcome σ α :=
  match e.queryIndex? name with
  | none => ⟨.error (.queryNotFound e.name name), e, s⟩
  | some index => f index

def refreshOne (analyze : Analyzer σ) (e : Entity) (s : σ) (index : Nat) : Outcome σ ChangeReport :=
  let p := refreshQueryAt analyze index false ⟨e, { entity := e.name }, s⟩
  ⟨.ok p.report, p.entity, p.source⟩

/-- Replaces the definition of a query and refreshes it. A new name that is taken is ignored. -/
def edit (analyze : Analyzer σ) (name : String) (draft : Draft) (e : Entity) (s : σ) :
    Outcome σ ChangeReport :=
  withQuery e name s fun index =>
    let renamed := if Identifier.sanitize draft.name = name then e
      else (e.renameQuery name draft.name).getD e
    let edited := renamed.modifyQuery index fun q =>
      { q with command := draft.command, kind := draft.kind, execution := draft.execution }
    refreshOne analyze edited s index

/-- Analyzes one query anew. -/
def refresh (analyze : Analyzer σ) (name : String) (e : Entity) (s : σ) : Outcome σ ChangeReport :=
  withQuery e name s (refreshOne analyze e s)

/-- Analyzes every query anew: the others first, then the first reader, against whose columns the
remaining readers are rechecked. -/
def refreshAll (analyze : Analyzer σ) (e : Entity) (s : σ) : Progress σ :=
  let p := visitAll (fun _ q => !q.isReader) (fun q r s => (reanalyze analyze q r s).2)
    ⟨e, { entity := e.name }, s⟩
  match p.entity.queries.findIdx? (·.isReader) with
  | some index => refreshQueryAt analyze index true p
  | none => p

/-- Removes a query, and the columns with the last reader. -/
def delete (name : String) (e : Entity) (s : σ) : Outcome σ Query :=
  withQuery e name s fun index =>
    match e.removeQuery index with
    | some (q, e) => ⟨.ok q, e, s⟩
    | none => ⟨.error (.queryNotFound e.name name), e, s⟩

end Reconciliation
end EntityDesign
