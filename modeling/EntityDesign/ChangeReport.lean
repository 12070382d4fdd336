import EntityDesign.Compatibility

/-! What happened to an entity while a query was added, edited or refreshed. -/
namespace EntityDesign

/-- A query that could not be analyzed. -/
structure Failure where
  query : String
  message : String
  deriving DecidableEq, Repr

structure ChangeReport where
  entity : String
  /-- False when a replacement of the columns was declined. -/
  accepted : Bool := true
  columnsChanged : Bool := false
  /-- The mismatches a decision was asked about. -/
  mismatches : List Mismatch := []
  /-- Queries that were analyzed and fit. -/
  ok : List String := []
  /-- Readers that no longer fit. -/
  unfit : List String := []
  failures : List Failure := []
  /-- The summary must not be shown. -/
  suppressed : Bool := false
  deriving DecidableEq, Repr

namespace ChangeReport

def addOk (r : ChangeReport) (query : String) : ChangeReport :=
  if query ∈ r.ok then r else { r with ok := r.ok ++ [query] }

def dropOk (r : ChangeReport) (query : String) : ChangeReport :=
  { r with ok := r.ok.filter (· != query) }

def addUnfit (r : ChangeReport) (query : String) : ChangeReport :=
  let r := r.dropOk query
  if query ∈ r.unfit then r else { r with unfit := r.unfit ++ [query] }

def addFailure (r : ChangeReport) (query message : String) : ChangeReport :=
  let r := r.dropOk query
  { r with failures := r.failures ++ [⟨query, message⟩] }

def needsAttention (r : ChangeReport) : Bool := !r.unfit.isEmpty || !r.failures.isEmpty

/-- The message that lists the queries that no longer fit, unless it is suppressed. -/
def summary (r : ChangeReport) : Option String :=
  if r.suppressed then none
  else
    match r.unfit with
    | [] => none
    | [q] => some ("The result returned by the query '" ++ q ++
        "' is not compatible with the entity '" ++ r.entity ++ "'.")
    | qs => some (
        "The result returned by the following queries is not compatible with the entity '" ++
          r.entity ++ "':\n - " ++ "\n - ".intercalate qs)

end ChangeReport
end EntityDesign
