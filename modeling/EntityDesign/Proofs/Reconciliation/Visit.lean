import EntityDesign.Reconciliation

/-! Visiting the queries of an entity. Each position keeps its query or gets the one its visit made;
when a visit is one analysis, the answers of the source decide everything. -/
namespace EntityDesign

/-- What a source says about a command. -/
abbrev Answer := Except AnalysisFault Signature

namespace Reconciliation
variable {σ : Type}

/-- The queries that a visit starting at position `i` picks, in order. -/
def picked (pick : Nat → Query → Bool) (i : Nat) : List Query → List Query
  | [] => []
  | q :: qs => if pick i q then q :: picked pick (i + 1) qs else picked pick (i + 1) qs

/-- Asks about one query after the other. -/
def consult (analyze : Analyzer σ) : List Query → σ → List Answer × σ
  | [], s => ([], s)
  | q :: qs, s =>
    let (a, s) := analyze q.command q.kind s
    let (as, s) := consult analyze qs s
    (a :: as, s)

/-- A visit by one analysis, whose answer decides about the query and the report. -/
def inspect (analyze : Analyzer σ) (mark : Query → Answer → Query)
    (note : Query → Answer → ChangeReport → ChangeReport) (q : Query) (r : ChangeReport) (s : σ) :
    Query × ChangeReport × σ :=
  let (a, s) := analyze q.command q.kind s
  (mark q a, note q a r, s)

theorem picked_sublist (pick : Nat → Query → Bool) (i : Nat) (qs : List Query) :
    (picked pick i qs).Sublist qs := by
  induction qs generalizing i with
  | nil => exact .slnil
  | cons q qs ih =>
    rw [picked]
    split
    · exact (ih (i + 1)).cons_cons q
    · exact (ih (i + 1)).cons q

@[simp] theorem length_consult (analyze : Analyzer σ) (qs : List Query) (s : σ) :
    (consult analyze qs s).1.length = qs.length := by
  induction qs generalizing s with
  | nil => rfl
  | cons q qs ih => simp [consult, ih]

/-- What is said of each answer is said under the names of the queries. -/
theorem map_fst_zipWith_consult {β : Type} (analyze : Analyzer σ) (f : Answer → β)
    (qs : List Query) (s : σ) :
    (qs.zipWith (fun q a => (q.name, f a)) (consult analyze qs s).1).map (·.1) =
      qs.map (·.name) := by
  induction qs generalizing s with
  | nil => rfl
  | cons q qs ih => simp [consult, ih]

section Visit
variable (pick : Nat → Query → Bool)

@[simp] theorem length_visit (f : Query → ChangeReport → σ → Query × ChangeReport × σ) (i : Nat)
    (qs : List Query) (r : ChangeReport) (s : σ) :
    (visit pick f i qs r s).1.length = qs.length := by
  induction qs generalizing i r s with
  | nil => rfl
  | cons q qs ih => simp [visit, ih]

/-- A visit keeps every query that is not picked and replaces the others by what `f` makes. -/
theorem visit_getElem? {f : Query → ChangeReport → σ → Query × ChangeReport × σ} {i j : Nat}
    {qs : List Query} {r : ChangeReport} {s : σ} {q' : Query}
    (h : (visit pick f i qs r s).1[j]? = some q') :
    ∃ q, qs[j]? = some q ∧
      (pick (i + j) q = false ∧ q' = q ∨ pick (i + j) q = true ∧ ∃ r s, q' = (f q r s).1) := by
  induction qs generalizing i j r s with
  | nil => simp [visit] at h
  | cons q qs ih =>
    cases j with
    | zero =>
      refine ⟨q, rfl, ?_⟩
      by_cases hp : pick i q
      · simp only [visit, hp, ↓reduceIte, List.getElem?_cons_zero, Option.some.injEq] at h
        exact .inr ⟨hp, r, s, h.symm⟩
      · simp only [visit, hp, List.getElem?_cons_zero, Option.some.injEq] at h
        exact .inl ⟨by simpa using hp, h.symm⟩
    | succ j =>
      simp only [visit, List.getElem?_cons_succ] at h
      obtain ⟨q₀, hq, hc⟩ := ih h
      rw [Nat.add_right_comm, Nat.add_assoc] at hc
      exact ⟨q₀, hq, hc⟩

/-- A visit leaves queries that are as it would make them. -/
theorem visit_eq_self {f : Query → ChangeReport → σ → Query × ChangeReport × σ} {i : Nat}
    {qs : List Query} {r : ChangeReport} {s : σ}
    (fixed : ∀ j q, qs[j]? = some q → pick (i + j) q = true → ∀ r s, (f q r s).1 = q) :
    (visit pick f i qs r s).1 = qs := by
  induction qs generalizing i r s with
  | nil => rfl
  | cons q qs ih =>
    have others (r : ChangeReport) (s : σ) : (visit pick f (i + 1) qs r s).1 = qs := by
      apply ih
      intro j p hp hpick
      apply fixed (j + 1) p hp
      rwa [show i + (j + 1) = i + 1 + j by omega]
    by_cases hpick : pick i q
    · simp [visit, hpick, others, fixed 0 q rfl hpick]
    · simp [visit, hpick, others]

/-- What `f` keeps of a query, a visit keeps of all queries. -/
theorem map_visit {β : Type} (g : Query → β)
    {f : Query → ChangeReport → σ → Query × ChangeReport × σ} (kept : ∀ q r s, g (f q r s).1 = g q)
    (i : Nat) (qs : List Query) (r : ChangeReport) (s : σ) :
    (visit pick f i qs r s).1.map g = qs.map g := by
  induction qs generalizing i r s with
  | nil => rfl
  | cons q qs ih => by_cases h : pick i q <;> simp [visit, h, ih, kept]

variable (analyze : Analyzer σ) (mark : Query → Answer → Query)
  (note : Query → Answer → ChangeReport → ChangeReport)

/-- A visit by analysis asks about the picked queries in order. -/
theorem visit_inspect_source (i : Nat) (qs : List Query) (r : ChangeReport) (s : σ) :
    (visit pick (inspect analyze mark note) i qs r s).2.2 =
      (consult analyze (picked pick i qs) s).2 := by
  induction qs generalizing i r s with
  | nil => rfl
  | cons q qs ih => by_cases h : pick i q <;> simp [visit, picked, consult, inspect, h, ih]

/-- The report takes one note for each picked query and its answer. -/
theorem visit_inspect_report (i : Nat) (qs : List Query) (r : ChangeReport) (s : σ) :
    (visit pick (inspect analyze mark note) i qs r s).2.1 =
      ((picked pick i qs).zip (consult analyze (picked pick i qs) s).1).foldl
        (fun r p => note p.1 p.2 r) r := by
  induction qs generalizing i r s with
  | nil => rfl
  | cons q qs ih => by_cases h : pick i q <;> simp [visit, picked, consult, inspect, h, ih]

/-- The picked queries are marked with their answers. -/
theorem picked_visit_inspect (stable : ∀ i q a, pick i (mark q a) = pick i q) (i : Nat)
    (qs : List Query) (r : ChangeReport) (s : σ) :
    picked pick i (visit pick (inspect analyze mark note) i qs r s).1 =
      (picked pick i qs).zipWith mark (consult analyze (picked pick i qs) s).1 := by
  induction qs generalizing i r s with
  | nil => rfl
  | cons q qs ih => by_cases h : pick i q <;> simp [visit, picked, consult, inspect, h, ih, stable]

end Visit

/-- Before its first position an exception excepts nothing. -/
theorem picked_of_lt (f : Query → Bool) {m i : Nat} (h : m < i) (qs : List Query) :
    picked (fun j q => j != m && f q) i qs = qs.filter f := by
  induction qs generalizing i with
  | nil => rfl
  | cons q qs ih =>
    have hi : (i != m) = true := by simp; omega
    simp only [picked, hi, Bool.true_and, ih (Nat.lt_succ_of_lt h), List.filter_cons]

/-- Picking all but one position is filtering without it. -/
theorem picked_ne (f : Query → Bool) (i k : Nat) (qs : List Query) :
    picked (fun j q => j != i + k && f q) i qs = (qs.eraseIdx k).filter f := by
  induction qs generalizing i k with
  | nil => rfl
  | cons q qs ih =>
    cases k with
    | zero => simpa [picked] using picked_of_lt f (Nat.lt_succ_self i) qs
    | succ k =>
      have h := ih (i + 1) k
      rw [Nat.add_assoc, Nat.add_comm 1 k] at h
      simp [picked, h, List.filter_cons]

theorem picked_all (f : Query → Bool) (i : Nat) (qs : List Query) :
    picked (fun _ q => f q) i qs = qs.filter f := by
  induction qs generalizing i with
  | nil => rfl
  | cons q qs ih => simp [picked, ih, List.filter_cons]

end Reconciliation
end EntityDesign
