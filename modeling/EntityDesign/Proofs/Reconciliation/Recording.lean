import EntityDesign.Proofs.Reconciliation.Session

/-! Recording what a source is asked. A source that carries a record beside its state answers as
before, so every operation does the same on it and the record shows which commands were analyzed. -/
namespace EntityDesign.Reconciliation
variable {σ τ : Type}

/-- A command that was analyzed, with the answer. -/
structure Consultation where
  command : String
  kind : CommandKind
  answer : Answer

def Consultation.of (q : Query) (a : Answer) : Consultation := ⟨q.command, q.kind, a⟩

/-- A source that keeps a record. -/
def recorded (analyze : Analyzer σ) : Analyzer (σ × List Consultation) := fun command kind s =>
  let (a, t) := analyze command kind s.1
  (a, t, s.2 ++ [⟨command, kind, a⟩])

theorem consult_recorded (analyze : Analyzer σ) (qs : List Query) (s : σ × List Consultation) :
    (consult (recorded analyze) qs s).2.2 =
      s.2 ++ qs.zipWith .of (consult (recorded analyze) qs s).1 := by
  induction qs generalizing s with
  | nil => simp [consult]
  | cons q qs ih =>
    simp only [consult, ih, List.zipWith_cons_cons]
    simp [recorded, Consultation.of]

/-- A source whose states show those of another one and that answers alike. -/
def Mirrors (view : τ → σ) (detailed : Analyzer τ) (plain : Analyzer σ) : Prop :=
  ∀ command kind t, plain command kind (view t) =
    ((detailed command kind t).1, view (detailed command kind t).2)

theorem mirrors_recorded (analyze : Analyzer σ) : Mirrors Prod.fst (recorded analyze) analyze :=
  fun _ _ _ => rfl

def Progress.map (view : τ → σ) (p : Progress τ) : Progress σ := ⟨p.entity, p.report, view p.source⟩

def Outcome.map {α : Type} (view : τ → σ) (o : Outcome τ α) : Outcome σ α :=
  ⟨o.result, o.entity, view o.source⟩

section
variable {view : τ → σ}

theorem visit_map {pick : Nat → Query → Bool}
    {f : Query → ChangeReport → τ → Query × ChangeReport × τ}
    {g : Query → ChangeReport → σ → Query × ChangeReport × σ}
    (step : ∀ q r t, g q r (view t) = ((f q r t).1, (f q r t).2.1, view (f q r t).2.2))
    (i : Nat) (qs : List Query) (r : ChangeReport) (t : τ) :
    visit pick g i qs r (view t) = ((visit pick f i qs r t).1, (visit pick f i qs r t).2.1,
      view (visit pick f i qs r t).2.2) := by
  induction qs generalizing i r t with
  | nil => rfl
  | cons q qs ih => by_cases h : pick i q <;> simp [visit, h, step, ih]

theorem withQuery_map {α : Type} (view : τ → σ) (e : Entity) (name : String) (t : τ)
    {f : Nat → Outcome τ α} {g : Nat → Outcome σ α} (h : ∀ i, g i = (f i).map view) :
    withQuery e name (view t) g = (withQuery e name t f).map view := by
  simp only [withQuery]
  cases e.queryIndex? name with
  | none => rfl
  | some i => exact h i

variable {detailed : Analyzer τ} {plain : Analyzer σ} (mirrors : Mirrors view detailed plain)
include mirrors

theorem inspect_map (mark : Query → Answer → Query)
    (note : Query → Answer → ChangeReport → ChangeReport) (q : Query) (r : ChangeReport) (t : τ) :
    inspect plain mark note q r (view t) = ((inspect detailed mark note q r t).1,
      (inspect detailed mark note q r t).2.1, view (inspect detailed mark note q r t).2.2) := by
  simp [inspect, mirrors _ _ t]

theorem recheckReaders_map (i : Nat) (p : Progress τ) :
    recheckReaders plain i (p.map view) = (recheckReaders detailed i p).map view := by
  simp only [recheckReaders, visitAll, recheck_eq, Progress.map]
  rw [visit_map (inspect_map mirrors _ _)]

theorem renewed_map (i : Nat) (q : Query) (p : Progress τ) :
    renewed plain i q (p.map view) = (renewed detailed i q p).map view := by
  simp [renewed, Progress.map, mirrors _ _ p.source]

theorem refreshQueryAt_map (i : Nat) (cascade : Bool) (p : Progress τ) :
    refreshQueryAt plain i cascade (p.map view) =
      (refreshQueryAt detailed i cascade p).map view := by
  cases h : p.entity.queries[i]? with
  | none => simp [refreshQueryAt, Progress.map, h]
  | some q =>
    rw [refreshQueryAt_eq detailed cascade h, refreshQueryAt_eq plain cascade (p := p.map view) h,
      renewed_map mirrors, recheckReaders_map mirrors, apply_ite (Progress.map view)]
    rfl

theorem refreshOne_map (e : Entity) (t : τ) (i : Nat) :
    refreshOne plain e (view t) i = (refreshOne detailed e t i).map view := by
  have h := refreshQueryAt_map mirrors i false ⟨e, blank e, t⟩
  simp only [Progress.map] at h
  simp only [refreshOne, Outcome.map]
  rw [show ({ entity := e.name } : ChangeReport) = blank e from rfl, h]

theorem append_map (q : Query) (asked : Option Question) (p : Progress τ) :
    append plain q asked (p.map view) = (append detailed q asked p).map view := by
  simp only [append, Progress.map]
  cases p.entity.addQuery q with
  | error fault => rfl
  | ok e =>
    cases asked with
    | none => rfl
    | some asked =>
      have h := refreshQueryAt_map mirrors p.entity.queries.length true
        ⟨e, { p.report with suppressed := true }, p.source⟩
      simp only [Progress.map] at h
      simp only [Option.isSome_some, ↓reduceIte, h, Outcome.map]

theorem add_map (draft : Draft) (decide : Question → Bool) (e : Entity) (t : τ) :
    add plain draft decide e (view t) = (add detailed draft decide e t).map view := by
  simp only [add, mirrors _ _ t]
  by_cases used : (e.queryIndex? draft.query.name).isSome
  · simp only [used, ↓reduceIte]
    rfl
  · rcases detailed draft.query.command draft.query.kind t with ⟨fault | sig, t'⟩
    · simp only [used]
      exact append_map mirrors _ none ⟨e, _, t'⟩
    · simp only [used]
      cases effect e draft.query sig decide with
      | keep => exact append_map mirrors _ none ⟨e, _, t'⟩
      | adopt => exact append_map mirrors _ none ⟨_, _, t'⟩
      | replace asked => exact append_map mirrors _ (some asked) ⟨_, _, t'⟩
      | decline asked => rfl

theorem refreshAll_map (e : Entity) (t : τ) :
    refreshAll plain e (view t) = (refreshAll detailed e t).map view := by
  have pass : renewOthers plain e (view t) = (renewOthers detailed e t).map view := by
    simp only [renewOthers, renewOthers_pass, visitAll, Progress.map]
    rw [visit_map (inspect_map mirrors _ _)]
  simp only [refreshAll_eq, pass]
  cases e.queries.findIdx? (·.isReader) with
  | none => rfl
  | some i => exact refreshQueryAt_map mirrors i true _

/-- What an operation does, and what it leaves of the source, can be seen through the view. -/
theorem perform_map (op : Operation) (e : Entity) (t : τ) :
    op.perform plain e (view t) = ⟨(op.perform detailed e t).entity,
      view (op.perform detailed e t).source, (op.perform detailed e t).report⟩ := by
  cases op with
  | add draft decide => simp [Operation.perform, add_map mirrors, Outcome.map]
  | edit name draft =>
    simp only [Operation.perform, edit]
    rw [withQuery_map view e name t fun i => refreshOne_map mirrors _ t i]
    rfl
  | refresh name =>
    simp only [Operation.perform, refresh]
    rw [withQuery_map view e name t (refreshOne_map mirrors e t)]
    rfl
  | refreshAll => simp [Operation.perform, refreshAll_map mirrors, Progress.map]
  | delete name =>
    simp only [Operation.perform, delete]
    rw [withQuery_map view e name t]
    · rfl
    · intro i
      cases e.removeQuery i <;> rfl

end

/-- The operations of a session do the same with a record. -/
theorem perform_recorded (analyze : Analyzer σ) (op : Operation) (e : Entity)
    (s : σ × List Consultation) : op.perform analyze e s.1 =
      ⟨(op.perform (recorded analyze) e s).entity, (op.perform (recorded analyze) e s).source.1,
        (op.perform (recorded analyze) e s).report⟩ :=
  perform_map (mirrors_recorded analyze) op e s

end EntityDesign.Reconciliation
