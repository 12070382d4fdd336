import EntityDesign.Proofs.Analysis
import EntityDesign.Proofs.Reconciliation.Session
import EntityDesign.Proofs.Validation

/-! Where the columns of an entity come from. An operation keeps them, drops them or takes those of
an analysis, so what analyses always find holds of the columns in every session. -/
namespace EntityDesign.Reconciliation
variable {σ : Type}

/-- Where columns come from that stand for those before. -/
inductive Derived (analyze : Analyzer σ) (before : List Property) : List Property → Prop
  | kept : Derived analyze before before
  | dropped : Derived analyze before []
  | found {command : String} {kind : CommandKind} {s : σ} {sig : Signature}
      (answer : (analyze command kind s).1 = .ok sig) :
    Derived analyze before (sig.columns.map .ofColumn)

section
variable {analyze : Analyzer σ} {ps ps' : List Property}

theorem Derived.trans {ps'' : List Property} (first : Derived analyze ps ps')
    (next : Derived analyze ps' ps'') : Derived analyze ps ps'' := by
  cases next with
  | kept => exact first
  | dropped => exact .dropped
  | found answer => exact .found answer

/-- What holds of no columns and of those of every analysis is kept. -/
theorem Derived.keeps {P : List Property → Prop} (empty : P [])
    (found : ∀ command kind s sig, (analyze command kind s).1 = .ok sig →
      P (sig.columns.map .ofColumn)) (h : Derived analyze ps ps') (start : P ps) : P ps' := by
  cases h with
  | kept => exact start
  | dropped => exact empty
  | found answer => exact found _ _ _ _ answer

theorem derived_refreshQueryAt {i : Nat} {q : Query} {p : Progress σ} (cascade : Bool)
    (h : p.entity.queries[i]? = some q) (before : p.entity.properties = ps) :
    Derived analyze ps (refreshQueryAt analyze i cascade p).entity.properties := by
  rw [properties_refreshQueryAt analyze cascade h, ← before]
  cases answer : (analyze q.command q.kind p.source).1 with
  | error fault => exact .kept
  | ok sig =>
    simp only [Entity.propertiesAfter]
    split
    · exact .found answer
    · exact .kept

theorem derived_added {draft : Draft} {decide : Question → Bool} {e : Entity} {s : σ}
    {o : Outcome σ (ChangeReport × Option Question)} (way : Added analyze draft decide e s o) :
    Derived analyze e.properties o.entity.properties := by
  cases way with
  | taken | failed | kept | declined => exact .kept
  | adopted _ answer => exact .found (congrArg Prod.fst answer)
  | replaced _ answer _ _ _ _ refreshed =>
    rw [refreshed]
    exact (Derived.found (congrArg Prod.fst answer)).trans
      (derived_refreshQueryAt true (Entity.getElem?_appended _ _) rfl)

theorem derived_perform (op : Operation) (e : Entity) (s : σ) :
    Derived analyze e.properties (op.perform analyze e s).entity.properties := by
  have way := performed analyze op e s
  generalize op.perform analyze e s = after at way ⊢
  cases way with
  | added way => exact derived_added way
  | missing | renewed => exact .kept
  | edited found hq =>
    obtain ⟨hi, -⟩ := List.getElem?_eq_some_iff.1 hq
    exact derived_refreshQueryAt false (List.getElem?_set_self hi) rfl
  | refreshed found hq => exact derived_refreshQueryAt false hq rfl
  | swept first hq => exact derived_refreshQueryAt true hq rfl
  | deleted =>
    simp only [Entity.dropOrphanedColumns]
    split
    · exact .kept
    · exact .dropped

end

/-- The columns of every analysis stand for the described rows in their order and make a record. So
do the columns of an entity all through a session that begins without any, and the validator has
nothing to say against them. -/
theorem session_recordShape (db : Database σ) :
    (∀ command kind s sig, (db.analyze command kind s).1 = .ok sig →
      ∃ parameters bound rows,
        (db.bind command kind (db.connect s).2).1 = .ok (parameters, bound) ∧
        (db.describe command kind bound (db.bind command kind (db.connect s).2).2).1 = .ok rows ∧
        List.Forall₂ Column.Represents rows sig.columns ∧
        Property.RecordShape (sig.columns.map .ofColumn)) ∧
    ∀ ops e s, e.properties = [] →
      Property.RecordShape (run db.analyze ops e s).1.properties ∧
      ∀ entity property dbType,
        .duplicateProperty entity property ∉
          Design.problems { entities := [(run db.analyze ops e s).1] } ∧
        .unknownDbType entity property dbType ∉
          Design.problems { entities := [(run db.analyze ops e s).1] } := by
  have analyzed (command : String) (kind : CommandKind) (s : σ) (sig : Signature)
      (answer : (db.analyze command kind s).1 = .ok sig) :
      Property.RecordShape (sig.columns.map .ofColumn) := by
    obtain ⟨-, -, bound, rows, -, -, hcolumns⟩ := (db.analyze_eq_ok_iff ..).1 answer
    rw [hcolumns]
    exact Column.recordShape_ofResults rows
  constructor
  · intro command kind s sig answer
    obtain ⟨-, -, bound, rows, hbind, hdescribe, hcolumns⟩ := (db.analyze_eq_ok_iff ..).1 answer
    refine ⟨_, bound, rows, hbind, hdescribe, ?_, analyzed command kind s sig answer⟩
    rw [hcolumns]
    exact Column.represents_ofResults rows
  · intro ops e s empty
    have shape : Property.RecordShape (run db.analyze ops e s).1.properties :=
      run_invariant db.analyze e s (P := fun e => Property.RecordShape e.properties)
        (fun e s op => (derived_perform op e s).keeps .nil analyzed) (by rw [empty]; exact .nil) ops
    refine ⟨shape, fun entity property dbType => ?_⟩
    have silent : ∀ p ∈ Design.problems { entities := [(run db.analyze ops e s).1] },
        p.isProperty = false := by
      rw [Design.forall_isProperty_iff]
      simp only [List.forall_mem_singleton]
      exact .inr ⟨shape.distinct, fun p hp => (shape.known p hp).elim fun t ht => by rw [ht]; rfl⟩
    exact ⟨fun h => Bool.noConfusion (silent _ h), fun h => Bool.noConfusion (silent _ h)⟩

/-- A database that describes every command by the same rows. -/
def describing (rows : List ResultColumn) : Database Unit where
  connect s := (.ok (), s)
  routines s := (.ok [], s)
  parameters _ s := (.ok [], s)
  describe _ _ _ s := (.ok rows, s)

/-- Rows whose names meet once they are made identifiers. -/
def orderLines : List ResultColumn :=
  [⟨"order line", "int", false⟩, ⟨"order-line", "varchar", true⟩, ⟨"", "bit", true⟩,
    ⟨"order_line1", "money", false⟩]

def orderLineColumns : List Column :=
  [⟨"order_line", "int", "Int32", false⟩, ⟨"order_line2", "string", "AnsiString", true⟩,
    ⟨"Column1", "bool?", "Boolean", true⟩, ⟨"order_line1", "decimal", "Currency", false⟩]

def addOrderLines : Operation := .add ⟨"Load", "SELECT 1", .text, .reader⟩ fun _ => true

/-- The second row steps aside for the first and for the last one, and the entity takes the columns.
-/
theorem recordShape_orderLines :
    ((describing orderLines).analyze "SELECT 1" .text ()).1 = .ok { columns := orderLineColumns } ∧
    List.Forall₂ Column.Represents orderLines orderLineColumns ∧
    (run (describing orderLines).analyze [addOrderLines] (Entity.named "Order") ()).1.properties =
      orderLineColumns.map .ofColumn ∧
    Property.RecordShape (orderLineColumns.map .ofColumn) ∧
    .duplicateProperty "Order" "order_line" ∉ Design.problems { entities :=
      [(run (describing orderLines).analyze [addOrderLines] (Entity.named "Order") ()).1] } := by
  have found : ((describing orderLines).analyze "SELECT 1" .text ()).1 =
      .ok { columns := orderLineColumns } := by decide +kernel
  obtain ⟨_, _, rows, -, hdescribe, represents, -⟩ :=
    (session_recordShape (describing orderLines)).1 "SELECT 1" .text () _ found
  have session := (session_recordShape (describing orderLines)).2 [addOrderLines]
    (Entity.named "Order") () rfl
  have taken : (run (describing orderLines).analyze [addOrderLines]
      (Entity.named "Order") ()).1.properties = orderLineColumns.map .ofColumn := by decide +kernel
  cases hdescribe
  exact ⟨found, represents, taken, taken ▸ session.1,
    (session.2 "Order" "order_line" "").1⟩

end EntityDesign.Reconciliation
