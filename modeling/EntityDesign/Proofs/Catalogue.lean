import EntityDesign.Proofs.Analysis
import Mathlib.Data.List.Nodup
import Mathlib.Data.List.Perm.Basic

/-! The catalogue of a database has no order: whatever the order of its rows, the listed procedures
and the parameters of a procedure come out sorted, the parameters in one way only if their ordinals
differ. What is bound for a description stands beside the parameters. -/
namespace EntityDesign

namespace Routine
variable {rows rows' : List Routine}

/-- A procedure whose name does not begin as those of the system do. -/
structure IsOfUser (r : Routine) : Prop where
  isProcedure : r.type = "PROCEDURE"
  name : ¬∃ rest, r.name = "sp_" ++ rest

theorem isListed_iff (r : Routine) : r.isListed = true ↔ r.IsOfUser := by
  have system : "sp_".toList.isPrefixOf r.name.toList = true ↔ ∃ rest, r.name = "sp_" ++ rest := by
    rw [List.isPrefixOf_iff_prefix]
    constructor
    · rintro ⟨rest, hrest⟩
      exact ⟨String.ofList rest, String.toList_injective (by simpa using hrest.symm)⟩
    · rintro ⟨rest, hrest⟩
      exact ⟨rest.toList, by rw [hrest, String.toList_append]⟩
  rw [isListed, Bool.and_eq_true, beq_iff_eq, Bool.not_eq_true', Bool.eq_false_iff, Ne, system]
  exact ⟨fun h => ⟨h.1, h.2⟩, fun h => ⟨h.1, h.2⟩⟩

theorem perm_listing (rows : List Routine) :
    (listing rows).Perm ((rows.filter isListed).map (·.name)) :=
  List.mergeSort_perm _ _

theorem sorted_listing (rows : List Routine) : (listing rows).Pairwise (· ≤ ·) := by
  have sorted : (listing rows).Pairwise fun a b => decide (a ≤ b) := List.pairwise_mergeSort
    (fun a b c hab hbc => by simpa using String.le_trans (by simpa using hab) (by simpa using hbc))
    (fun a b => by simpa using String.le_total a b) ((rows.filter isListed).map (·.name))
  simpa using sorted

/-- A sorted list of names is determined by the names in it. -/
theorem listing_eq_of_perm (h : rows.Perm rows') : listing rows = listing rows' := by
  have same : (listing rows).Perm (listing rows') := calc
    (listing rows).Perm ((rows.filter isListed).map (·.name)) := perm_listing rows
    List.Perm _ ((rows'.filter isListed).map (·.name)) := (h.filter _).map _
    List.Perm _ (listing rows') := (perm_listing rows').symm
  exact List.Perm.eq_of_pairwise (fun a b _ _ => String.le_antisymm) (sorted_listing rows)
    (sorted_listing rows') same

end Routine

namespace Parameter
variable {rows rows' : List DeclaredParameter} {ps ps' : List Parameter}

/-- The parameters stand for the declared ones in ascending order of the ordinals. -/
def Ascending (rows : List DeclaredParameter) (ps : List Parameter) : Prop :=
  ∃ sorted : List DeclaredParameter, sorted.Perm rows ∧
    sorted.Pairwise (fun a b => a.ordinal < b.ordinal) ∧ ps = sorted.map ofDeclared

theorem ascending_ofProcedure (distinct : (rows.map (·.ordinal)).Nodup) :
    Ascending rows (ofProcedure rows) := by
  have perm := List.mergeSort_perm rows fun a b => a.ordinal ≤ b.ordinal
  have sorted : (rows.mergeSort fun a b => a.ordinal ≤ b.ordinal).Pairwise fun a b =>
      decide (a.ordinal ≤ b.ordinal) := List.pairwise_mergeSort
    (fun a b c hab hbc => by simp only [decide_eq_true_eq] at *; omega)
    (fun a b => by simp only [Bool.or_eq_true, decide_eq_true_eq]; omega) rows
  have apart := List.pairwise_map.1 ((perm.map (·.ordinal)).nodup_iff.2 distinct)
  refine ⟨_, perm, (sorted.and apart).imp ?_, rfl⟩
  rintro a b ⟨le, ne⟩
  simp only [decide_eq_true_eq] at le
  omega

/-- Rows in another order have the same parameters in ascending order. -/
theorem Ascending.unique (h : Ascending rows ps) (h' : Ascending rows' ps')
    (perm : rows.Perm rows') : ps = ps' := by
  obtain ⟨sorted, perm₁, ascending, rfl⟩ := h
  obtain ⟨sorted', perm₂, ascending', rfl⟩ := h'
  have same : sorted = sorted' :=
    List.Perm.eq_of_pairwise (fun a b _ _ hab hba => by omega) ascending ascending'
      (perm₁.trans (perm.trans perm₂.symm))
  rw [same]

theorem ofProcedure_eq_of_perm (perm : rows.Perm rows') (distinct : (rows.map (·.ordinal)).Nodup) :
    ofProcedure rows = ofProcedure rows' :=
  (ascending_ofProcedure distinct).unique
    (ascending_ofProcedure ((perm.map (·.ordinal)).nodup_iff.1 distinct)) perm

end Parameter

namespace Database
variable {σ : Type}

/-- The same failure, or the same rows in whatever order. -/
inductive SameRows {α : Type} : Except String (List α) → Except String (List α) → Prop
  | failed (message : String) : SameRows (.error message) (.error message)
  | rows {as bs : List α} (perm : as.Perm bs) : SameRows (.ok as) (.ok bs)

/-- The second database differs from the first in the order of the rows of its catalogues alone. -/
structure Reorders (db db' : Database σ) : Prop where
  connect : db'.connect = db.connect
  routines (s : σ) : SameRows (db.routines s).1 (db'.routines s).1 ∧
    (db'.routines s).2 = (db.routines s).2
  parameters (procedure : String) (s : σ) :
    SameRows (db.parameters procedure s).1 (db'.parameters procedure s).1 ∧
      (db'.parameters procedure s).2 = (db.parameters procedure s).2
  describe : db'.describe = db.describe

/-- The database with a note of what is bound for each description. -/
def noting (db : Database σ) : Database (σ × List (List Binding)) where
  connect s := ((db.connect s.1).1, (db.connect s.1).2, s.2)
  routines s := ((db.routines s.1).1, (db.routines s.1).2, s.2)
  parameters procedure s :=
    ((db.parameters procedure s.1).1, (db.parameters procedure s.1).2, s.2)
  describe command kind bound s :=
    ((db.describe command kind bound s.1).1, (db.describe command kind bound s.1).2,
      s.2 ++ [bound])

/-- No two parameters that the database declares for the procedure share an ordinal. -/
def DistinctOrdinals (db : Database σ) (procedure : String) (s : σ) : Prop :=
  ∀ rows, (db.parameters procedure s).1 = .ok rows → (rows.map (·.ordinal)).Nodup

section
variable {db db' : Database σ} {procedure : String} {s : σ}

theorem Reorders.noting (h : db.Reorders db') : db.noting.Reorders db'.noting where
  connect := by simp only [Database.noting, h.connect]
  routines s := ⟨(h.routines s.1).1, congrArg (·, s.2) (h.routines s.1).2⟩
  parameters procedure s :=
    ⟨(h.parameters procedure s.1).1, congrArg (·, s.2) (h.parameters procedure s.1).2⟩
  describe := by simp only [Database.noting, h.describe]

theorem Reorders.procedures (h : db.Reorders db') (s : σ) : db'.procedures s = db.procedures s := by
  unfold Database.procedures
  rw [h.connect]
  rcases db.connect s with ⟨fault | ⟨⟩, s₁⟩
  · rfl
  · obtain ⟨same, state⟩ := h.routines s₁
    rcases hr : db.routines s₁ with ⟨a, s₂⟩
    rcases hr' : db'.routines s₁ with ⟨a', s₂'⟩
    rw [hr, hr'] at same state
    cases state
    cases same with
    | failed message => simp only [hr, hr']
    | rows perm => simp only [hr, hr', Routine.listing_eq_of_perm perm]

theorem Reorders.bind (h : db.Reorders db') (distinct : db.DistinctOrdinals procedure s) :
    db'.bind procedure .procedure s = db.bind procedure .procedure s := by
  unfold Database.bind
  obtain ⟨same, state⟩ := h.parameters procedure s
  rcases hp : db.parameters procedure s with ⟨a, s₁⟩
  rcases hp' : db'.parameters procedure s with ⟨a', s₁'⟩
  rw [hp, hp'] at same state
  cases state
  cases same with
  | failed message => rfl
  | rows perm =>
    have ordinals := distinct _ (congrArg Prod.fst hp)
    simp only [Parameter.ofProcedure_eq_of_perm perm ordinals]

theorem Reorders.analyze (h : db.Reorders db')
    (distinct : db.DistinctOrdinals procedure (db.connect s).2) :
    db'.analyze procedure .procedure s = db.analyze procedure .procedure s := by
  unfold Database.analyze signature
  rw [h.connect, h.describe]
  rcases hc : db.connect s with ⟨fault | ⟨⟩, s₁⟩
  · rfl
  · rw [hc] at distinct
    simp only [h.bind distinct]

theorem procedures_of_routines {rows : List Routine} (connected : (db.connect s).1 = .ok ())
    (answered : (db.routines (db.connect s).2).1 = .ok rows) :
    (db.procedures s).1 = .ok (Routine.listing rows) := by
  unfold Database.procedures
  rcases hc : db.connect s with ⟨a, s₁⟩
  rw [hc] at connected answered
  cases connected
  rcases hr : db.routines s₁ with ⟨b, s₂⟩
  rw [hr] at answered
  cases answered
  simp only [hr]

/-- An analysis binds the parameters that the database declares, once. -/
theorem noted_analyze {rows : List DeclaredParameter} (visible : isBlankText procedure = false)
    (connected : (db.connect s).1 = .ok ())
    (declared : (db.parameters procedure (db.connect s).2).1 = .ok rows)
    (notes : List (List Binding)) :
    (db.noting.analyze procedure .procedure (s, notes)).2.2 =
      notes ++ [(Parameter.ofProcedure rows).map (·.binding)] := by
  unfold Database.analyze signature Database.bind Database.noting
  rcases hc : db.connect s with ⟨a, s₁⟩
  rw [hc] at connected declared
  cases connected
  rcases hp : db.parameters procedure s₁ with ⟨b, s₂⟩
  rw [hp] at declared
  cases declared
  simp only [visible, hc, hp]
  cases (db.describe procedure .procedure ((Parameter.ofProcedure rows).map (·.binding)) s₂).1 with
  | error message => rfl
  | ok found => rfl

theorem parameters_of_analyze {rows : List DeclaredParameter} {sig : Signature}
    (declared : (db.parameters procedure (db.connect s).2).1 = .ok rows)
    (answer : (db.analyze procedure .procedure s).1 = .ok sig) :
    sig.parameters = Parameter.ofProcedure rows := by
  obtain ⟨-, -, bound, -, hbind, -⟩ := (db.analyze_eq_ok_iff ..).1 answer
  unfold Database.bind at hbind
  rcases hp : db.parameters procedure (db.connect s).2 with ⟨a, s₁⟩
  rw [hp] at declared
  cases declared
  simp only [hp] at hbind
  exact (Prod.mk.inj (Except.ok.inj hbind)).1.symm

end

/-- The order of the rows of the catalogues does not matter. The procedures are the user's, with
their multiplicity, in order. The parameters of a procedure, if their ordinals differ, are those
declared in ascending order, and what is bound for the description of the result has their names
and types. -/
theorem catalogue_order_irrelevant {db db' : Database σ} (h : db.Reorders db') :
    (∀ s, db'.procedures s = db.procedures s) ∧
      (∀ s rows, (db.connect s).1 = .ok () → (db.routines (db.connect s).2).1 = .ok rows →
        ∃ names, (db.procedures s).1 = .ok names ∧ names.Pairwise (· ≤ ·) ∧
          names.Perm ((rows.filter Routine.isListed).map (·.name)) ∧
          ∀ r : Routine, r.isListed = true ↔ r.IsOfUser) ∧
      ∀ procedure s, db.DistinctOrdinals procedure (db.connect s).2 →
        db'.analyze procedure .procedure s = db.analyze procedure .procedure s ∧
        (∀ notes, db'.noting.analyze procedure .procedure (s, notes) =
          db.noting.analyze procedure .procedure (s, notes)) ∧
        ∀ rows, isBlankText procedure = false → (db.connect s).1 = .ok () →
          (db.parameters procedure (db.connect s).2).1 = .ok rows →
          ∃ ps bound, Parameter.Ascending rows ps ∧
            List.Forall₂ (fun p b => b = ⟨p.name, p.dbType⟩) ps bound ∧
            (∀ notes, (db.noting.analyze procedure .procedure (s, notes)).2.2 =
              notes ++ [bound]) ∧
            ∀ sig, (db.analyze procedure .procedure s).1 = .ok sig → sig.parameters = ps := by
  refine ⟨h.procedures, ?_, ?_⟩
  · intro s rows connected answered
    exact ⟨_, procedures_of_routines connected answered, Routine.sorted_listing rows,
      Routine.perm_listing rows, Routine.isListed_iff⟩
  · intro procedure s distinct
    refine ⟨h.analyze distinct, fun notes => h.noting.analyze distinct, ?_⟩
    intro rows visible connected declared
    refine ⟨_, _, Parameter.ascending_ofProcedure (distinct rows declared), ?_,
      noted_analyze visible connected declared, fun sig => parameters_of_analyze declared⟩
    rw [List.forall₂_map_right_iff, List.forall₂_same]
    exact fun p _ => rfl

/-- A database with these catalogues whose results have no columns. -/
def cataloguing (routines : List Routine) (declared : List DeclaredParameter) : Database Unit where
  connect s := (.ok (), s)
  routines s := (.ok routines, s)
  parameters _ s := (.ok declared, s)
  describe _ _ _ s := (.ok [], s)

theorem reorders_cataloguing {rs rs' : List Routine} {ds ds' : List DeclaredParameter}
    (routines : rs.Perm rs') (declared : ds.Perm ds') :
    (cataloguing rs ds).Reorders (cataloguing rs' ds') where
  connect := rfl
  routines _ := ⟨.rows routines, rfl⟩
  parameters _ _ := ⟨.rows declared, rfl⟩
  describe := rfl

/-- Two procedures of one name, one of the system and a function. -/
def shopRoutines : List Routine :=
  [⟨"PROCEDURE", "Sell"⟩, ⟨"PROCEDURE", "sp_who"⟩, ⟨"FUNCTION", "Total"⟩, ⟨"PROCEDURE", "Buy"⟩,
    ⟨"PROCEDURE", "Sell"⟩]

def shopParameters : List DeclaredParameter :=
  [⟨3, "@price", "money", "INOUT"⟩, ⟨1, "@item", "int", "IN"⟩, ⟨2, "@note", "nvarchar", "IN"⟩]

theorem catalogue_order_irrelevant_shop :
    (cataloguing shopRoutines.reverse shopParameters.reverse).procedures () =
        (.ok ["Buy", "Sell", "Sell"], ()) ∧
      (cataloguing shopRoutines.reverse shopParameters.reverse).noting.analyze "Sell" .procedure
          ((), []) =
        (.ok { parameters := [⟨"item", "int", .int32, false⟩, ⟨"note", "string", .string, false⟩,
            ⟨"price", "decimal", .currency, true⟩] },
          (), [[⟨"item", .int32⟩, ⟨"note", .string⟩, ⟨"price", .currency⟩]]) := by
  have reorders := reorders_cataloguing (List.reverse_perm shopRoutines).symm
    (List.reverse_perm shopParameters).symm
  have distinct : (cataloguing shopRoutines shopParameters).DistinctOrdinals "Sell" () := by
    intro rows declared
    cases declared
    decide
  have names : Routine.listing shopRoutines = ["Buy", "Sell", "Sell"] :=
    List.Perm.eq_of_pairwise (fun a b _ _ => String.le_antisymm) (Routine.sorted_listing _)
      (by decide) ((Routine.perm_listing _).trans (by decide))
  have ps : Parameter.ofProcedure shopParameters = [⟨"item", "int", .int32, false⟩,
      ⟨"note", "string", .string, false⟩, ⟨"price", "decimal", .currency, true⟩] :=
    (Parameter.ascending_ofProcedure (by decide)).unique
      ⟨shopParameters.rotate 1, by decide, by decide, rfl⟩ (.refl _)
  obtain ⟨listed, -, analyzed⟩ := catalogue_order_irrelevant reorders
  constructor
  · rw [listed, ← names]
    rfl
  · rw [(analyzed "Sell" () distinct).2.1]
    simp only [analyze, signature, Database.bind, Database.noting, cataloguing, ps]
    rfl

end Database
end EntityDesign
