import Mathlib.Tactic.Tauto
import EntityDesign.Compatibility

/-! Fitting and adopting columns: the short check finds the head of the full list, an entity whose
properties describe the columns of a result has no mismatch with it, and columns fit exactly when
they have the shape of the properties. -/
namespace EntityDesign

namespace Property

/-- The host types of the properties of one name, in order. -/
def typesOf (name : String) (ps : List Property) : List String :=
  (ps.filter (·.name == name)).map (·.hostType)

/-- Whether every name has the same types in the same order. The order of different names and the
database types do not matter. -/
def SameShape (ps ps' : List Property) : Prop := ∀ name, typesOf name ps = typesOf name ps'

theorem sameShape_equivalence : Equivalence SameShape where
  refl _ _ := rfl
  symm h name := (h name).symm
  trans h h' name := (h name).trans (h' name)

theorem typesOf_cons (name : String) (p : Property) (ps : List Property) :
    typesOf name (p :: ps) = (if p.name = name then [p.hostType] else []) ++ typesOf name ps := by
  by_cases h : p.name = name <;> simp [typesOf, h]

/-- The first property of a name has the first type of that name and no other. -/
theorem typesOf_eraseP {key : String} {ps : List Property} {p : Property}
    (h : ps.find? (·.name == key) = some p) (name : String) :
    typesOf name ps = (if key = name then [p.hostType] else []) ++
      typesOf name (ps.eraseP (·.name == key)) := by
  induction ps with
  | nil => simp at h
  | cons q ps ih =>
    by_cases hq : q.name = key
    · obtain rfl : q = p := by simpa [hq] using h
      rw [typesOf_cons, hq, List.eraseP_cons_of_pos (by simp [hq])]
    · have hrest : ps.find? (·.name == key) = some p := by simpa [hq] using h
      rw [List.eraseP_cons_of_neg (by simp [hq]), typesOf_cons, typesOf_cons, ih hrest]
      by_cases hname : key = name
      · have hne : q.name ≠ name := fun h => hq (h.trans hname.symm)
        simp [hne]
      · simp [hname]

end Property

namespace Mismatch

/-- Stopping at the first mismatch finds the head of the list of all of them. -/
theorem first_eq_head? (ps : List Property) (cs : List Column) :
    first ps cs = (all ps cs).head? := by
  induction cs generalizing ps with
  | nil => simp [first, all]
  | cons c cs ih =>
    simp only [first, all]
    cases ps.find? (·.name == c.name) with
    | none => rfl
    | some p => by_cases h : p.hostType = c.hostType <;> simp [h, ih]

/-- Columns fit the properties that describe them. -/
@[simp] theorem all_map_ofColumn (cs : List Column) : all (cs.map .ofColumn) cs = [] := by
  induction cs with
  | nil => rfl
  | cons c cs ih => simp [all, Property.ofColumn, ih]

/-- Without columns every property is missing. -/
@[simp] theorem all_nil_right_eq_nil_iff (ps : List Property) : all ps [] = [] ↔ ps = [] := by
  simp [all]

/-- Without properties every column is additional. -/
@[simp] theorem all_nil_left_eq_nil_iff (cs : List Column) : all [] cs = [] ↔ cs = [] := by
  cases cs <;> simp [all]

/-- The greedy matching leaves nothing over exactly when properties and columns have one shape. -/
theorem all_eq_nil_iff (ps : List Property) (cs : List Column) :
    all ps cs = [] ↔ Property.SameShape ps (cs.map .ofColumn) := by
  induction cs generalizing ps with
  | nil =>
    rw [all_nil_right_eq_nil_iff]
    constructor
    · intro h
      rw [h]
      exact Property.sameShape_equivalence.refl []
    · intro h
      cases ps with
      | nil => rfl
      | cons p ps => simpa [Property.typesOf_cons, Property.typesOf] using h p.name
  | cons c cs ih =>
    have hc (name : String) : Property.typesOf name ((c :: cs).map .ofColumn) =
        (if c.name = name then [c.hostType] else []) ++ Property.typesOf name (cs.map .ofColumn) :=
      Property.typesOf_cons name (.ofColumn c) _
    cases found : ps.find? (·.name == c.name) with
    | none =>
      have hnone : Property.typesOf c.name ps = [] := by
        simpa [Property.typesOf] using found
      refine iff_of_false (by simp [all, found]) fun h => ?_
      have hname := h c.name
      rw [hnone, hc, if_pos rfl] at hname
      cases hname
    | some p =>
      have hp := Property.typesOf_eraseP found
      by_cases same : p.hostType = c.hostType
      · simp only [all, found, same, ↓reduceIte, ih, Property.SameShape, hp, hc,
          List.append_cancel_left_eq]
      · refine iff_of_false (by simp [all, found, same]) fun h => ?_
        have hname := h c.name
        rw [hp, hc, if_pos rfl, if_pos rfl] at hname
        exact same (List.cons.inj hname).1

end Mismatch

namespace Entity

theorem mismatches_false (e : Entity) (sig : Signature) :
    e.mismatches sig false = Mismatch.all e.properties sig.columns := rfl

theorem mismatches_true (e : Entity) (sig : Signature) :
    e.mismatches sig true = (e.mismatches sig false).take 1 := by
  rw [mismatches_false, List.take_one, ← Mismatch.first_eq_head?]
  rfl

/-- The short check passes exactly when the full one does. -/
theorem isEmpty_mismatches_true (e : Entity) (sig : Signature) :
    (e.mismatches sig true).isEmpty = (e.mismatches sig false).isEmpty := by
  rw [mismatches_true]
  cases e.mismatches sig false <;> rfl

private theorem differ_eq (ps : List Property) (cs : List Column) :
    (ps.length != cs.length || (ps.zip cs).any fun (p, c) =>
      p.name != c.name || p.hostType != c.hostType || p.dbType != c.dbType) =
      decide (ps ≠ cs.map .ofColumn) := by
  induction ps generalizing cs with
  | nil => cases cs <;> simp
  | cons p ps ih =>
    cases cs with
    | nil => simp
    | cons c cs =>
      have h := ih cs
      rw [Bool.eq_iff_iff] at h ⊢
      obtain ⟨name, hostType, dbType⟩ := p
      simp only [Bool.or_eq_true, bne_iff_ne, decide_eq_true_eq, List.length_cons,
        List.zip_cons_cons, List.any_cons, List.map_cons, Property.ofColumn, ne_eq,
        List.cons.injEq, Property.mk.injEq, Nat.add_right_cancel_iff] at h ⊢
      tauto

/-- Adopting makes the properties describe the columns, and reports whether they did not before. -/
theorem adoptColumns_eq (e : Entity) (sig : Signature) :
    e.adoptColumns sig = (e.properties != sig.columns.map Property.ofColumn,
      { e with properties := sig.columns.map .ofColumn }) := by
  unfold adoptColumns columnsDiffer
  rw [differ_eq e.properties sig.columns]
  by_cases h : e.properties = sig.columns.map .ofColumn
  · simp [← h]
  · simp [h, bne_iff_ne.2 h]

/-- Adopting makes the properties the columns, one by one, and touches nothing else. It reports a
change exactly when they were not, so in any case if they did not fit, and then there is nothing
left to change or to object to. -/
theorem adoptColumns_exact (e : Entity) (sig : Signature) :
    ∃ changed after, e.adoptColumns sig = (changed, after) ∧
      after.properties = sig.columns.map (fun c => ⟨c.name, c.hostType, c.dbType⟩) ∧
      (changed = true ↔
        e.properties ≠ sig.columns.map (fun c => ⟨c.name, c.hostType, c.dbType⟩)) ∧
      after = { e with properties := after.properties } ∧
      after.adoptColumns sig = (false, after) ∧
      after.mismatches sig false = [] ∧
      (e.mismatches sig false ≠ [] → changed = true) := by
  refine ⟨_, _, adoptColumns_eq e sig, rfl, bne_iff_ne, rfl, ?_, ?_, ?_⟩
  · rw [adoptColumns_eq, bne_self_eq_false]
  · rw [mismatches_false, Mismatch.all_map_ofColumn]
  · -- properties that describe the columns fit them
    intro unfit
    rw [bne_iff_ne]
    intro same
    rw [mismatches_false, same, Mismatch.all_map_ofColumn] at unfit
    exact unfit rfl

/-- The columns of an order, and an entity whose properties stand in another order. -/
def orderColumns : Signature :=
  { columns := [⟨"Id", "int", "Int32", false⟩, ⟨"Note", "string", "String", true⟩] }

def orderEntity : Entity :=
  { Entity.named "Order" with
    properties := [⟨"Note", "string", "AnsiString"⟩, ⟨"Id", "long", "Int64"⟩] }

theorem adoptColumns_orderEntity :
    orderEntity.mismatches orderColumns false = [.differs "Id" "int" "long"] ∧
      (orderEntity.adoptColumns orderColumns).1 = true ∧
      ((orderEntity.adoptColumns orderColumns).2.adoptColumns orderColumns).1 = false := by
  have found : orderEntity.mismatches orderColumns false = [.differs "Id" "int" "long"] := by
    decide +kernel
  obtain ⟨changed, after, adopted, -, -, -, again, -, unfit⟩ :=
    adoptColumns_exact orderEntity orderColumns
  refine ⟨found, ?_, ?_⟩
  · rw [adopted]
    exact unfit (found ▸ List.cons_ne_nil _ _)
  · rw [adopted, again]

end Entity
end EntityDesign
