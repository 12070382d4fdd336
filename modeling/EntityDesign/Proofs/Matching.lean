import EntityDesign.Proofs.Compatibility

/-! Matching by rank. A column takes the first property of its name that no column before it took,
so the columns and the properties of a name are matched in their order: the first with the first,
the second with the second. Left over are the properties whose rank no column of their name has. -/
namespace EntityDesign

/-- Each entry with its rank, the number of entries of its name before it. The names in `seen` stand
before the list. -/
def ranked {α : Type} (name : α → String) (seen : List String) (as : List α) : List (α × Nat) :=
  as.zipIdx.map fun (a, i) => (a, (seen ++ (as.take i).map name).count (name a))

@[simp] theorem ranked_nil {α : Type} (name : α → String) (seen : List String) :
    ranked name seen [] = [] := rfl

@[simp] theorem ranked_cons {α : Type} (name : α → String) (seen : List String) (a : α)
    (as : List α) : ranked name seen (a :: as) =
      (a, seen.count (name a)) :: ranked name (seen ++ [name a]) as := by
  simp [ranked, List.zipIdx_cons, List.zipIdx_succ, Function.comp_def]

namespace Property

/-- The properties that are left over when columns with the names in `taken` are matched, the
properties standing behind others with the names in `seen`. -/
def leftOver (taken seen : List String) (ps : List Property) : List Property :=
  ((ranked (·.name) seen ps).filter fun (p, k) => taken.count p.name ≤ k).map Prod.fst

theorem leftOver_cons (taken seen : List String) (p : Property) (ps : List Property) :
    leftOver taken seen (p :: ps) =
      (if taken.count p.name ≤ seen.count p.name then [p] else []) ++
        leftOver taken (seen ++ [p.name]) ps := by
  by_cases h : taken.count p.name ≤ seen.count p.name <;> simp [leftOver, h]

/-- Before the first column all properties are left. -/
@[simp] theorem leftOver_nil (seen : List String) (ps : List Property) :
    leftOver [] seen ps = ps := by
  induction ps generalizing seen with
  | nil => rfl
  | cons p ps ih => simp [leftOver_cons, ih]

section
variable {name : String} {taken seen : List String}

/-- The first property of a name that is left has the rank of the next column of that name. -/
theorem find?_leftOver (h : seen.count name ≤ taken.count name) (ps : List Property) :
    (leftOver taken seen ps).find? (·.name == name) =
      (ps.filter (·.name == name))[taken.count name - seen.count name]? := by
  induction ps generalizing seen with
  | nil => rfl
  | cons p ps ih =>
    rw [leftOver_cons]
    by_cases same : p.name = name
    · subst same
      by_cases due : taken.count p.name ≤ seen.count p.name
      · have hrank : taken.count p.name - seen.count p.name = 0 := by omega
        simp [due, hrank]
      · have hseen : (seen ++ [p.name]).count p.name = seen.count p.name + 1 := by simp
        have hrank : taken.count p.name - seen.count p.name =
            taken.count p.name - (seen.count p.name + 1) + 1 := by omega
        rw [if_neg due, List.nil_append, ih (by omega), hseen, hrank]
        simp
    · have hseen : (seen ++ [p.name]).count name = seen.count name := by simp [same]
      rw [List.find?_append, ih (by omega), hseen]
      split <;> simp [same]

/-- Behind the property that the next column of a name takes, that column changes nothing. -/
theorem leftOver_behind (h : taken.count name < seen.count name) (ps : List Property) :
    leftOver (taken ++ [name]) seen ps = leftOver taken seen ps := by
  induction ps generalizing seen with
  | nil => rfl
  | cons p ps ih =>
    have hseen : taken.count name < (seen ++ [p.name]).count name := by
      rw [List.count_append]
      omega
    rw [leftOver_cons, leftOver_cons, ih hseen]
    by_cases same : p.name = name
    · subst same
      have htaken : (taken ++ [p.name]).count p.name = taken.count p.name + 1 := by simp
      rw [htaken, if_pos (by omega), if_pos (by omega)]
    · have htaken : (taken ++ [name]).count p.name = taken.count p.name := by simp [Ne.symm same]
      rw [htaken]

/-- The next column of a name takes the first property of that name that is left, if there is
one. -/
theorem eraseP_leftOver (h : seen.count name ≤ taken.count name) (ps : List Property) :
    (leftOver taken seen ps).eraseP (·.name == name) = leftOver (taken ++ [name]) seen ps := by
  induction ps generalizing seen with
  | nil => rfl
  | cons p ps ih =>
    rw [leftOver_cons, leftOver_cons]
    by_cases same : p.name = name
    · subst same
      have htaken : (taken ++ [p.name]).count p.name = taken.count p.name + 1 := by simp
      have hseen : (seen ++ [p.name]).count p.name = seen.count p.name + 1 := by simp
      rw [htaken]
      by_cases due : taken.count p.name ≤ seen.count p.name
      · rw [if_pos due, if_neg (by omega), leftOver_behind (by omega)]
        simp
      · rw [if_neg due, if_neg (by omega), List.nil_append, List.nil_append, ih (by omega)]
    · have htaken : (taken ++ [name]).count p.name = taken.count p.name := by simp [Ne.symm same]
      have hseen : (seen ++ [p.name]).count name = seen.count name := by simp [same]
      rw [htaken, ← ih (by omega)]
      split <;> simp [same]

end
end Property

namespace Mismatch

/-- How a column fails to fit the property that it is matched with. -/
def ofColumn (c : Column) : Option Property → Option Mismatch
  | none => some (additional c.name c.hostType)
  | some p => if p.hostType = c.hostType then none else some (differs c.name c.hostType p.hostType)

/-- The mismatches when columns and properties are matched by rank: those of the columns in order,
then the properties whose rank no column of their name has. -/
def byRank (ps : List Property) (cs : List Column) : List Mismatch :=
  (ranked (·.name) [] cs).filterMap
      (fun (c, k) => ofColumn c (ps.filter (·.name == c.name))[k]?) ++
    (ranked (·.name) [] ps).filterMap fun (p, k) =>
      if (cs.map (·.name)).count p.name ≤ k then some (missing p.name p.hostType) else none

theorem all_cons (ps : List Property) (c : Column) (cs : List Column) : all ps (c :: cs) =
    (ofColumn c (ps.find? (·.name == c.name))).toList ++
      all (ps.eraseP (·.name == c.name)) cs := by
  cases found : ps.find? (·.name == c.name) with
  | none =>
    have hnone : ∀ p ∈ ps, ¬(p.name == c.name) = true := by simpa using found
    simp [all, found, ofColumn, List.eraseP_of_forall_not hnone]
  | some p =>
    simp only [all, found, ofColumn]
    split <;> rfl

/-- From any column on, the walk finds what matching by rank finds. -/
theorem all_leftOver (taken : List String) (ps : List Property) (cs : List Column) :
    all (Property.leftOver taken [] ps) cs =
      (ranked (·.name) taken cs).filterMap
          (fun (c, k) => ofColumn c (ps.filter (·.name == c.name))[k]?) ++
        (Property.leftOver (taken ++ cs.map (·.name)) [] ps).map fun p =>
          missing p.name p.hostType := by
  induction cs generalizing taken with
  | nil => simp [all]
  | cons c cs ih =>
    have hstart : ([] : List String).count c.name ≤ taken.count c.name := by simp
    rw [all_cons, Property.find?_leftOver hstart, Property.eraseP_leftOver hstart, ih]
    simp only [ranked_cons, List.filterMap_cons, List.map_cons, List.append_assoc,
      List.cons_append, List.nil_append, List.count_nil, Nat.sub_zero]
    cases ofColumn c (ps.filter (·.name == c.name))[taken.count c.name]? <;> rfl

theorem all_eq_byRank (ps : List Property) (cs : List Column) : all ps cs = byRank ps cs := by
  have h := all_leftOver [] ps cs
  rw [Property.leftOver_nil] at h
  rw [h, byRank, Property.leftOver, List.nil_append, List.map_map, ← List.filterMap_eq_map,
    List.filterMap_filter]
  simp

/-- Of two properties of one name the single column of that name is matched with the first. -/
example : all [⟨"Id", "int", "Int32"⟩, ⟨"A", "int", "Int32"⟩, ⟨"Id", "long", "Int64"⟩]
    [⟨"Id", "long", "Int64", false⟩] =
      [.differs "Id" "long" "int", .missing "A" "int", .missing "Id" "long"] := by decide

end Mismatch

namespace Entity

/-- The full check finds the mismatches of matching by rank. It finds none exactly when the
properties of every name have the types of the columns of that name, in order. -/
theorem mismatches_by_rank (e : Entity) (sig : Signature) :
    e.mismatches sig false = Mismatch.byRank e.properties sig.columns ∧
      (e.mismatches sig false = [] ↔ ∀ name, Property.typesOf name e.properties =
        (sig.columns.filter (·.name == name)).map (·.hostType)) := by
  have types (name : String) : Property.typesOf name (sig.columns.map .ofColumn) =
      (sig.columns.filter (·.name == name)).map (·.hostType) := by
    simp [Property.typesOf, List.filter_map, Function.comp_def, Property.ofColumn]
  rw [mismatches_false]
  constructor
  · exact Mismatch.all_eq_byRank e.properties sig.columns
  · simp only [Mismatch.all_eq_nil_iff, Property.SameShape, types]

end Entity
end EntityDesign
