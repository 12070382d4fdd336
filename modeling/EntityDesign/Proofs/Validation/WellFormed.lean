import EntityDesign.Proofs.Validation

/-! Which designs the validator accepts: those that keep the rules on names, columns and readers. -/
namespace EntityDesign

/-- The rules inside an entity. -/
structure Entity.WellFormed (e : Entity) : Prop where
  distinctProperties : (e.properties.map (·.name)).Nodup
  knownTypes : ∀ p ∈ e.properties, ∃ t : DbType, t.word = p.dbType
  distinctQueries : (e.queries.map (·.name)).Nodup
  namedQueries : ∀ q ∈ e.queries, Identifier.IsName q.name
  backed : e.properties ≠ [] → ∃ q ∈ e.queries, q.execution = .reader

/-- The rules of a design. -/
structure Design.WellFormed (d : Design) : Prop where
  distinctEntities : (d.entities.map (·.name)).Nodup
  namedEntities : ∀ e ∈ d.entities, Identifier.IsName e.name
  inside : ∀ e ∈ d.entities, e.WellFormed

theorem Query.along_judge_eq_nil_iff (entity : String) (before qs : List Query) :
    Problem.along (judge entity) before qs = [] ↔
      (qs.map (·.name)).Nodup ∧ (∀ q ∈ qs, q.name ∉ before.map (·.name)) ∧
        ∀ q ∈ qs, Identifier.IsName q.name := by
  refine Problem.along_eq_nil_iff (fun before q => ?_) before qs
  simp [judge, Identifier.IsName]

namespace Entity

theorem owned_iff (e : Entity) :
    e.Owned ↔ (e.properties ≠ [] → ∃ q ∈ e.queries, q.execution = .reader) := by
  rw [Owned, or_iff_not_imp_left]
  simp [hasReader, Query.isReader]

theorem problems_eq_nil_iff (e : Entity) : e.problems = [] ↔ e.WellFormed := by
  have hcolumns : (if e.properties ≠ [] ∧ !e.hasReader then
      [Problem.columnsWithoutReader e.name] else []) = [] ↔ e.Owned := by
    simp [Owned, or_iff_not_imp_left]
  rw [problems_eq, List.append_eq_nil_iff, List.append_eq_nil_iff, hcolumns, owned_iff,
    Property.along_judge_eq_nil_iff, Query.along_judge_eq_nil_iff]
  simp only [DbType.isOk_read_iff]
  constructor
  · rintro ⟨⟨⟨properties, -, types⟩, queries, -, names⟩, backed⟩
    exact ⟨properties, types, queries, names, backed⟩
  · rintro ⟨properties, types, queries, names, backed⟩
    exact ⟨⟨⟨properties, by simp, types⟩, queries, by simp, names⟩, backed⟩

/-- An entity without a name is never accepted, whether its inside is looked at or not. -/
theorem judge_eq_nil_iff (before : List Entity) (e : Entity) : judge before e = [] ↔
    e.name ∉ before.map (·.name) ∧ Identifier.IsName e.name ∧ e.WellFormed := by
  rw [judge, ← problems_eq_nil_iff]
  split
  · rename_i nameless
    simp [Identifier.IsName, nameless]
  · rename_i named
    simp [Identifier.IsName, named]

end Entity

/-- The validator has nothing to say about a design exactly if the design is well-formed. -/
theorem Design.problems_eq_nil_iff_wellFormed (d : Design) : d.problems = [] ↔ d.WellFormed := by
  rw [problems_eq, Problem.along_eq_nil_iff Entity.judge_eq_nil_iff]
  constructor
  · rintro ⟨distinct, -, entities⟩
    exact ⟨distinct, fun e he => (entities e he).1, fun e he => (entities e he).2⟩
  · rintro ⟨distinct, named, inside⟩
    exact ⟨distinct, by simp, fun e he => ⟨named e he, inside e he⟩⟩

end EntityDesign
