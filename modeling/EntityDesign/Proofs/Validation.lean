import Mathlib.Data.List.Nodup
import Mathlib.Tactic.Tauto
import EntityDesign.Validation

/-! What the validator reports. It judges the entries of a list one after the other, each beside
those before it; most problems depend on the entry alone. So whether all problems are of a class can
be told entry by entry, unless the class is about doubled names. -/
namespace EntityDesign

namespace Problem
variable {α : Type}

/-- The problems of entries that are judged one after the other, each beside those before it. -/
def along (judge : List α → α → List Problem) (before : List α) : List α → List Problem
  | [] => []
  | a :: rest => judge before a ++ along judge (before ++ [a]) rest

/-- What depends on each entry alone holds of all problems if it holds entry by entry. -/
theorem forall_mem_along_iff {judge : List α → α → List Problem} {P : Problem → Prop}
    {Good : α → Prop} (alone : ∀ l a, (∀ p ∈ judge l a, P p) ↔ Good a) (before as : List α) :
    (∀ p ∈ along judge before as, P p) ↔ ∀ a ∈ as, Good a := by
  induction as generalizing before with
  | nil => simp [along]
  | cons a rest ih =>
    simp only [along, List.mem_append, or_imp, forall_and, alone, ih, List.mem_cons,
      forall_eq]

/-- Entries whose keys have to be new are accepted if their keys differ, from each other and from
those before, and each entry is good. -/
theorem along_eq_nil_iff {judge : List α → α → List Problem} {key : α → String} {Good : α → Prop}
    (accepts : ∀ before a, judge before a = [] ↔ key a ∉ before.map key ∧ Good a)
    (before as : List α) : along judge before as = [] ↔
      (as.map key).Nodup ∧ (∀ a ∈ as, key a ∉ before.map key) ∧ ∀ a ∈ as, Good a := by
  induction as generalizing before with
  | nil => simp [along]
  | cons a as ih =>
    have hapart : (∀ b ∈ as, key b ∉ (before ++ [a]).map key) ↔
        (∀ b ∈ as, key b ∉ before.map key) ∧ key a ∉ as.map key := by
      simp only [List.map_append, List.map_cons, List.map_nil, List.mem_append, List.mem_singleton,
        not_or, List.mem_map (l := as), not_exists, not_and, ← forall_and]
    rw [along, List.append_eq_nil_iff, accepts, ih, hapart, List.map_cons, List.nodup_cons,
      List.forall_mem_cons, List.forall_mem_cons]
    tauto

theorem along_concat (judge : List α → α → List Problem) (before as : List α) (a : α) :
    along judge before (as ++ [a]) = along judge before as ++ judge (before ++ as) a := by
  induction as generalizing before with
  | nil => simp [along]
  | cons b as ih => simp [along, ih]

theorem filter_along (f : Problem → Bool) (judge : List α → α → List Problem)
    (before as : List α) : (along judge before as).filter f =
      along (fun before a => (judge before a).filter f) before as := by
  induction as generalizing before with
  | nil => rfl
  | cons a as ih => rw [along, List.filter_append, ih, along]

/-- A problem of how an entity or a query is called. -/
def isNaming : Problem → Bool
  | emptyEntityName | unsafeEntityName _ | unsafeQueryName .. => true
  | _ => false

/-- A problem of an entity or a query that has the empty name. -/
def isEmptyName : Problem → Bool
  | emptyEntityName => true
  | unsafeQueryName _ query => query == ""
  | _ => false

/-- A problem of the columns of an entity. -/
def isProperty : Problem → Bool
  | duplicateProperty .. | unknownDbType .. => true
  | _ => false

end Problem

/-- A name that the validator accepts. -/
def Identifier.IsName (name : String) : Prop := name ≠ "" ∧ sanitize name = name

namespace Property

/-- The problems of a property beside those before it. -/
def judge (entity : String) (before : List Property) (p : Property) : List Problem :=
  (if p.name ∈ before.map (·.name) then [.duplicateProperty entity p.name] else []) ++
    if (DbType.read p.dbType).isOk then [] else [.unknownDbType entity p.name p.dbType]

theorem problems_eq (entity : String) {seen : List String} (before : List Property)
    (h : ∀ name, name ∈ seen ↔ name ∈ before.map (·.name)) (ps : List Property) :
    problems entity seen ps = Problem.along (judge entity) before ps := by
  induction ps generalizing seen before with
  | nil => rfl
  | cons p ps ih =>
    rw [problems, Problem.along, judge, ih (before ++ [p]) fun name => ?_]
    · simp only [h]
    · simp [h, or_comm]

theorem forall_mem_judge_iff {P : Problem → Prop} (entity : String) (before : List Property)
    (p : Property) : (∀ problem ∈ judge entity before p, P problem) ↔
      (p.name ∈ before.map (·.name) → P (.duplicateProperty entity p.name)) ∧
        ((DbType.read p.dbType).isOk = false → P (.unknownDbType entity p.name p.dbType)) := by
  simp only [judge, List.mem_append, or_imp, forall_and, List.mem_ite_nil_right,
    List.mem_ite_nil_left, List.mem_singleton, and_imp, forall_eq_apply_imp_iff, Bool.not_eq_true]

/-- The problems of properties are of a class that holds both kinds of them. -/
theorem forall_mem_along {P : Problem → Prop} {entity : String}
    (double : ∀ name, P (.duplicateProperty entity name))
    (unknown : ∀ name dbType, P (.unknownDbType entity name dbType)) (ps : List Property) :
    ∀ p ∈ Problem.along (judge entity) [] ps, P p := by
  have alone (before : List Property) (p : Property) :
      (∀ problem ∈ judge entity before p, P problem) ↔ True := by
    simp [forall_mem_judge_iff, double, unknown]
  exact (Problem.forall_mem_along_iff alone [] ps).2 fun _ _ => trivial

/-- Properties have no problem if their names differ and their types are known. -/
theorem along_judge_eq_nil_iff (entity : String) (before ps : List Property) :
    Problem.along (judge entity) before ps = [] ↔
      (ps.map (·.name)).Nodup ∧ (∀ p ∈ ps, p.name ∉ before.map (·.name)) ∧
        ∀ p ∈ ps, (DbType.read p.dbType).isOk = true := by
  refine Problem.along_eq_nil_iff (fun before p => ?_) before ps
  simp [judge]

theorem forall_isProperty_along_iff (entity : String) (ps : List Property) :
    (∀ p ∈ Problem.along (judge entity) [] ps, p.isProperty = false) ↔
      (ps.map (·.name)).Nodup ∧ ∀ p ∈ ps, (DbType.read p.dbType).isOk = true := by
  have all : ∀ p ∈ Problem.along (judge entity) [] ps, p.isProperty = true :=
    forall_mem_along (fun _ => rfl) (fun _ _ => rfl) ps
  have none_left : (∀ p ∈ Problem.along (judge entity) [] ps, p.isProperty = false) ↔
      Problem.along (judge entity) [] ps = [] := by
    rw [List.eq_nil_iff_forall_not_mem]
    refine forall_congr' fun p => ⟨fun h hmem => ?_, fun h hmem => absurd hmem h⟩
    exact Bool.noConfusion ((all p hmem).symm.trans (h hmem))
  rw [none_left, along_judge_eq_nil_iff]
  simp

end Property

namespace Query

/-- The problems of a query beside those before it. -/
def judge (entity : String) (before : List Query) (q : Query) : List Problem :=
  (if q.name ∈ before.map (·.name) then [.duplicateQuery entity q.name] else []) ++
    if q.name = "" ∨ Identifier.sanitize q.name ≠ q.name then [.unsafeQueryName entity q.name]
    else []

theorem problems_eq (entity : String) {seen : List String} (before : List Query)
    (h : ∀ name, name ∈ seen ↔ name ∈ before.map (·.name)) (qs : List Query) :
    problems entity seen qs = Problem.along (judge entity) before qs := by
  induction qs generalizing seen before with
  | nil => rfl
  | cons q qs ih =>
    rw [problems, Problem.along, judge, ih (before ++ [q]) fun name => ?_]
    · simp only [h]
    · simp [h, or_comm]

theorem forall_mem_judge_iff {P : Problem → Prop} (entity : String) (before : List Query)
    (q : Query) : (∀ problem ∈ judge entity before q, P problem) ↔
      (q.name ∈ before.map (·.name) → P (.duplicateQuery entity q.name)) ∧
        (¬Identifier.IsName q.name → P (.unsafeQueryName entity q.name)) := by
  have hname : (q.name = "" ∨ Identifier.sanitize q.name ≠ q.name) ↔
      ¬Identifier.IsName q.name := by
    rw [Identifier.IsName, not_and_or, not_not]
  simp only [judge, hname, List.mem_append, or_imp, forall_and, List.mem_ite_nil_right,
    List.mem_singleton, and_imp, forall_eq_apply_imp_iff]

end Query

namespace Entity

/-- The entity has no columns unless it has a reader. -/
def Owned (e : Entity) : Prop := e.properties = [] ∨ e.hasReader = true

theorem problems_eq (e : Entity) : e.problems =
    Problem.along (Property.judge e.name) [] e.properties ++
      Problem.along (Query.judge e.name) [] e.queries ++
      if e.properties ≠ [] ∧ !e.hasReader then [.columnsWithoutReader e.name] else [] := by
  rw [problems, Property.problems_eq e.name [] (by simp),
    Query.problems_eq e.name [] (by simp)]

/-- The problems of an entity beside those before it; the inside of a nameless one is skipped. -/
def judge (before : List Entity) (e : Entity) : List Problem :=
  if e.name = "" then [.emptyEntityName]
  else
    (if e.name ∈ before.map (·.name) then [.duplicateEntity e.name] else []) ++
    (if Identifier.sanitize e.name ≠ e.name then [.unsafeEntityName e.name] else []) ++
    e.problems

/-- The empty name is never compared with others. -/
theorem listProblems_eq {seen : List String} (before : List Entity)
    (h : ∀ name, name ≠ "" → (name ∈ seen ↔ name ∈ before.map (·.name))) (es : List Entity) :
    listProblems seen es = Problem.along judge before es := by
  induction es generalizing seen before with
  | nil => rfl
  | cons e es ih =>
    by_cases hname : e.name = ""
    · rw [listProblems, if_pos hname, Problem.along, judge, if_pos hname,
        ih (before ++ [e]) fun name hne => ?_]
      · rfl
      · simp [h name hne, hname, hne]
    · rw [listProblems, if_neg hname, Problem.along, judge, if_neg hname,
        ih (before ++ [e]) fun name hne => ?_]
      · simp only [h e.name hname]
      · simp [h name hne, or_comm]

section
variable {P : Problem → Prop}

theorem forall_mem_problems_iff (e : Entity) : (∀ p ∈ e.problems, P p) ↔
    (∀ p ∈ Problem.along (Property.judge e.name) [] e.properties, P p) ∧
      (∀ p ∈ Problem.along (Query.judge e.name) [] e.queries, P p) ∧
      (¬e.Owned → P (.columnsWithoutReader e.name)) := by
  have howned : (e.properties ≠ [] ∧ (!e.hasReader) = true) ↔ ¬e.Owned := by simp [Owned]
  simp only [problems_eq, howned, List.mem_append, or_imp, forall_and, List.mem_ite_nil_right,
    List.mem_singleton, and_imp, forall_eq_apply_imp_iff, and_assoc]

theorem forall_mem_judge_iff (before : List Entity) (e : Entity) : (∀ p ∈ judge before e, P p) ↔
    if e.name = "" then P .emptyEntityName
    else (e.name ∈ before.map (·.name) → P (.duplicateEntity e.name)) ∧
      (Identifier.sanitize e.name ≠ e.name → P (.unsafeEntityName e.name)) ∧
      ∀ p ∈ e.problems, P p := by
  rw [judge]
  split
  · simp
  · simp only [List.mem_append, or_imp, forall_and, List.mem_ite_nil_right, List.mem_singleton,
      and_imp, forall_eq_apply_imp_iff, and_assoc]

end

end Entity

namespace Design

theorem problems_eq (d : Design) : d.problems = Problem.along Entity.judge [] d.entities :=
  Entity.listProblems_eq [] (by simp) d.entities

/-- The problems of a design are of a class that holds doubled names of entities and queries if each
entity gives rise to such problems only, by its name, its queries and its columns. -/
theorem forall_mem_problems_iff {P : Problem → Prop} {Good : Entity → Prop}
    (entity : ∀ name, P (.duplicateEntity name))
    (query : ∀ entity name, P (.duplicateQuery entity name))
    (properties : ∀ e : Entity,
      (∀ p ∈ Problem.along (Property.judge e.name) [] e.properties, P p) ↔ Good e) (d : Design) :
    (∀ p ∈ d.problems, P p) ↔ ∀ e ∈ d.entities,
      if e.name = "" then P .emptyEntityName
      else (Identifier.sanitize e.name ≠ e.name → P (.unsafeEntityName e.name)) ∧ Good e ∧
        (∀ q ∈ e.queries, ¬Identifier.IsName q.name → P (.unsafeQueryName e.name q.name)) ∧
        (¬e.Owned → P (.columnsWithoutReader e.name)) := by
  have queries (name : String) (before : List Query) (q : Query) :
      (∀ p ∈ Query.judge name before q, P p) ↔
        (¬Identifier.IsName q.name → P (.unsafeQueryName name q.name)) := by
    simp [Query.forall_mem_judge_iff, query]
  rw [problems_eq]
  refine Problem.forall_mem_along_iff (fun before e => ?_) [] d.entities
  rw [Entity.forall_mem_judge_iff, Entity.forall_mem_problems_iff, properties,
    Problem.forall_mem_along_iff (queries e.name)]
  simp [entity]

/-- The validator has nothing to say about how things are called if and only if all entities and
queries have names that it accepts. -/
theorem forall_isNaming_iff (d : Design) : (∀ p ∈ d.problems, p.isNaming = false) ↔
    ∀ e ∈ d.entities, Identifier.IsName e.name ∧ ∀ q ∈ e.queries, Identifier.IsName q.name := by
  have properties (e : Entity) : ∀ p ∈ Problem.along (Property.judge e.name) [] e.properties,
      p.isNaming = false :=
    Property.forall_mem_along (by simp [Problem.isNaming]) (by simp [Problem.isNaming]) _
  rw [forall_mem_problems_iff (by simp [Problem.isNaming]) (by simp [Problem.isNaming]) fun e =>
    iff_true_intro (properties e)]
  refine forall₂_congr fun e _ => ?_
  by_cases nameless : e.name = "" <;> simp [nameless, Problem.isNaming, Identifier.IsName]

/-- What it has to say is about empty names if and only if sanitizing leaves the names alone. -/
theorem forall_isEmptyName_iff (d : Design) :
    (∀ p ∈ d.problems, p.isNaming = true → p.isEmptyName = true) ↔
      ∀ e ∈ d.entities, e.name = "" ∨ Identifier.sanitize e.name = e.name ∧
        ∀ q ∈ e.queries, Identifier.sanitize q.name = q.name := by
  have empty (q : Query) : (¬Identifier.IsName q.name → q.name = "") ↔
      Identifier.sanitize q.name = q.name := by
    by_cases h : q.name = "" <;> simp [Identifier.IsName, h]
  have properties (e : Entity) : ∀ p ∈ Problem.along (Property.judge e.name) [] e.properties,
      p.isNaming = true → p.isEmptyName = true :=
    Property.forall_mem_along (by simp [Problem.isNaming]) (by simp [Problem.isNaming]) _
  rw [forall_mem_problems_iff (by simp [Problem.isNaming]) (by simp [Problem.isNaming]) fun e =>
    iff_true_intro (properties e)]
  refine forall₂_congr fun e _ => ?_
  by_cases nameless : e.name = "" <;>
    simp [nameless, Problem.isNaming, Problem.isEmptyName, empty]

/-- It has nothing to say about columns if and only if in every entity with a name their names
differ and their types are known. -/
theorem forall_isProperty_iff (d : Design) : (∀ p ∈ d.problems, p.isProperty = false) ↔
    ∀ e ∈ d.entities, e.name = "" ∨ (e.properties.map (·.name)).Nodup ∧
      ∀ p ∈ e.properties, (DbType.read p.dbType).isOk = true := by
  rw [forall_mem_problems_iff (by simp [Problem.isProperty]) (by simp [Problem.isProperty]) fun e =>
    Property.forall_isProperty_along_iff e.name e.properties]
  refine forall₂_congr fun e _ => ?_
  by_cases nameless : e.name = "" <;> simp [nameless, Problem.isProperty]

/-- It reports no columns without a reader if and only if no entity with a name has some. -/
theorem columnsWithoutReader_notMem_iff (d : Design) :
    (∀ name, .columnsWithoutReader name ∉ d.problems) ↔
      ∀ e ∈ d.entities, e.name = "" ∨ e.Owned := by
  have others : (∀ name, .columnsWithoutReader name ∉ d.problems) ↔
      ∀ p ∈ d.problems, ∀ name, p ≠ .columnsWithoutReader name :=
    ⟨fun h p hp name heq => h name (heq ▸ hp), fun h name hp => h _ hp name rfl⟩
  rw [others, forall_mem_problems_iff (by simp) (by simp) fun e =>
    iff_true_intro (Property.forall_mem_along (by simp) (by simp) _)]
  refine forall₂_congr fun e _ => ?_
  by_cases nameless : e.name = "" <;> simp [nameless]

/-- A design of one entity is free of such reports if the entity is nameless or has no columns
without a reader. -/
theorem columnsWithoutReader_notMem_problems (e : Entity) :
    (∀ name, .columnsWithoutReader name ∉ Design.problems { entities := [e] }) ↔
      e.name = "" ∨ e.Owned := by
  simp [columnsWithoutReader_notMem_iff]

end Design
end EntityDesign
