import Mathlib.Data.Set.Card
import EntityDesign.Proofs.Lists
import EntityDesign.Proofs.Validation

/-! What the validator tells of the inside of entities. Every flaw in an entity with a name is told
of, and told of once, whatever else is wrong; the flaws in a nameless entity are masked by its name.
-/
namespace EntityDesign

namespace Problem

/-- A problem of something inside an entity. -/
def isInner : Problem → Bool
  | duplicateProperty .. | unknownDbType .. | duplicateQuery .. | unsafeQueryName ..
  | columnsWithoutReader _ => true
  | emptyEntityName | duplicateEntity _ | unsafeEntityName _ => false

/-- The problems tell of all flaws and of each once, if `R` is the relation of a flaw and the
problem that tells of it. -/
def Tells {F : Type} (R : F → Problem → Prop) (ps : List Problem) : Prop :=
  ∃ flaws : List F, flaws.Nodup ∧ (∀ f, f ∈ flaws ↔ ∃ p, R f p) ∧ List.Forall₂ R flaws ps

namespace Tells
variable {α F : Type} {R S : F → Problem → Prop} {ps qs : List Problem} {f : F} {p : Problem}

theorem nil (flawless : ∀ f p, ¬R f p) : Tells R [] :=
  ⟨[], List.nodup_nil, by simpa using flawless, .nil⟩

theorem congr (h : Tells R ps) (same : ∀ f p, R f p ↔ S f p) : Tells S ps := by
  have hRS : R = S := by
    funext f p
    exact propext (same f p)
  exact hRS ▸ h

theorem append (hps : Tells R ps) (hqs : Tells S qs) (apart : ∀ f p q, R f p → ¬S f q) :
    Tells (fun f p => R f p ∨ S f p) (ps ++ qs) := by
  obtain ⟨flaws, distinct, mem, beside⟩ := hps
  obtain ⟨flaws', distinct', mem', beside'⟩ := hqs
  refine ⟨flaws ++ flaws', distinct.append distinct' ?_, fun f => ?_, ?_⟩
  · intro f hf hf'
    obtain ⟨p, hp⟩ := (mem f).1 hf
    obtain ⟨q, hq⟩ := (mem' f).1 hf'
    exact apart f p q hp hq
  · rw [List.mem_append, mem, mem', exists_or]
  · exact List.rel_append (beside.imp fun _ _ => .inl) (beside'.imp fun _ _ => .inr)

/-- A check that tells of a flaw under a condition. -/
theorem check (c : Prop) [Decidable c] (f : F) (p : Problem) :
    Tells (fun f' p' => c ∧ f' = f ∧ p' = p) (if c then [p] else []) := by
  split
  · rename_i holds
    exact ⟨[f], List.nodup_singleton f, by simp [holds], by simp [holds]⟩
  · rename_i fails
    exact nil fun _ _ h => fails h.1

/-- Two checks, one behind the other. -/
theorem checks (c c' : Prop) [Decidable c] [Decidable c'] {f f' : F} (apart : f ≠ f')
    (p p' : Problem) :
    Tells (fun g q => (c ∧ g = f ∧ q = p) ∨ (c' ∧ g = f' ∧ q = p'))
      ((if c then [p] else []) ++ if c' then [p'] else []) := by
  refine (check c f p).append (check c' f' p') ?_
  rintro g - - ⟨-, rfl, -⟩ ⟨-, same, -⟩
  exact apart same

/-- Flaws that are found inside something are labelled with its place. -/
theorem labelled (h : Tells R ps) (k : Nat) :
    Tells (fun (place : Nat × F) p => place.1 = k ∧ R place.2 p) ps := by
  obtain ⟨flaws, distinct, mem, beside⟩ := h
  refine ⟨flaws.map (k, ·), distinct.map fun _ _ same => (Prod.mk.inj same).2, ?_, ?_⟩
  · rintro ⟨i, f⟩
    simp [← mem, and_comm, eq_comm]
  · exact List.forall₂_map_left_iff.2 (beside.imp fun _ _ hR => ⟨rfl, hR⟩)

/-- What is told of each entry beside those before it is told of the whole list. -/
theorem along {R : Nat → List α → α → F → Problem → Prop} {judge : List α → α → List Problem}
    (each : ∀ before a, Tells (R before.length before a) (judge before a))
    (apart : ∀ i j before before' a a' f p q, R i before a f p → R j before' a' f q → i = j)
    (as : List α) :
    Tells (fun f p => ∃ i a, as[i]? = some a ∧ R i (as.take i) a f p) (along judge [] as) := by
  induction as using List.reverseRecOn with
  | nil => exact nil (by simp)
  | append_singleton as a ih =>
    rw [along_concat, List.nil_append]
    refine (ih.append (each as a) ?_).congr fun f p => ⟨?_, ?_⟩
    · rintro f p q ⟨i, b, hb, old⟩ new
      have inside := (List.getElem?_eq_some_iff.1 hb).1
      exact inside.ne (apart _ _ _ _ _ _ _ _ _ old new)
    · rintro (⟨i, b, hb, old⟩ | new)
      · have inside := (List.getElem?_eq_some_iff.1 hb).1
        refine ⟨i, b, by rw [List.getElem?_append_left inside, hb], ?_⟩
        rwa [List.take_append_of_le_length inside.le]
      · exact ⟨as.length, a, by simp, by simpa using new⟩
    · rintro ⟨i, b, hb, flawed⟩
      rcases lt_or_ge i as.length with inside | behind
      · rw [List.getElem?_append_left inside] at hb
        rw [List.take_append_of_le_length inside.le] at flawed
        exact .inl ⟨i, b, hb, flawed⟩
      · have last : i = as.length := by
          have := (List.getElem?_eq_some_iff.1 hb).1
          simp only [List.length_append, List.length_singleton] at this
          omega
        subst last
        obtain rfl : a = b := by simpa using hb
        exact .inr (by simpa using flawed)

theorem mem (h : Tells R ps) (unique : ∀ f p q, R f p → R f q → p = q) (flawed : R f p) :
    p ∈ ps := by
  obtain ⟨flaws, -, mem, beside⟩ := h
  obtain ⟨q, hq, told⟩ := exists_beside_left beside ((mem f).2 ⟨p, flawed⟩)
  exact unique f p q flawed told ▸ hq

theorem exists_of_mem (h : Tells R ps) (hp : p ∈ ps) : ∃ f, R f p := by
  obtain ⟨flaws, -, -, beside⟩ := h
  obtain ⟨f, -, flawed⟩ := exists_beside_right beside hp
  exact ⟨f, flawed⟩

theorem finite (h : Tells R ps) : {f | ∃ p, R f p}.Finite := by
  obtain ⟨flaws, -, mem, -⟩ := h
  simp only [← mem]
  exact flaws.finite_toSet

/-- There are as many problems as flaws. -/
theorem length_eq (h : Tells R ps) : ps.length = {f | ∃ p, R f p}.ncard := by
  classical
  obtain ⟨flaws, distinct, mem, beside⟩ := h
  have all : {f | ∃ p, R f p} = ↑flaws.toFinset := by
    ext f
    simp [mem]
  rw [all, Set.ncard_coe_finset, List.toFinset_card_of_nodup distinct, beside.length_eq]

end Tells
end Problem

/-- Where something inside an entity breaks a rule. -/
inductive Flaw where
  | repeatedProperty (i : Nat)
  | unknownType (i : Nat)
  | repeatedQuery (i : Nat)
  | unsafeQuery (i : Nat)
  | orphanedColumns
  deriving DecidableEq, Repr

namespace Property

/-- The flaws of the property at the index `i`, behind those before it, and the problems that tell
of them. -/
inductive Flawed (entity : String) (i : Nat) (before : List Property) (p : Property) :
    Flaw → Problem → Prop
  | repeated (earlier : p.name ∈ before.map (·.name)) :
    Flawed entity i before p (.repeatedProperty i) (.duplicateProperty entity p.name)
  | unknownType (unknown : ¬∃ t : DbType, t.word = p.dbType) :
    Flawed entity i before p (.unknownType i) (.unknownDbType entity p.name p.dbType)

theorem Flawed.index_eq {entity : String} {i j : Nat} {before before' : List Property}
    {p p' : Property} {f : Flaw} {problem problem' : Problem}
    (h : Flawed entity i before p f problem) (h' : Flawed entity j before' p' f problem') :
    i = j := by
  cases h <;> cases h' <;> rfl

theorem tells_judge (entity : String) (before : List Property) (p : Property) :
    Problem.Tells (Flawed entity before.length before p) (judge entity before p) := by
  have apart : Flaw.repeatedProperty before.length ≠ .unknownType before.length := by simp
  have told := Problem.Tells.checks (p.name ∈ before.map (·.name))
    (¬(DbType.read p.dbType).isOk = true) apart (.duplicateProperty entity p.name)
    (.unknownDbType entity p.name p.dbType)
  rw [judge, ← ite_not ((DbType.read p.dbType).isOk = true)]
  refine told.congr fun f problem => ⟨?_, ?_⟩
  · rw [DbType.isOk_read_iff]
    rintro (⟨earlier, rfl, rfl⟩ | ⟨unknown, rfl, rfl⟩)
    · exact .repeated earlier
    · exact .unknownType unknown
  · rw [DbType.isOk_read_iff]
    rintro (earlier | unknown)
    · exact .inl ⟨earlier, rfl, rfl⟩
    · exact .inr ⟨unknown, rfl, rfl⟩

end Property

namespace Query

/-- The flaws of the query at the index `i`, behind those before it, and the problems that tell of
them. -/
inductive Flawed (entity : String) (i : Nat) (before : List Query) (q : Query) :
    Flaw → Problem → Prop
  | repeated (earlier : q.name ∈ before.map (·.name)) :
    Flawed entity i before q (.repeatedQuery i) (.duplicateQuery entity q.name)
  | refused (refused : q.name = "" ∨ Identifier.sanitize q.name ≠ q.name) :
    Flawed entity i before q (.unsafeQuery i) (.unsafeQueryName entity q.name)

theorem Flawed.index_eq {entity : String} {i j : Nat} {before before' : List Query} {q q' : Query}
    {f : Flaw} {problem problem' : Problem} (h : Flawed entity i before q f problem)
    (h' : Flawed entity j before' q' f problem') : i = j := by
  cases h <;> cases h' <;> rfl

theorem tells_judge (entity : String) (before : List Query) (q : Query) :
    Problem.Tells (Flawed entity before.length before q) (judge entity before q) := by
  have apart : Flaw.repeatedQuery before.length ≠ .unsafeQuery before.length := by simp
  have told := Problem.Tells.checks (q.name ∈ before.map (·.name))
    (q.name = "" ∨ Identifier.sanitize q.name ≠ q.name) apart (.duplicateQuery entity q.name)
    (.unsafeQueryName entity q.name)
  refine told.congr fun f problem => ⟨?_, ?_⟩
  · rintro (⟨earlier, rfl, rfl⟩ | ⟨refused, rfl, rfl⟩)
    · exact .repeated earlier
    · exact .refused refused
  · rintro (earlier | refused)
    · exact .inl ⟨earlier, rfl, rfl⟩
    · exact .inr ⟨refused, rfl, rfl⟩

end Query

namespace Entity

/-- The flaws inside an entity, and the problems that tell of them. -/
inductive Flawed (e : Entity) : Flaw → Problem → Prop
  | property {i : Nat} {p : Property} {f : Flaw} {problem : Problem}
      (place : e.properties[i]? = some p)
      (flawed : p.Flawed e.name i (e.properties.take i) f problem) : Flawed e f problem
  | query {i : Nat} {q : Query} {f : Flaw} {problem : Problem} (place : e.queries[i]? = some q)
      (flawed : q.Flawed e.name i (e.queries.take i) f problem) : Flawed e f problem
  | orphanedColumns (columns : e.properties ≠ [])
      (readerless : ¬∃ q ∈ e.queries, q.execution = .reader) :
    Flawed e .orphanedColumns (.columnsWithoutReader e.name)

theorem Flawed.unique {e : Entity} {f : Flaw} {p q : Problem} (h : e.Flawed f p)
    (h' : e.Flawed f q) : p = q := by
  cases h with
  | orphanedColumns =>
    cases h' with
    | property _ flawed | query _ flawed => cases flawed
    | orphanedColumns => rfl
  | property place flawed =>
    cases h' with
    | query _ flawed' => cases flawed <;> cases flawed'
    | orphanedColumns => cases flawed
    | property place' flawed' =>
      cases flawed.index_eq flawed'
      cases place.symm.trans place'
      cases flawed <;> cases flawed' <;> rfl
  | query place flawed =>
    cases h' with
    | property _ flawed' => cases flawed <;> cases flawed'
    | orphanedColumns => cases flawed
    | query place' flawed' =>
      cases flawed.index_eq flawed'
      cases place.symm.trans place'
      cases flawed <;> cases flawed' <;> rfl

theorem Flawed.isInner {e : Entity} {f : Flaw} {p : Problem} (h : e.Flawed f p) :
    p.isInner = true := by
  cases h with
  | property _ flawed => cases flawed <;> rfl
  | query _ flawed => cases flawed <;> rfl
  | orphanedColumns => rfl

/-- The problems of an entity tell of its flaws. -/
theorem tells_problems (e : Entity) : Problem.Tells e.Flawed e.problems := by
  have properties := Problem.Tells.along (Property.tells_judge e.name)
    (fun _ _ _ _ _ _ _ _ _ h h' => h.index_eq h') e.properties
  have queries := Problem.Tells.along (Query.tells_judge e.name)
    (fun _ _ _ _ _ _ _ _ _ h h' => h.index_eq h') e.queries
  have columns := Problem.Tells.check (e.properties ≠ [] ∧ (!e.hasReader) = true)
    Flaw.orphanedColumns (.columnsWithoutReader e.name)
  have readerless : (!e.hasReader) = true ↔ ¬∃ q ∈ e.queries, q.execution = .reader := by
    simp [hasReader, Query.isReader]
  rw [problems_eq]
  refine ((properties.append queries ?_).append columns ?_).congr fun f problem => ⟨?_, ?_⟩
  · rintro f p p' ⟨i, a, -, flawed⟩ ⟨j, b, -, flawed'⟩
    cases flawed <;> cases flawed'
  · rintro f p p' (⟨i, a, -, flawed⟩ | ⟨i, a, -, flawed⟩) ⟨-, rfl, -⟩ <;> cases flawed
  · rw [readerless]
    rintro ((⟨i, p, place, flawed⟩ | ⟨i, q, place, flawed⟩) | ⟨⟨columns, readerless⟩, rfl, rfl⟩)
    · exact .property place flawed
    · exact .query place flawed
    · exact .orphanedColumns columns readerless
  · rw [readerless]
    intro h
    cases h with
    | property place flawed => exact .inl (.inl ⟨_, _, place, flawed⟩)
    | query place flawed => exact .inl (.inr ⟨_, _, place, flawed⟩)
    | orphanedColumns columns readerless => exact .inr ⟨⟨columns, readerless⟩, rfl, rfl⟩

/-- The inside of a nameless entity is not looked at; nothing else keeps its problems back. -/
theorem filter_isInner_judge (before : List Entity) (e : Entity) :
    (judge before e).filter (·.isInner) = if e.name ≠ "" then e.problems else [] := by
  have inner : e.problems.filter (·.isInner) = e.problems := by
    refine List.filter_eq_self.2 fun p hp => ?_
    obtain ⟨f, flawed⟩ := e.tells_problems.exists_of_mem hp
    exact flawed.isInner
  have outer (c : Prop) [Decidable c] {p : Problem} (h : p.isInner = false) :
      (if c then [p] else []).filter (·.isInner) = [] := by
    split
    · exact List.filter_cons_of_neg (by simp [h])
    · rfl
  by_cases nameless : e.name = ""
  · rw [judge, if_pos nameless, if_neg (not_not.2 nameless)]
    rfl
  · rw [judge, if_neg nameless, if_pos nameless, List.filter_append, List.filter_append, inner,
      outer _ rfl, outer _ rfl]
    rfl

end Entity

namespace Design

/-- The flaws inside the entities of a design, by the index of the entity. -/
def Flawed (d : Design) (place : Nat × Flaw) (p : Problem) : Prop :=
  ∃ e, d.entities[place.1]? = some e ∧ e.Flawed place.2 p

/-- The flaws inside the entities that have a name. -/
def Exposed (d : Design) (place : Nat × Flaw) (p : Problem) : Prop :=
  ∃ e, d.entities[place.1]? = some e ∧ e.name ≠ "" ∧ e.Flawed place.2 p

/-- No flaw inside an entity is masked by something else. -/
structure Unmasked (d : Design) : Prop where
  told : ∀ place p, d.Flawed place p → p ∈ d.problems
  counted : d.problems.countP (·.isInner) = {place | ∃ p, d.Flawed place p}.ncard

theorem Exposed.flawed {d : Design} {place : Nat × Flaw} {p : Problem} (h : d.Exposed place p) :
    d.Flawed place p := by
  obtain ⟨e, he, -, flawed⟩ := h
  exact ⟨e, he, flawed⟩

theorem Flawed.unique {d : Design} {place : Nat × Flaw} {p q : Problem} (h : d.Flawed place p)
    (h' : d.Flawed place q) : p = q := by
  obtain ⟨e, he, flawed⟩ := h
  obtain ⟨e', he', flawed'⟩ := h'
  cases he.symm.trans he'
  exact flawed.unique flawed'

/-- If the inside of the entities in a scope is all that is judged, the problems tell of the flaws
there. -/
theorem tells_scope (d : Design) (scope : Entity → Prop) [DecidablePred scope] :
    Problem.Tells
      (fun (place : Nat × Flaw) p =>
        ∃ e, d.entities[place.1]? = some e ∧ scope e ∧ e.Flawed place.2 p)
      (Problem.along (fun _ e => if scope e then e.problems else []) [] d.entities) := by
  have each (before : List Entity) (e : Entity) :
      Problem.Tells
        (fun (place : Nat × Flaw) p => scope e ∧ place.1 = before.length ∧ e.Flawed place.2 p)
        (if scope e then e.problems else []) := by
    split
    · rename_i inside
      exact (e.tells_problems.labelled before.length).congr fun f p => (and_iff_right inside).symm
    · rename_i outside
      exact .nil fun f p h => outside h.1
  refine (Problem.Tells.along (R := fun i _ e place p =>
    scope e ∧ place.1 = i ∧ e.Flawed place.2 p) each ?_ d.entities).congr fun place p => ⟨?_, ?_⟩
  · rintro i j - - - - place - - ⟨-, rfl, -⟩ ⟨-, rfl, -⟩
    rfl
  · rintro ⟨i, e, he, inside, rfl, flawed⟩
    exact ⟨e, he, inside, flawed⟩
  · rintro ⟨e, he, inside, flawed⟩
    exact ⟨place.1, e, he, inside, rfl, flawed⟩

theorem finite_flawed (d : Design) : {place | ∃ p, d.Flawed place p}.Finite :=
  ((d.tells_scope fun _ => True).congr fun _ _ => by simp [Flawed]).finite

/-- Of the problems inside entities those are left that are inside an entity with a name. -/
theorem filter_isInner_problems (d : Design) : d.problems.filter (·.isInner) =
    Problem.along (fun _ e => if e.name ≠ "" then e.problems else []) [] d.entities := by
  rw [problems_eq, Problem.filter_along]
  simp only [Entity.filter_isInner_judge]

theorem tells_exposed (d : Design) : Problem.Tells d.Exposed (d.problems.filter (·.isInner)) := by
  rw [filter_isInner_problems]
  exact d.tells_scope fun e => e.name ≠ ""

/-- The validator tells of the flaws inside the entities with a name, of each once. It masks no flaw
exactly if the nameless entities have none. -/
theorem masks_nameless_only (d : Design) :
    Problem.Tells d.Exposed (d.problems.filter (·.isInner)) ∧
      (d.Unmasked ↔ ∀ e ∈ d.entities, e.name = "" → ∀ f p, ¬e.Flawed f p) := by
  have tells := d.tells_exposed
  have count : d.problems.countP (·.isInner) = {place | ∃ p, d.Exposed place p}.ncard := by
    rw [List.countP_eq_length_filter, tells.length_eq]
  refine ⟨tells, fun unmasked e he nameless f p flawed => ?_, fun flawless => ?_⟩
  · have same : {place | ∃ p, d.Exposed place p} = {place | ∃ p, d.Flawed place p} := by
      refine Set.eq_of_subset_of_ncard_le ?_ ?_ d.finite_flawed
      · rintro place ⟨p, exposed⟩
        exact ⟨p, exposed.flawed⟩
      · rw [← unmasked.counted, count]
    obtain ⟨k, hk⟩ := List.mem_iff_getElem?.1 he
    have masked : (k, f) ∈ {place | ∃ p, d.Flawed place p} := ⟨p, e, hk, flawed⟩
    rw [← same] at masked
    obtain ⟨-, e', hk', named, -⟩ := masked
    cases hk.symm.trans hk'
    exact named nameless
  · have same (place : Nat × Flaw) (p : Problem) : d.Exposed place p ↔ d.Flawed place p := by
      refine ⟨Exposed.flawed, ?_⟩
      rintro ⟨e, he, flawed⟩
      refine ⟨e, he, fun nameless => ?_, flawed⟩
      exact flawless e (List.mem_of_getElem? he) nameless _ _ flawed
    refine ⟨fun place p flawed => ?_, by simpa only [same] using count⟩
    exact List.mem_of_mem_filter
      (tells.mem (fun _ _ _ h h' => h.flawed.unique h'.flawed) ((same place p).2 flawed))

def untyped : Property := ⟨"Id", "int", "Integer"⟩

def deleteAll : Query :=
  { name := "delete all", command := "DELETE FROM T", kind := .text, execution := .nonQuery }

/-- A nameless entity with flaws of all kinds. -/
def nameless : Design where
  entities := [
    { name := "", properties := [untyped, untyped], queries := [deleteAll, deleteAll] }]

/-- All that is told of it is that it has no name. -/
theorem not_unmasked_nameless : nameless.problems = [.emptyEntityName] ∧
    nameless.Flawed (0, .repeatedProperty 1) (.duplicateProperty "" "Id") ∧
    nameless.Flawed (0, .unknownType 0) (.unknownDbType "" "Id" "Integer") ∧
    nameless.Flawed (0, .repeatedQuery 1) (.duplicateQuery "" "delete all") ∧
    nameless.Flawed (0, .unsafeQuery 0) (.unsafeQueryName "" "delete all") ∧
    nameless.Flawed (0, .orphanedColumns) (.columnsWithoutReader "") ∧ ¬nameless.Unmasked := by
  have problems : nameless.problems = [.emptyEntityName] := by decide +kernel
  have repeated : nameless.Flawed (0, .repeatedProperty 1) (.duplicateProperty "" "Id") :=
    ⟨_, rfl, .property (p := untyped) rfl (.repeated (by decide))⟩
  have unknown : ¬∃ t : DbType, t.word = untyped.dbType := by
    rw [← DbType.isOk_read_iff]
    decide +kernel
  refine ⟨problems, repeated, ⟨_, rfl, .property (p := untyped) rfl (.unknownType unknown)⟩,
    ⟨_, rfl, .query (q := deleteAll) rfl (.repeated (by decide))⟩,
    ⟨_, rfl, .query (q := deleteAll) rfl (.refused (.inr (by decide +kernel)))⟩,
    ⟨_, rfl, .orphanedColumns (by decide) (by decide)⟩, fun unmasked => ?_⟩
  have told := unmasked.told _ _ repeated
  simp [problems] at told

end Design
end EntityDesign
