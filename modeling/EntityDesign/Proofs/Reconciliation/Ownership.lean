import EntityDesign.Proofs.Reconciliation.Session
import EntityDesign.Proofs.Validation

/-! Columns and their last reader. A deletion drops the columns with the last reader; an edit that
makes the last reader something else leaves them. -/
namespace EntityDesign.Reconciliation
variable {σ : Type} (analyze : Analyzer σ)

section
variable {e : Entity} {i : Nat} {q : Query}

theorem hasReader_congr {e e' : Entity}
    (h : e.queries.map (·.isReader) = e'.queries.map (·.isReader)) :
    e.hasReader = e'.hasReader := by
  simpa [Entity.hasReader, List.any_map, Function.comp_def] using congrArg (List.any · id) h

theorem owned_congr {e e' : Entity} (hp : e.properties = e'.properties)
    (hq : e.queries.map (·.isReader) = e'.queries.map (·.isReader)) : e.Owned ↔ e'.Owned := by
  rw [Entity.Owned, Entity.Owned, hp, hasReader_congr hq]

/-- A query at an index is a reader, or there are other readers, or none. -/
theorem hasReader_set (h : e.queries[i]? = some q) (q' : Query) :
    Entity.hasReader { e with queries := e.queries.set i q' } = true ↔
      q'.isReader = true ∨ e.otherReaders i ≠ [] := by
  obtain ⟨hi, -⟩ := List.getElem?_eq_some_iff.1 h
  have hset : e.queries.set i q' = e.queries.take i ++ q' :: e.queries.drop (i + 1) :=
    List.set_eq_take_append_cons_drop.trans (if_pos hi)
  simp only [Entity.hasReader, Entity.otherReaders, hset, List.eraseIdx_eq_take_drop_succ,
    List.any_append, List.any_cons, Bool.or_eq_true, List.filter_append, ne_eq,
    List.append_eq_nil_iff, not_and_or, List.filter_eq_nil_iff, not_forall, List.any_eq_true]
  simp only [not_not, exists_prop]
  exact or_left_comm

/-- A refresh neither gives columns to an entity without a reader nor takes a reader away. -/
theorem owned_refreshQueryAt {p : Progress σ} (cascade : Bool)
    (h : p.entity.queries[i]? = some q) :
    (refreshQueryAt analyze i cascade p).entity.Owned ↔ p.entity.Owned := by
  have hr := hasReader_congr (map_refreshQueryAt analyze cascade h (·.isReader) (by simp) (by simp))
  rw [Entity.Owned, Entity.Owned, hr, properties_refreshQueryAt analyze cascade h]
  by_cases reader : q.isReader
  · have hq : p.entity.hasReader = true := List.any_eq_true.2 ⟨q, List.mem_of_getElem? h, reader⟩
    simp [hq]
  · have hp (a : Answer) : p.entity.propertiesAfter q a = p.entity.properties := by
      cases a <;> simp [Entity.propertiesAfter, reader]
    rw [hp]

end

/-- An edit that makes the only reader of an entity with columns something else. -/
def Retires (e : Entity) : Operation → Prop
  | .edit name draft =>
    draft.execution ≠ .reader ∧ e.properties ≠ [] ∧
      ∃ i, e.queryIndex? name = some i ∧ e.otherReaders i = []
  | _ => False

section
variable {analyze}

theorem owned_appended {e : Entity} (h : e.Owned) (q : Query) : (e.appended q).Owned := by
  rcases h with hp | hr
  · exact .inl hp
  · right
    rw [Entity.hasReader, Entity.appended, List.any_append, ← Entity.hasReader, hr, Bool.true_or]

theorem owned_of_reader {e : Entity} {q : Query} (h : q.isReader = true) : (e.appended q).Owned :=
  .inr (by simp [Entity.hasReader, Entity.appended, h])

theorem owned_added {draft : Draft} {decide : Question → Bool} {e : Entity} {s : σ}
    {o : Outcome σ (ChangeReport × Option Question)} (way : Added analyze draft decide e s o)
    (h : e.Owned) : o.entity.Owned := by
  cases way with
  | taken | declined => exact h
  | failed | kept => exact owned_appended h _
  | adopted _ _ reader => exact owned_of_reader (by simpa using reader)
  | replaced _ _ reader _ _ _ refreshed =>
    rw [refreshed, owned_refreshQueryAt analyze true (Entity.getElem?_appended _ _)]
    exact owned_of_reader (by simpa using reader)

/-- A redefinition keeps columns and readers together unless it retires the last reader. -/
theorem owned_redefined_iff {e : Entity} {name : String} {draft : Draft} {i : Nat} {q : Query}
    (found : e.queryIndex? name = some i) (hq : e.queries[i]? = some q) :
    (e.redefined i q draft).Owned ↔ ¬Retires e (.edit name draft) := by
  have hr := hasReader_set hq
    (draft.redefine (e.queryIndex? (Identifier.sanitize draft.name)).isSome q)
  have reader (taken : Bool) :
      (draft.redefine taken q).isReader = true ↔ draft.execution = .reader := by
    simp [Draft.redefine, Query.isReader]
  rw [reader] at hr
  simp only [Entity.Owned, Entity.redefined, hr, Retires, found, Option.some.injEq, exists_eq_left']
  tauto

theorem owned_dropOrphanedColumns (e : Entity) : e.dropOrphanedColumns.Owned := by
  rw [Entity.dropOrphanedColumns]
  split
  · rename_i hr
    exact .inr hr
  · exact .inl rfl

/-- Every operation keeps columns and readers together, unless it retires the last reader. -/
theorem owned_perform_iff {op : Operation} {e : Entity} {s : σ} (h : e.Owned) :
    (op.perform analyze e s).entity.Owned ↔ ¬Retires e op := by
  have way := performed analyze op e s
  generalize op.perform analyze e s = after at way ⊢
  cases way with
  | added way => exact iff_of_true (owned_added way h) not_false
  | missing target unknown =>
    refine iff_of_true h ?_
    cases op with
    | edit name draft =>
      cases target
      simp [Retires, unknown]
    | add | refresh | refreshAll | delete => exact not_false
  | edited found hq =>
    obtain ⟨hi, -⟩ := List.getElem?_eq_some_iff.1 hq
    exact (owned_refreshQueryAt analyze false (List.getElem?_set_self hi)).trans
      (owned_redefined_iff found hq)
  | refreshed found hq =>
    exact iff_of_true ((owned_refreshQueryAt analyze false hq).2 h) not_false
  | swept first hq =>
    have pass : (renewOthers analyze e s).entity.Owned :=
      (owned_congr (properties_renewOthers analyze e s)
        (map_renewOthers analyze (·.isReader) (by simp) e s)).2 h
    exact iff_of_true ((owned_refreshQueryAt analyze true hq).2 pass) not_false
  | renewed =>
    refine iff_of_true ?_ not_false
    exact (owned_congr (properties_renewOthers analyze e s)
      (map_renewOthers analyze (·.isReader) (by simp) e s)).2 h
  | deleted => exact iff_of_true (owned_dropOrphanedColumns _) not_false

/-- No operation renames the entity. -/
theorem name_perform (op : Operation) (e : Entity) (s : σ) :
    (op.perform analyze e s).entity.name = e.name :=
  congrArg Prod.fst (place_perform analyze op e s)

/-- The entity of a session that starts without columns has some only beside a reader, all along,
exactly when no edit retires the last reader of an entity with columns. If the entity has a name,
that is also when the validator never reports columns without a reader. -/
theorem session_owned (e : Entity) (s : σ) (properties : e.properties = [])
    (ops : List Operation) :
    ((∀ before, before <+: ops → (run analyze before e s).1.properties = [] ∨
        ∃ q ∈ (run analyze before e s).1.queries, q.isReader = true) ↔
      ∀ before op, before ++ [op] <+: ops → ¬Retires (run analyze before e s).1 op) ∧
    ((∀ before, before <+: ops → ∀ name,
        .columnsWithoutReader name ∉ Design.problems { entities := [(run analyze before e s).1] }) ↔
      e.name = "" ∨
        ∀ before op, before ++ [op] <+: ops → ¬Retires (run analyze before e s).1 op) := by
  have owned := run_invariant_iff analyze e s (fun e s op h => owned_perform_iff h)
    (.inl properties) ops
  have named (before : List Operation) : (run analyze before e s).1.name = e.name :=
    run_invariant analyze e s (P := fun e' => e'.name = e.name)
      (fun e' s op h => (name_perform op e' s).trans h) rfl before
  constructor
  · simpa [Entity.Owned, Entity.hasReader, List.any_eq_true] using owned
  · simp only [Design.columnsWithoutReader_notMem_problems, named, ← owned]
    by_cases hn : e.name = "" <;> simp [hn]

end

/-- The last reader turned into a query for one value. -/
def editLoad : Operation := .edit "Load" ⟨"Load", "SELECT A FROM T", .text, .scalar⟩

/-- Deleting the last reader instead keeps columns and readers together. -/
theorem owned_load_delete :
    (run (unmoved purgeAndLoad) [addLoad, .delete "Load"]
        (Entity.named "Item") ()).1.properties = [] ∨
      ∃ q ∈ (run (unmoved purgeAndLoad) [addLoad, .delete "Load"]
        (Entity.named "Item") ()).1.queries, q.isReader = true := by
  refine (session_owned (Entity.named "Item") () rfl [addLoad, .delete "Load"]).1.2
    (fun before op hop => ?_) _ List.prefix_rfl
  have hmem : op ∈ [addLoad, .delete "Load"] := hop.subset (by simp)
  simp only [List.mem_cons, List.not_mem_nil, or_false] at hmem
  rcases hmem with rfl | rfl <;> exact not_false

/-- One that edits it leaves the columns, and the validator says so. -/
theorem not_owned_load_edit :
    .columnsWithoutReader "Item" ∈ Design.problems {
      entities := [(run (unmoved purgeAndLoad) [addLoad, editLoad]
        (Entity.named "Item") ()).1] } := by
  decide +kernel

end EntityDesign.Reconciliation
