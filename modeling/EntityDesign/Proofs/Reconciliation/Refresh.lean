import Mathlib.Data.List.Nodup
import EntityDesign.Proofs.Lists
import EntityDesign.Proofs.Reconciliation.Verdict

/-! What a refresh does: first the query itself is analyzed and its columns adopted, then the other
readers are rechecked if the columns changed or a cascade was asked for. -/
namespace EntityDesign

namespace Entity

/-- The readers other than the query at an index. -/
def otherReaders (e : Entity) (index : Nat) : List Query :=
  (e.queries.eraseIdx index).filter (·.isReader)

theorem nodup_otherReaders {e : Entity} (distinct : (e.queries.map (·.name)).Nodup) (i : Nat) :
    ((e.otherReaders i).map (·.name)).Nodup :=
  distinct.sublist ((List.filter_sublist.trans (List.eraseIdx_sublist _ _)).map _)

/-- Queries at different positions have different names. -/
theorem name_ne_of_ne {qs : List Query} {i j : Nat} {q q' : Query}
    (distinct : (qs.map (·.name)).Nodup) (h : qs[i]? = some q) (h' : qs[j]? = some q')
    (hij : i ≠ j) : q'.name ≠ q.name := by
  intro same
  have hi : (qs.map (·.name))[i]? = some q.name := by simp [h]
  have hj : (qs.map (·.name))[j]? = some q.name := by simp [h', same]
  obtain ⟨hlen, -⟩ := List.getElem?_eq_some_iff.1 hi
  exact hij ((List.getElem?_inj hlen distinct).1 (hi.trans hj.symm))

theorem name_ne_of_mem_otherReaders {e : Entity} {i : Nat} {q q' : Query}
    (distinct : (e.queries.map (·.name)).Nodup)
    (h : e.queries[i]? = some q) (h' : q' ∈ e.otherReaders i) : q'.name ≠ q.name := by
  obtain ⟨j, hj, hq'⟩ := List.mem_eraseIdx_iff_getElem?.1 (List.mem_filter.1 h').1
  exact name_ne_of_ne distinct h hq' (Ne.symm hj)

/-- The properties once a query has got an answer: the columns of a reader, else as before. -/
def propertiesAfter (e : Entity) (q : Query) : Answer → List Property
  | .ok sig => if q.isReader then sig.columns.map .ofColumn else e.properties
  | .error _ => e.properties

/-- The entity once the query at an index has got an answer, before any recheck. -/
def renewAt (e : Entity) (index : Nat) (q : Query) (a : Answer) : Entity :=
  { e with properties := e.propertiesAfter q a, queries := e.queries.set index (q.renew a) }

theorem eraseIdx_renewAt (e : Entity) (index : Nat) (q : Query) (a : Answer) :
    (e.renewAt index q a).queries.eraseIdx index = e.queries.eraseIdx index := by
  simp [renewAt, List.eraseIdx_set_eq]

@[simp] theorem otherReaders_renewAt (e : Entity) (index : Nat) (q : Query) (a : Answer) :
    (e.renewAt index q a).otherReaders index = e.otherReaders index := by
  simp only [otherReaders, eraseIdx_renewAt]

/-- An answer that has been taken over changes the columns no more. -/
theorem propertiesAfter_renew {e e' : Entity} {q : Query} {a : Answer}
    (h : e'.properties = e.propertiesAfter q a) :
    e'.propertiesAfter (q.renew a) a = e'.properties := by
  cases a with
  | error fault => rfl
  | ok sig =>
    by_cases reader : q.isReader
    · simp [h, propertiesAfter, reader]
    · simp [propertiesAfter, reader]

theorem renewAt_eq_self {e : Entity} {i : Nat} {q : Query} {a : Answer} (h : e.queries[i]? = some q)
    (query : q.renew a = q) (columns : e.propertiesAfter q a = e.properties) :
    e.renewAt i q a = e := by
  rw [renewAt, query, columns, set_of_getElem? h]

/-- A renewed query keeps what an analysis keeps. -/
theorem map_renewAt {β : Type} (g : Query → β) (kept : ∀ q a, g (q.renew a) = g q) {e : Entity}
    {index : Nat} {q : Query} (h : e.queries[index]? = some q) (a : Answer) :
    (e.renewAt index q a).queries.map g = e.queries.map g :=
  map_set_of_eq g h (kept q a)

end Entity

namespace Reconciliation
variable {σ : Type} (analyze : Analyzer σ)

section Recheck
variable (index : Nat) (p : Progress σ)

/-- What the source says about the other readers, asked in order. -/
def recheckAnswers : List Answer := (consult analyze (p.entity.otherReaders index) p.source).1

/-- The verdicts on the other readers, by name. -/
def recheckVerdicts : List (String × Verdict) :=
  (p.entity.otherReaders index).zipWith (fun q a => (q.name, p.entity.verdict a))
    (recheckAnswers analyze index p)

@[simp] theorem length_recheckReaders :
    (recheckReaders analyze index p).entity.queries.length = p.entity.queries.length :=
  length_visit ..

theorem picked_others (qs : List Query) :
    picked (fun i q => i != index && q.isReader) 0 qs =
      (qs.eraseIdx index).filter (·.isReader) := by
  simpa using picked_ne (·.isReader) 0 index qs

/-- The other readers are marked with the verdicts on them. -/
theorem otherReaders_recheckReaders : (recheckReaders analyze index p).entity.otherReaders index =
    (p.entity.otherReaders index).zipWith (fun q a => q.mark (p.entity.verdict a))
      (recheckAnswers analyze index p) := by
  simp only [recheckReaders, visitAll, recheck_eq, Entity.otherReaders, ← picked_others]
  rw [picked_visit_inspect _ _ _ _ (by simp)]
  simp only [recheckAnswers, Entity.otherReaders, picked_others]

/-- The report takes the verdicts in order. -/
theorem report_recheckReaders : (recheckReaders analyze index p).report =
    p.report.recordAll (recheckVerdicts analyze index p) := by
  simp only [recheckReaders, visitAll, recheck_eq, visit_inspect_report, picked_others,
    ChangeReport.recordAll, recheckVerdicts, recheckAnswers, Entity.otherReaders]
  rw [← List.map_uncurry_zip_eq_zipWith, List.foldl_map]
  rfl

/-- A recheck names the other readers. -/
theorem mentions_recheckReaders (name : String) :
    (recheckReaders analyze index p).report.Mentions name ↔
      name ∈ (p.entity.otherReaders index).map (·.name) ∨ p.report.Mentions name := by
  rw [report_recheckReaders, ChangeReport.mentions_recordAll, recheckVerdicts, recheckAnswers,
    map_fst_zipWith_consult]

theorem source_recheckReaders : (recheckReaders analyze index p).source =
    (consult analyze (p.entity.otherReaders index) p.source).2 := by
  simp only [recheckReaders, visitAll, recheck_eq, visit_inspect_source, picked_others,
    Entity.otherReaders]

/-- Position by position, the other readers get a fresh verdict and all else stays. -/
theorem recheckReaders_getElem? {index : Nat} {p : Progress σ} {j : Nat} {q' : Query}
    (h : (recheckReaders analyze index p).entity.queries[j]? = some q') :
    ∃ q, p.entity.queries[j]? = some q ∧
      ((j = index ∨ q.isReader = false) ∧ q' = q ∨
        j ≠ index ∧ q.isReader = true ∧
          ∃ s, q' = q.mark (p.entity.verdict (analyze q.command q.kind s).1)) := by
  obtain ⟨q, hq, ⟨hp, rfl⟩ | ⟨hp, r, s, rfl⟩⟩ := visit_getElem? _ h
  · refine ⟨q', hq, .inl ⟨?_, rfl⟩⟩
    by_cases hj : j = index
    · exact .inl hj
    · exact .inr (by simpa [hj] using hp)
  · simp only [Nat.zero_add, Bool.and_eq_true, bne_iff_ne] at hp
    exact ⟨q, hq, .inr ⟨hp.1, hp.2, s, by rw [recheck_eq]; rfl⟩⟩

/-- The query at the index itself stays. -/
theorem recheckReaders_getElem?_self {index : Nat} {p : Progress σ} {q : Query}
    (h : p.entity.queries[index]? = some q) :
    (recheckReaders analyze index p).entity.queries[index]? = some q := by
  obtain ⟨hi, -⟩ := List.getElem?_eq_some_iff.1 h
  have hi' : index < (recheckReaders analyze index p).entity.queries.length := by simpa using hi
  obtain ⟨q', hq', ⟨-, same⟩ | ⟨other, -⟩⟩ :=
    recheckReaders_getElem? analyze (List.getElem?_eq_getElem hi')
  · rw [List.getElem?_eq_getElem hi', same, ← hq', h]
  · exact absurd rfl other

end Recheck

/-- A refresh up to the recheck of the other readers. -/
def renewed (index : Nat) (q : Query) (p : Progress σ) : Progress σ :=
  let a := (analyze q.command q.kind p.source).1
  let entity := p.entity.renewAt index q a
  ⟨entity, (p.report.record q.name (.ofAnswer a)).noteChange
    (entity.properties != p.entity.properties), (analyze q.command q.kind p.source).2⟩

/-- A refresh renews its query; if that changed the columns, or by request, the other readers
follow. -/
theorem refreshQueryAt_eq {index : Nat} {q : Query} {p : Progress σ} (cascade : Bool)
    (h : p.entity.queries[index]? = some q) : refreshQueryAt analyze index cascade p =
      if (renewed analyze index q p).entity.properties ≠ p.entity.properties ∨ cascade = true
      then recheckReaders analyze index (renewed analyze index q p)
      else renewed analyze index q p := by
  rcases hx : analyze q.command q.kind p.source with ⟨fault | sig, s⟩ <;>
    simp only [refreshQueryAt, h, reanalyze, hx, renewed, Entity.renewAt, Entity.modifyQuery,
      modify_eq_set h, Entity.propertiesAfter, ChangeReport.record, Query.renew, Verdict.ofAnswer]
  · simp
  · by_cases hr : q.isReader
    · by_cases hc : p.entity.properties = sig.columns.map .ofColumn
      · simp [hr, Entity.adoptColumns_eq, modify_eq_set h, ← hc]
      · simp [hr, Entity.adoptColumns_eq, modify_eq_set h, bne_iff_ne.2 hc,
          bne_iff_ne.2 (Ne.symm hc), Ne.symm hc]
    · simp [hr, modify_eq_set h]

section
variable {index : Nat} {q : Query} {p : Progress σ} (cascade : Bool)
  (h : p.entity.queries[index]? = some q)
include h

theorem properties_refreshQueryAt : (refreshQueryAt analyze index cascade p).entity.properties =
    p.entity.propertiesAfter q (analyze q.command q.kind p.source).1 := by
  rw [refreshQueryAt_eq analyze cascade h]
  split <;> rfl

/-- A refresh keeps of each query what an analysis keeps. -/
theorem map_refreshQueryAt {β : Type} (g : Query → β) (marked : ∀ q v, g (q.mark v) = g q)
    (kept : ∀ q a, g (q.renew a) = g q) :
    (refreshQueryAt analyze index cascade p).entity.queries.map g = p.entity.queries.map g := by
  have hrenewed := Entity.map_renewAt g kept h (analyze q.command q.kind p.source).1
  rw [refreshQueryAt_eq analyze cascade h]
  split
  · refine (map_visit _ g (fun q r s => ?_) 0 _ _ _).trans hrenewed
    rw [recheck_eq]
    exact marked q _
  · exact hrenewed

/-- A refresh notes whether it changed the columns. -/
theorem columnsChanged_refreshQueryAt :
    (refreshQueryAt analyze index cascade p).report.columnsChanged =
      (p.report.columnsChanged ||
        (refreshQueryAt analyze index cascade p).entity.properties != p.entity.properties) := by
  have own : (renewed analyze index q p).report.columnsChanged = (p.report.columnsChanged ||
      (renewed analyze index q p).entity.properties != p.entity.properties) := by
    rw [renewed, ChangeReport.columnsChanged_noteChange, ChangeReport.columnsChanged_record]
  rw [refreshQueryAt_eq analyze cascade h]
  split
  · rw [report_recheckReaders, ChangeReport.columnsChanged_recordAll, own]
    rfl
  · exact own

/-- A refresh with a cascade names its query and the other readers. -/
theorem mentions_refreshQueryAt_cascade (name : String) :
    (refreshQueryAt analyze index true p).report.Mentions name ↔
      name ∈ (p.entity.otherReaders index).map (·.name) ∨ name = q.name ∨
        p.report.Mentions name := by
  rw [refreshQueryAt_eq analyze true h, if_pos (.inr rfl), mentions_recheckReaders, renewed,
    Entity.otherReaders_renewAt, ChangeReport.mentions_noteChange, ChangeReport.mentions_record]

end
end Reconciliation
end EntityDesign
