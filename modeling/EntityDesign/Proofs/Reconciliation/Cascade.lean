import Mathlib.Data.List.Forall2
import EntityDesign.Proofs.Reconciliation.Recording

/-! Changed columns reach the other readers. After every operation that changes the columns, the
record ends with one analysis of each other reader, and the report and the flags say what came of
it. Only an addition that gives columns to an entity without any passes over the readers that are
there. -/
namespace EntityDesign

namespace Entity
variable {e : Entity}

/-- If an answer changes the properties, a reader has given its columns. -/
theorem reader_of_propertiesAfter_ne {q : Query} {a : Answer}
    (h : e.propertiesAfter q a ≠ e.properties) : q.isReader = true ∧
      ∃ sig, a = .ok sig ∧ e.propertiesAfter q a = sig.columns.map .ofColumn := by
  cases a with
  | error fault => exact absurd rfl h
  | ok sig =>
    have reader : q.isReader = true := by
      by_contra hr
      exact h (by simp [propertiesAfter, hr])
    exact ⟨reader, sig, rfl, by simp [propertiesAfter, reader]⟩

end Entity

namespace Reconciliation
variable {σ : Type}

/-- What is due to a reader when the columns of the entity change: an analysis of its command, a
place in the report and a flag by the verdict on the answer. -/
structure Audited (e : Entity) (r : ChangeReport) (q : Query) (c : Consultation) : Prop where
  command : c.command = q.command
  kind : c.kind = q.kind
  gives : r.Gives q.name (e.verdict c.answer)
  flagged : q.showError = true ↔ e.verdict c.answer ≠ .ok

/-- The columns of the entity are those a reader at the index was analyzed to have, and the record
ends with an analysis of each other reader that is audited by it. -/
def Cascaded (index : Option Nat) (e : Entity) (r : ChangeReport) (log : List Consultation) :
    Prop :=
  ∃ i own audit, index = some i ∧ log = own ++ audit ∧
    (∃ q sig, e.queries[i]? = some q ∧ q.isReader = true ∧ .of q (.ok sig) ∈ own ∧
      e.properties = sig.columns.map .ofColumn) ∧
    List.Forall₂ (Audited e r) (e.otherReaders i) audit

/-- After a cascade the report names every other reader. -/
theorem Cascaded.mentions {i : Nat} {e : Entity} {r : ChangeReport} {log : List Consultation}
    (h : Cascaded (some i) e r log) {q : Query} (hq : q ∈ e.otherReaders i) :
    r.Mentions q.name := by
  obtain ⟨_, own, audit, hi, -, -, haudit⟩ := h
  cases hi
  obtain ⟨c, -, audited⟩ := exists_beside_left haudit hq
  exact audited.gives.mentions

section
variable (analyze : Analyzer σ) {i : Nat} {q : Query} {p : Progress (σ × List Consultation)}

/-- A recheck audits the other readers. -/
theorem audited_recheckReaders (distinct : (p.entity.queries.map (·.name)).Nodup)
    (fresh : ∀ q ∈ p.entity.otherReaders i, ¬p.report.Mentions q.name) :
    ∃ audit, (recheckReaders (recorded analyze) i p).source.2 = p.source.2 ++ audit ∧
      List.Forall₂ (Audited (recheckReaders (recorded analyze) i p).entity
        (recheckReaders (recorded analyze) i p).report)
        ((recheckReaders (recorded analyze) i p).entity.otherReaders i) audit := by
  refine ⟨(p.entity.otherReaders i).zipWith .of (recheckAnswers (recorded analyze) i p), ?_, ?_⟩
  · rw [source_recheckReaders, consult_recorded, recheckAnswers]
  · have hl : (recheckAnswers (recorded analyze) i p).length = (p.entity.otherReaders i).length :=
      length_consult ..
    have hnames : (recheckVerdicts (recorded analyze) i p).map (·.1) =
        (p.entity.otherReaders i).map (·.name) := map_fst_zipWith_consult ..
    have hgives := ChangeReport.gives_recordAll
      (hnames ▸ Entity.nodup_otherReaders distinct i) (r := p.report) fun v hv => by
        have hv' := List.mem_map_of_mem (f := (·.1)) hv
        rw [hnames] at hv'
        obtain ⟨q, hq, hqv⟩ := List.mem_map.1 hv'
        exact hqv ▸ fresh q hq
    rw [otherReaders_recheckReaders, List.forall₂_iff_get]
    refine ⟨by simp, fun j h₁ h₂ => ?_⟩
    simp only [List.length_zipWith, hl, Nat.min_self] at h₁
    have hmem : ((p.entity.otherReaders i)[j].name,
        p.entity.verdict (recheckAnswers (recorded analyze) i p)[j]) ∈
          recheckVerdicts (recorded analyze) i p :=
      List.mem_iff_getElem.2 ⟨j, by simpa [recheckVerdicts, hl] using h₁, by simp [recheckVerdicts]⟩
    have hg := hgives _ hmem
    rw [← report_recheckReaders] at hg
    have same (a : Answer) : (recheckReaders (recorded analyze) i p).entity.verdict a =
        p.entity.verdict a := Entity.verdict_congr rfl a
    simp only [List.get_eq_getElem, List.getElem_zipWith, Consultation.of]
    refine ⟨by simp, by simp, ?_, ?_⟩
    · rw [same, Query.name_mark]
      exact hg
    · rw [same, Query.showError_mark, decide_eq_true_iff]

/-- A refresh that changes the columns, or is asked to go on, cascades. -/
theorem cascaded_refreshQueryAt {cascade : Bool} (h : p.entity.queries[i]? = some q)
    (distinct : (p.entity.queries.map (·.name)).Nodup)
    (fresh : ∀ q' ∈ p.entity.otherReaders i, ¬p.report.Mentions q'.name)
    (follows : (refreshQueryAt (recorded analyze) i cascade p).entity.properties ≠
      p.entity.properties ∨ cascade = true)
    (reader : q.isReader = true)
    (adopted : ∃ sig, (.of q (.ok sig) ∈ p.source.2 ∨
        (recorded analyze q.command q.kind p.source).1 = .ok sig) ∧
      (refreshQueryAt (recorded analyze) i cascade p).entity.properties =
        sig.columns.map .ofColumn) :
    Cascaded (some i) (refreshQueryAt (recorded analyze) i cascade p).entity
      (refreshQueryAt (recorded analyze) i cascade p).report
      (refreshQueryAt (recorded analyze) i cascade p).source.2 := by
  obtain ⟨hi, -⟩ := List.getElem?_eq_some_iff.1 h
  rw [properties_refreshQueryAt (recorded analyze) cascade h] at follows adopted
  have recheck : refreshQueryAt (recorded analyze) i cascade p =
      recheckReaders (recorded analyze) i (renewed (recorded analyze) i q p) :=
    (refreshQueryAt_eq (recorded analyze) cascade h).trans (if_pos follows)
  rw [recheck]
  have names : (renewed (recorded analyze) i q p).entity.queries.map (·.name) =
      p.entity.queries.map (·.name) := Entity.map_renewAt _ (by simp) h _
  obtain ⟨audit, hlog, haudit⟩ := audited_recheckReaders analyze (i := i)
    (p := renewed (recorded analyze) i q p) (names ▸ distinct) fun q' hq' => by
      simp only [renewed, Entity.otherReaders_renewAt] at hq'
      rw [renewed, ChangeReport.mentions_noteChange, ChangeReport.mentions_record, not_or]
      exact ⟨Entity.name_ne_of_mem_otherReaders distinct h hq', fresh q' hq'⟩
  obtain ⟨sig, hsig, hcolumns⟩ := adopted
  have own : (renewed (recorded analyze) i q p).source.2 =
      p.source.2 ++ [.of q (recorded analyze q.command q.kind p.source).1] := rfl
  refine ⟨i, _, audit, rfl, hlog, ⟨q.renew (recorded analyze q.command q.kind p.source).1, sig,
    ?_, by simpa using reader, ?_, hcolumns⟩, haudit⟩
  · exact recheckReaders_getElem?_self _ (List.getElem?_set_self hi)
  · rw [own]
    simp only [Consultation.of, Query.command_renew, Query.kind_renew, List.mem_append,
      List.mem_singleton]
    exact hsig.imp id fun h => by rw [h]

end

section
variable (analyze : Analyzer σ) {e : Entity} {s : σ}

theorem cascaded_refreshOne {i : Nat} {q : Query} {e' : Entity}
    {p : Progress (σ × List Consultation)}
    (hp : p = refreshQueryAt (recorded analyze) i false ⟨e, blank e', s, []⟩)
    (h : e.queries[i]? = some q) (distinct : (e.queries.map (·.name)).Nodup)
    (changed : p.entity.properties ≠ e.properties) :
    Cascaded (some i) p.entity p.report p.source.2 := by
  have columns := properties_refreshQueryAt (recorded analyze) (p := ⟨e, blank e', s, []⟩) false h
  rw [hp] at changed ⊢
  obtain ⟨reader, sig, answered, adopted⟩ :=
    Entity.reader_of_propertiesAfter_ne (columns ▸ changed)
  refine cascaded_refreshQueryAt analyze h distinct ?_ (.inl changed) reader
    ⟨sig, .inr answered, columns.trans adopted⟩
  intro q' _
  simp [ChangeReport.Mentions, blank]

/-- A full refresh cascades from the first reader. -/
theorem cascaded_swept {i : Nat} {q : Query} {p : Progress (σ × List Consultation)}
    (distinct : (e.queries.map (·.name)).Nodup)
    (h : (renewOthers (recorded analyze) e (s, [])).entity.queries[i]? = some q)
    (hp : p = refreshQueryAt (recorded analyze) i true (renewOthers (recorded analyze) e (s, [])))
    (changed : p.entity.properties ≠ e.properties) :
    Cascaded (some i) p.entity p.report p.source.2 := by
  have names := map_renewOthers (recorded analyze) (·.name) (by simp) e (s, [])
  have columns := properties_refreshQueryAt (recorded analyze) true h
  rw [hp, columns] at changed
  obtain ⟨reader, sig, answered, adopted⟩ := Entity.reader_of_propertiesAfter_ne changed
  rw [hp]
  refine cascaded_refreshQueryAt analyze h (names ▸ distinct) ?_ (.inr rfl) reader
    ⟨sig, .inr answered, columns.trans adopted⟩
  intro q' hq'
  obtain ⟨hmem, hr'⟩ := List.mem_filter.1 hq'
  exact not_mentions_renewOthers (recorded analyze) distinct _ (List.mem_of_mem_eraseIdx hmem) hr'

/-- An addition that gives its columns to an entity without any cascades if there is no other
reader to tell. -/
theorem cascaded_adopted_iff {q : Query} {sig : Signature} {r : ChangeReport}
    {log : List Consultation} (reader : q.isReader = true) (asked : .of q (.ok sig) ∈ log)
    (silent : ∀ other ∈ e.readers, ¬r.Mentions other.name) :
    Cascaded (some e.queries.length)
      (Entity.appended { e with properties := sig.columns.map .ofColumn } q) r log ↔
        ¬e.hasReader = true := by
  have others : (Entity.appended { e with properties := sig.columns.map .ofColumn } q).otherReaders
      e.queries.length = e.readers :=
    Entity.otherReaders_appended { e with properties := sig.columns.map .ofColumn } q
  constructor
  · intro h hreader
    obtain ⟨q', hq', hr⟩ := List.any_eq_true.1 hreader
    have hmem : q' ∈ e.readers := List.mem_filter.2 ⟨hq', hr⟩
    exact silent q' hmem (h.mentions (others ▸ hmem))
  · intro hno
    have hnil : e.readers = [] := by simpa [Entity.hasReader, Entity.readers] using hno
    refine ⟨_, log, [], rfl, (List.append_nil log).symm,
      ⟨q, sig, Entity.getElem?_appended _ q, reader, asked, rfl⟩, ?_⟩
    rw [others, hnil]
    exact .nil

/-- An addition that replaces the columns cascades. -/
theorem cascaded_replaced {q : Query} {sig : Signature} {r : ChangeReport}
    {t : σ × List Consultation} {p : Progress (σ × List Consultation)}
    (distinct : (e.queries.map (·.name)).Nodup) (free : e.queryIndex? q.name = none)
    (reader : q.isReader = true) (asked : .of q (.ok sig) ∈ t.2)
    (silent : ∀ other ∈ e.readers, ¬r.Mentions other.name)
    (hp : p = refreshQueryAt (recorded analyze) e.queries.length true
      ⟨Entity.appended { e with properties := sig.columns.map .ofColumn } q, r, t⟩) :
    Cascaded (some e.queries.length) p.entity p.report p.source.2 := by
  have h := Entity.getElem?_appended { e with properties := sig.columns.map .ofColumn } q
  rw [hp]
  refine cascaded_refreshQueryAt analyze h (nodup_appended distinct free) ?_ (.inr rfl) reader ?_
  · intro other hother
    exact silent other
      (Entity.otherReaders_appended { e with properties := sig.columns.map .ofColumn } q ▸ hother)
  · rw [properties_refreshQueryAt (recorded analyze) true h]
    -- the second analysis may fail; then the columns of the first one stay
    rcases again : (recorded analyze q.command q.kind t).1 with fault | sig'
    · exact ⟨sig, .inl asked, rfl⟩
    · exact ⟨sig', .inr rfl, by simp [Entity.propertiesAfter, reader]⟩

/-- An addition that changes the columns cascades unless it gives them to an entity that has
readers but no columns. -/
theorem cascaded_add_iff {draft : Draft} {decide : Question → Bool}
    (distinct : (e.queries.map (·.name)).Nodup)
    {o : Outcome (σ × List Consultation) (ChangeReport × Option Question)}
    (way : Added (recorded analyze) draft decide e (s, []) o)
    (changed : o.entity.properties ≠ e.properties) :
    ∃ r asked, o.result = .ok (r, asked) ∧
      (Cascaded (some e.queries.length) o.entity r o.source.2 ↔
        ¬(e.properties = [] ∧ e.hasReader = true)) := by
  have hasked {sig : Signature} {t : σ × List Consultation}
      (answered : recorded analyze draft.command draft.kind (s, []) = (.ok sig, t)) :
      .of (draft.query.renew (.ok sig)) (.ok sig) ∈ t.2 := by
    have ht : t.2 = (recorded analyze draft.command draft.kind (s, [])).2.2 := by rw [answered]
    have ha : (analyze draft.command draft.kind s).1 = .ok sig := congrArg Prod.fst answered
    simp [ht, recorded, ha, Consultation.of, Draft.query, Query.named]
  cases way with
  | taken | failed | kept | declined => exact absurd rfl changed
  | adopted free answered reader empty =>
    refine ⟨_, _, rfl, ?_⟩
    simp only [empty, true_and]
    refine cascaded_adopted_iff (by simpa using reader) (hasked answered) fun other hother => ?_
    exact not_mentions_of_free free (by simp [ChangeReport.Mentions, blank]) _ hother
  | replaced free answered reader columns differ agreed refreshed =>
    refine ⟨_, _, rfl, iff_of_true ?_ (by simp [columns])⟩
    refine cascaded_replaced analyze distinct (by simpa using free) (by simpa using reader)
      (hasked answered) (fun other hother => ?_) refreshed
    exact not_mentions_of_free (r := { blank e with columnsChanged := _, mismatches := _ }) free
      (by simp [ChangeReport.Mentions, blank]) _ hother

/-- The position of the query whose columns the entity may take during an operation. -/
def Operation.subject (e : Entity) : Operation → Option Nat
  | add .. => some e.queries.length
  | edit name _ => e.queryIndex? name
  | refresh name => e.queryIndex? name
  | refreshAll => e.queries.findIdx? (·.isReader)
  | delete _ => none

theorem cascaded_perform_iff {op : Operation} (kept : ∀ name, op ≠ .delete name)
    (distinct : (e.queries.map (·.name)).Nodup) {after : Aftermath (σ × List Consultation)}
    (way : Performed (recorded analyze) e (s, []) op after)
    (changed : after.entity.properties ≠ e.properties) :
    ∃ r, after.report = some r ∧
      (Cascaded (op.subject e) after.entity r after.source.2 ↔
        ¬((∃ draft decide, op = .add draft decide) ∧ e.properties = [] ∧ e.hasReader = true)) := by
  cases way with
  | added way =>
    obtain ⟨r, asked, hresult, hiff⟩ := cascaded_add_iff analyze distinct way changed
    refine ⟨r, by simp [hresult, Except.toOption], ?_⟩
    rw [and_iff_right ⟨_, _, rfl⟩]
    exact hiff
  | missing | renewed => exact absurd rfl changed
  | edited found hq =>
    obtain ⟨hi, -⟩ := List.getElem?_eq_some_iff.1 hq
    refine ⟨_, rfl, iff_of_true ?_ (by simp)⟩
    rw [Operation.subject, found]
    exact cascaded_refreshOne analyze rfl (List.getElem?_set_self hi)
      (nodup_redefined distinct hq _) changed
  | refreshed found hq =>
    refine ⟨_, rfl, iff_of_true ?_ (by simp)⟩
    rw [Operation.subject, found]
    exact cascaded_refreshOne analyze rfl hq distinct changed
  | swept first hq =>
    refine ⟨_, rfl, iff_of_true ?_ (by simp)⟩
    rw [Operation.subject, first]
    exact cascaded_swept analyze distinct hq rfl changed
  | deleted => exact absurd rfl (kept _)

end

/-- Whenever an operation other than a deletion changes the columns of an entity whose queries have
distinct names, it reports, and each reader but the one whose columns were taken is analyzed again,
named once in the report and flagged if and only if the analysis failed or does not fit the new
columns. The one exception is an addition to an entity that has readers but no columns. -/
theorem columns_cascade (analyze : Analyzer σ) (op : Operation) (e : Entity) (s : σ)
    (kept : ∀ name, op ≠ .delete name) (distinct : (e.queries.map (·.name)).Nodup)
    (changed : (op.perform analyze e s).entity.properties ≠ e.properties) :
    ∃ r, (op.perform analyze e s).report = some r ∧
      (Cascaded (op.subject e) (op.perform analyze e s).entity r
          (op.perform (recorded analyze) e (s, [])).source.2 ↔
        ¬((∃ draft decide, op = .add draft decide) ∧ e.properties = [] ∧ e.hasReader = true)) := by
  rw [perform_recorded analyze op e (s, [])] at changed ⊢
  exact cascaded_perform_iff analyze kept distinct (performed _ op e (s, [])) changed

/-- Two commands of a sample source with one column each. -/
def loadAndOld : String → CommandKind → Answer :=
  listed [("SELECT A FROM T", [⟨"A", "int", "Int32", false⟩]),
    ("SELECT B FROM T", [⟨"B", "int", "Int32", false⟩])]

/-- A reader that was never analyzed. -/
def old : Query :=
  { name := "Old", command := "SELECT B FROM T", kind := .text, execution := .reader }

/-- An entity that owns it, without columns. -/
def neglected : Entity := { name := "Item", queries := [old] }

/-- An entity that owns it beside the reader that gave the columns. -/
def loaded : Entity :=
  { name := "Item"
    properties := [⟨"A", "int", "Int32"⟩]
    queries := [⟨"Load", "SELECT A FROM T", .text, .reader, [], false, true, false⟩, old] }

/-- Refreshing the reader that was never analyzed changes the columns and cascades. -/
theorem cascaded_refresh_old :
    ∃ r, ((Operation.refresh "Old").perform (unmoved loadAndOld) loaded ()).report = some r ∧
      Cascaded (Operation.subject loaded (.refresh "Old"))
        ((Operation.refresh "Old").perform (unmoved loadAndOld) loaded ()).entity r
        ((Operation.refresh "Old").perform (recorded (unmoved loadAndOld)) loaded
          ((), [])).source.2 := by
  obtain ⟨r, hr, hiff⟩ := columns_cascade (unmoved loadAndOld) (.refresh "Old") loaded () (by simp)
    (by decide) (by decide +kernel)
  exact ⟨r, hr, hiff.2 (by simp)⟩

/-- Adding a reader to the entity without columns gives it columns, and no cascade follows. -/
theorem not_cascaded_add_load :
    (neglected.queries.map (·.name)).Nodup ∧
    (addLoad.perform (unmoved loadAndOld) neglected ()).entity.properties ≠ neglected.properties ∧
    ∃ r, (addLoad.perform (unmoved loadAndOld) neglected ()).report = some r ∧
      ¬Cascaded (addLoad.subject neglected)
        (addLoad.perform (unmoved loadAndOld) neglected ()).entity r
        (addLoad.perform (recorded (unmoved loadAndOld)) neglected ((), [])).source.2 := by
  refine ⟨by decide, by decide +kernel,
    { entity := "Item", columnsChanged := true, ok := ["Load"] }, by decide +kernel, fun h => ?_⟩
  have mentioned := Cascaded.mentions (i := 1) h (q := old) (by decide +kernel)
  simp [ChangeReport.Mentions, old] at mentioned

end Reconciliation
end EntityDesign
