import EntityDesign.Proofs.Reconciliation.Session

/-! Readers that are not flagged fit. Over a source that answers by command alone, every way in
which the columns change restores the fit but one: when an entity without columns adopts those of a
new reader, the readers that are there already are not looked at again. -/
namespace EntityDesign.Reconciliation
variable {σ : Type}

/-- If the query is a reader and not flagged, it has an answer whose columns go with the
properties. -/
def Trusted (answer : String → CommandKind → Answer)
    (accepts : List Property → List Column → Prop) (ps : List Property) (q : Query) : Prop :=
  q.isReader = true → q.showError = false →
    ∃ sig, answer q.command q.kind = .ok sig ∧ accepts ps sig.columns

def Sound (answer : String → CommandKind → Answer) (accepts : List Property → List Column → Prop)
    (e : Entity) : Prop :=
  ∀ q ∈ e.queries, Trusted answer accepts e.properties q

section
variable {analyze : Analyzer σ} {answer : String → CommandKind → Answer}
  {accepts : List Property → List Column → Prop} (steady : Steady analyze answer)
  (lenient : ∀ ps cs, Mismatch.all ps cs = [] → accepts ps cs)

theorem sound_iff_getElem? {e : Entity} : Sound answer accepts e ↔
    ∀ (j : Nat) q, e.queries[j]? = some q → Trusted answer accepts e.properties q := by
  constructor
  · exact fun h j q hq => h q (List.mem_of_getElem? hq)
  · intro h q hq
    obtain ⟨j, hj⟩ := List.mem_iff_getElem?.1 hq
    exact h j q hj

theorem trusted_of_not_reader {ps : List Property} {q : Query} (h : q.isReader = false) :
    Trusted answer accepts ps q := by
  intro hr
  simp [h] at hr

theorem trusted_flag (ps : List Property) (q : Query) : Trusted answer accepts ps q.flag := by
  intro _ hf
  simp [Query.flag] at hf

include lenient in
/-- A query is trusted after the verdict on its own answer. -/
theorem trusted_mark (e : Entity) (q : Query) :
    Trusted answer accepts e.properties (q.mark (e.verdict (answer q.command q.kind))) := by
  intro _ hf
  rw [Query.showError_mark, decide_eq_false_iff_not, not_not, Entity.verdict_eq_ok_iff] at hf
  obtain ⟨sig, ha, hm⟩ := hf
  exact ⟨sig, by simpa using ha, lenient _ _ hm⟩

include lenient in
/-- A query is trusted after its own analysis, which made the properties describe its columns. -/
theorem trusted_renew (e : Entity) (q : Query) :
    Trusted answer accepts (e.propertiesAfter q (answer q.command q.kind))
      (q.renew (answer q.command q.kind)) := by
  intro hr hf
  rw [Query.isReader_renew] at hr
  obtain ⟨sig, ha⟩ := (Query.showError_renew q _).1 hf
  refine ⟨sig, by simpa using ha, ?_⟩
  rw [ha]
  simpa [Entity.propertiesAfter, hr] using lenient _ _ (Mismatch.all_map_ofColumn sig.columns)

include steady lenient in
/-- A recheck makes every reader but the skipped one trusted. -/
theorem sound_recheckReaders {index : Nat} {p : Progress σ}
    (own : ∀ q, p.entity.queries[index]? = some q → Trusted answer accepts p.entity.properties q) :
    Sound answer accepts (recheckReaders analyze index p).entity := by
  rw [sound_iff_getElem?]
  intro j q' hq'
  obtain ⟨q, hq, ⟨hj | hr, rfl⟩ | ⟨-, -, s, rfl⟩⟩ := recheckReaders_getElem? analyze hq'
  · exact own q' (hj ▸ hq)
  · exact trusted_of_not_reader hr
  · rw [steady]
    exact trusted_mark lenient p.entity q

include steady lenient in
/-- A refresh makes an entity sound if the other queries are trusted or a cascade is asked for. -/
theorem sound_refreshQueryAt {index : Nat} {q : Query} {p : Progress σ} {cascade : Bool}
    (h : p.entity.queries[index]? = some q)
    (others : cascade = true ∨ ∀ j, j ≠ index → ∀ q, p.entity.queries[j]? = some q →
      Trusted answer accepts p.entity.properties q) :
    Sound answer accepts (refreshQueryAt analyze index cascade p).entity := by
  have hi : index < p.entity.queries.length := (List.getElem?_eq_some_iff.1 h).1
  have own : ∀ q', (renewed analyze index q p).entity.queries[index]? = some q' →
      Trusted answer accepts (renewed analyze index q p).entity.properties q' := by
    intro q' hq'
    simp only [renewed, Entity.renewAt, List.getElem?_set_self hi, Option.some.injEq] at hq'
    rw [← hq']
    simp only [renewed, Entity.renewAt, steady q.command q.kind p.source]
    exact trusted_renew lenient p.entity q
  rw [refreshQueryAt_eq analyze cascade h]
  split
  · exact sound_recheckReaders steady lenient own
  · rename_i hc
    obtain ⟨hp, hcascade⟩ := not_or.1 hc
    rw [sound_iff_getElem?]
    intro j q' hq'
    by_cases hj : j = index
    · exact own q' (hj ▸ hq')
    · rw [not_not.1 hp]
      refine (others.resolve_left hcascade) j hj q' ?_
      simpa [renewed, Entity.renewAt, List.getElem?_set_ne (Ne.symm hj)] using hq'

theorem sound_appended {e : Entity} {q : Query} (sound : Sound answer accepts e)
    (new : Trusted answer accepts e.properties q) : Sound answer accepts (e.appended q) := by
  intro q' hq'
  rcases List.mem_append.1 hq' with hq' | hq'
  · exact sound q' hq'
  · rw [List.mem_singleton.1 hq']
    exact new

/-- What an addition must not spoil: the readers of an entity without columns, when it takes those
of a new reader. -/
def Adoptable (answer : String → CommandKind → Answer)
    (accepts : List Property → List Column → Prop) (draft : Draft) (e : Entity) : Prop :=
  ∀ sig, answer draft.command draft.kind = .ok sig → draft.execution = .reader →
    e.properties = [] → e.queryIndex? draft.query.name = none →
    ∀ q ∈ e.queries, Trusted answer accepts (sig.columns.map .ofColumn) q

include steady lenient in
theorem sound_added {draft : Draft} {decide : Question → Bool} {e : Entity} {s : σ}
    {o : Outcome σ (ChangeReport × Option Question)} (way : Added analyze draft decide e s o)
    (sound : Sound answer accepts e) (adoptable : Adoptable answer accepts draft e) :
    Sound answer accepts o.entity := by
  have hown {sig : Signature} {t : σ} (h : analyze draft.command draft.kind s = (.ok sig, t)) :
      answer draft.query.command draft.query.kind = .ok sig := by
    rw [← steady _ _ s, show draft.query.command = draft.command from rfl,
      show draft.query.kind = draft.kind from rfl, h]
  cases way with
  | taken => exact sound
  | failed free answered => exact sound_appended sound (trusted_flag _ _)
  | @kept sig t free answered fits =>
    refine sound_appended sound fun hr _ => ⟨sig, ?_, ?_⟩
    · simpa using hown answered
    · rw [Query.isReader_renew] at hr
      exact lenient _ _ (fits hr).2
  | @adopted sig t free answered reader empty =>
    have execution : draft.execution = .reader := by
      simpa [Query.isReader, Draft.query, Query.named] using reader
    refine sound_appended (adoptable sig (hown answered) execution empty free) fun _ _ => ?_
    exact ⟨sig, by simpa using hown answered, lenient _ _ (Mismatch.all_map_ofColumn sig.columns)⟩
  | replaced free answered reader columns differ agreed refreshed =>
    rw [refreshed]
    exact sound_refreshQueryAt steady lenient (Entity.getElem?_appended _ _) (.inl rfl)
  | declined => exact sound

include steady lenient in
/-- Every operation keeps an entity sound, an addition if it is adoptable. -/
theorem sound_perform {op : Operation} {e : Entity} {s : σ} (sound : Sound answer accepts e)
    (adoptable : ∀ draft decide, op = .add draft decide → Adoptable answer accepts draft e) :
    Sound answer accepts (op.perform analyze e s).entity := by
  have way := performed analyze op e s
  generalize op.perform analyze e s = after at way ⊢
  cases way with
  | added way => exact sound_added steady lenient way sound (adoptable _ _ rfl)
  | missing => exact sound
  | edited found hq =>
    obtain ⟨hi, -⟩ := List.getElem?_eq_some_iff.1 hq
    refine sound_refreshQueryAt steady lenient (List.getElem?_set_self hi) (.inr ?_)
    intro j hj q' hq'
    simp only [Entity.redefined, List.getElem?_set_ne (Ne.symm hj)] at hq'
    exact sound q' (List.mem_of_getElem? hq')
  | refreshed found hq =>
    refine sound_refreshQueryAt steady lenient hq (.inr ?_)
    intro j _ q' hq'
    exact sound q' (List.mem_of_getElem? hq')
  | swept first hq => exact sound_refreshQueryAt steady lenient hq (.inl rfl)
  | renewed readerless =>
    rw [List.findIdx?_eq_none_iff] at readerless
    intro q hq
    have hr : q.isReader ∈ e.queries.map (·.isReader) :=
      map_renewOthers analyze (·.isReader) (by simp) e s ▸ List.mem_map_of_mem hq
    obtain ⟨q₀, hq₀, hr₀⟩ := List.mem_map.1 hr
    exact trusted_of_not_reader (hr₀.symm.trans (readerless q₀ hq₀))
  | deleted found hq =>
    simp only [Entity.dropOrphanedColumns]
    split
    · exact fun q' hq' => sound q' (List.mem_of_mem_eraseIdx hq')
    · rename_i none_left
      intro q' hq'
      simp only [Entity.hasReader, List.any_eq_true, not_exists, not_and] at none_left
      exact trusted_of_not_reader (by simpa using none_left q' hq')

end

/-- Whether every reader that is not flagged can be analyzed and fits the columns. -/
def Fits (answer : String → CommandKind → Answer) (e : Entity) : Prop :=
  ∀ q ∈ e.queries, q.isReader = true → q.showError = false →
    ∃ sig, answer q.command q.kind = .ok sig ∧ e.mismatches sig false = []

/-- An addition that gives its columns to an entity without any, although readers that are not
flagged are there. -/
def Overlooks (answer : String → CommandKind → Answer) (e : Entity) : Operation → Prop
  | .add draft _ =>
    draft.execution = .reader ∧ e.properties = [] ∧ e.queryIndex? draft.query.name = none ∧
      (∃ sig, answer draft.command draft.kind = .ok sig ∧ sig.columns ≠ []) ∧
      ∃ q ∈ e.queries, q.isReader = true ∧ q.showError = false
  | _ => False

section
variable {analyze : Analyzer σ} {answer : String → CommandKind → Answer}
  (steady : Steady analyze answer)
include steady

/-- Adopting the columns of a new reader spoils the fit of the unflagged readers. -/
theorem not_fits_of_overlooks {op : Operation} {e : Entity} {s : σ} (fits : Fits answer e)
    (h : Overlooks answer e op) : ¬Fits answer (op.perform analyze e s).entity := by
  cases op with
  | add draft decide =>
    obtain ⟨execution, empty, free, ⟨sig, ha, hc⟩, q, hq, hr, hf⟩ := h
    have answered : analyze draft.command draft.kind s =
        (.ok sig, (analyze draft.command draft.kind s).2) := Prod.ext ((steady _ _ s).trans ha) rfl
    have reader : draft.query.isReader = true := by
      simp [Query.isReader, Draft.query, Query.named, execution]
    -- a reader that fits no columns has none, so it cannot fit the adopted ones
    obtain ⟨sig₀, ha₀, hm⟩ := fits q hq hr hf
    have hnil : sig₀.columns = [] := by
      rwa [Entity.mismatches_false, empty, Mismatch.all_nil_left_eq_nil_iff] at hm
    intro fitsAfter
    simp only [Operation.perform, add_of_empty analyze free answered reader empty] at fitsAfter
    obtain ⟨sig₁, ha₁, hm₁⟩ := fitsAfter q (List.mem_append_left _ hq) hr hf
    cases ha₀.symm.trans ha₁
    rw [Entity.mismatches_false, hnil, Mismatch.all_nil_right_eq_nil_iff] at hm₁
    exact hc (List.map_eq_nil_iff.1 hm₁)
  | edit | refresh | refreshAll | delete => exact h.elim

/-- An operation keeps the fit if and only if it overlooks no reader. -/
theorem fits_perform_iff {op : Operation} {e : Entity} {s : σ} (fits : Fits answer e) :
    Fits answer (op.perform analyze e s).entity ↔ ¬Overlooks answer e op := by
  refine ⟨fun after h => not_fits_of_overlooks steady fits h after, fun h => ?_⟩
  have sound : Sound answer (fun ps cs => Mismatch.all ps cs = []) e := fits
  refine sound_perform steady (fun _ _ => id) sound
    fun draft decide hop sig ha execution empty free q hq hr hf => ?_
  obtain ⟨sig₀, ha₀, hm⟩ := fits q hq hr hf
  have hnil : sig.columns = [] := by
    by_contra hc
    rw [hop] at h
    exact h ⟨execution, empty, free, ⟨sig, ha, hc⟩, q, hq, hr, hf⟩
  rw [Entity.mismatches_false, empty, ← List.map_nil (f := Property.ofColumn), ← hnil] at hm
  exact ⟨sig₀, ha₀, hm⟩

/-- Whatever is done, a reader that is not flagged can be analyzed, and it fits unless its result
has no columns. -/
theorem sound_run (e : Entity) (s : σ) (start : e.queries = []) (ops : List Operation) :
    Sound answer (fun ps cs => Mismatch.all ps cs = [] ∨ cs = []) (run analyze ops e s).1 := by
  refine run_invariant analyze e s (fun e s op sound => ?_) (by simp [Sound, start]) ops
  refine sound_perform steady (fun _ _ => .inl) sound ?_
  intro draft decide _ sig _ _ empty _ q hq hr hf
  obtain ⟨sig₀, ha₀, hm⟩ := sound q hq hr hf
  rw [empty, Mismatch.all_nil_left_eq_nil_iff, or_self] at hm
  exact ⟨sig₀, ha₀, .inr hm⟩

/-- In a session that starts without queries, every reader that is not flagged can be
analyzed, and it fits unless its result has no columns. So the reached entity fits exactly when it
has no columns or no such reader, and the entity fits all along exactly when no addition gives
columns to an entity without any that has unflagged readers. -/
theorem session_fits (e : Entity) (s : σ) (queries : e.queries = []) (ops : List Operation) :
    let reached := (run analyze ops e s).1
    (∀ q ∈ reached.queries, q.isReader = true → q.showError = false →
      ∃ sig, answer q.command q.kind = .ok sig ∧
        (reached.mismatches sig false = [] ∨ sig.columns = [])) ∧
    (Fits answer reached ↔ reached.properties = [] ∨
      ∀ q ∈ reached.queries, q.isReader = true → q.showError = false →
        ∀ sig, answer q.command q.kind = .ok sig → sig.columns ≠ []) ∧
    ((∀ before, before <+: ops → Fits answer (run analyze before e s).1) ↔
      ∀ before op, before ++ [op] <+: ops → ¬Overlooks answer (run analyze before e s).1 op) := by
  intro reached
  have sound := sound_run steady e s queries ops
  refine ⟨sound, ⟨fun fits => ?_, fun h q hq hr hf => ?_⟩, ?_⟩
  · by_contra hn
    obtain ⟨hp, q, hq, hr, hf, sig, ha, hc⟩ :
        reached.properties ≠ [] ∧ ∃ q ∈ reached.queries, q.isReader = true ∧ q.showError = false ∧
          ∃ sig, answer q.command q.kind = .ok sig ∧ sig.columns = [] := by
      simpa [not_or] using hn
    obtain ⟨sig₁, ha₁, hm⟩ := fits q hq hr hf
    cases ha.symm.trans ha₁
    rw [Entity.mismatches_false, hc, Mismatch.all_nil_right_eq_nil_iff] at hm
    exact hp hm
  · obtain ⟨sig, ha, hm⟩ := sound q hq hr hf
    refine ⟨sig, ha, hm.elim id fun hc => ?_⟩
    rcases h with hp | h
    · rw [Entity.mismatches_false, hp, hc]
      rfl
    · exact absurd hc (h q hq hr hf sig ha)
  · exact run_invariant_iff analyze e s (fun e s op fits => fits_perform_iff steady fits)
      (by simp [Fits, queries]) ops

end

/-- If the reader without a result comes second, its columns replace the others and all fit. -/
theorem fits_load_purge : Fits purgeAndLoad
    (run (unmoved purgeAndLoad) [addLoad, addPurge] (Entity.named "Item") ()).1 :=
  (session_fits (steady_unmoved purgeAndLoad) (Entity.named "Item") () rfl
    [addLoad, addPurge]).2.1.2 (.inl (by decide +kernel))

/-- If it comes first, the columns of the second reader are adopted over its head. -/
theorem not_fits_purge_load : Steady (unmoved purgeAndLoad) purgeAndLoad ∧ ¬Fits purgeAndLoad
    (run (unmoved purgeAndLoad) [addPurge, addLoad] (Entity.named "Item") ()).1 := by
  refine ⟨steady_unmoved purgeAndLoad, fun fits => ?_⟩
  obtain ⟨sig, ha, hm⟩ := fits ⟨"Purge", "DELETE FROM T", .text, .reader, [], false, true, false⟩
    (by decide +kernel) rfl rfl
  have hsig : sig = {} := by
    have h : purgeAndLoad "DELETE FROM T" .text = .ok {} := by decide +kernel
    exact (Except.ok.inj (h.symm.trans ha)).symm
  rw [hsig] at hm
  exact absurd hm (by decide +kernel)

end EntityDesign.Reconciliation
