import Mathlib.Data.List.TakeWhile

/-! Runs of characters of one class. Readers take whole runs at once, so what is proved of a text by
reading it goes along its runs. -/
namespace EntityDesign.Text
variable {p : Char → Bool} {w s : List Char}

/-- Whether a run of a class of characters ends in front of this text. -/
def EndsRun (p : Char → Bool) (s : List Char) : Prop := ∀ c, s.head? = some c → p c = false

theorem endsRun_cons {c : Char} : EndsRun p (c :: s) ↔ p c = false := by simp [EndsRun]

theorem endsRun_append (hne : w ≠ []) (hw : ∀ c ∈ w, p c = false) (s : List Char) :
    EndsRun p (w ++ s) := by
  obtain ⟨c, w, rfl⟩ := List.exists_cons_of_ne_nil hne
  exact endsRun_cons.2 (hw c List.mem_cons_self)

theorem EndsRun.append (h : EndsRun p s) (hne : s ≠ []) (t : List Char) : EndsRun p (s ++ t) := by
  obtain ⟨c, s, rfl⟩ := List.exists_cons_of_ne_nil hne
  exact endsRun_cons.2 (endsRun_cons.1 h)

theorem takeWhile_run (hw : ∀ c ∈ w, p c = true) (hs : EndsRun p s) :
    (w ++ s).takeWhile p = w := by
  rw [List.takeWhile_append_of_pos hw]
  cases s with
  | nil => simp
  | cons c s => simp [endsRun_cons.1 hs]

theorem dropWhile_run (hw : ∀ c ∈ w, p c = true) (hs : EndsRun p s) :
    (w ++ s).dropWhile p = s := by
  rw [List.dropWhile_append_of_pos hw]
  cases s with
  | nil => rfl
  | cons c s => simp [endsRun_cons.1 hs]

/-- Every text is a run in front of a text where the run ends. -/
theorem exists_run (p : Char → Bool) (s : List Char) :
    ∃ w r, s = w ++ r ∧ (∀ c ∈ w, p c = true) ∧ EndsRun p r := by
  refine ⟨s.takeWhile p, s.dropWhile p, List.takeWhile_append_dropWhile.symm,
    fun c hc => List.mem_takeWhile_imp hc, fun c hc => ?_⟩
  have hhead := List.head?_dropWhile_not p s
  simpa [hc] using hhead

/-- The text begins with a run of a class of characters that is as long as it can be. -/
structure LongestRun (p : Char → Bool) (s run rest : List Char) : Prop where
  text : s = run ++ rest
  chars : ∀ c ∈ run, p c = true
  ends : EndsRun p rest

theorem longestRun_iff {run rest : List Char} :
    LongestRun p s run rest ↔ s.takeWhile p = run ∧ s.dropWhile p = rest := by
  constructor
  · rintro ⟨rfl, chars, ends⟩
    exact ⟨takeWhile_run chars ends, dropWhile_run chars ends⟩
  · rintro ⟨rfl, rfl⟩
    obtain ⟨w, r, hs, chars, ends⟩ := exists_run p s
    rw [hs, takeWhile_run chars ends, dropWhile_run chars ends]
    exact ⟨rfl, chars, ends⟩

/-- Induction along the runs of a class of characters. -/
@[elab_as_elim]
theorem run_induction (p : Char → Bool) {motive : List Char → Prop} (nil : motive [])
    (char : ∀ c s, p c = false → motive s → motive (c :: s))
    (run : ∀ w s, w ≠ [] → (∀ c ∈ w, p c = true) → EndsRun p s → motive s → motive (w ++ s))
    (s : List Char) : motive s := by
  match s with
  | [] => exact nil
  | c :: cs =>
    by_cases hc : p c = true
    · obtain ⟨w, r, h, hw, hr⟩ := exists_run p cs
      have hlen : r.length ≤ cs.length := by simp [h]
      rw [h]
      refine run (c :: w) r (by simp) (List.forall_mem_cons.2 ⟨hc, hw⟩) hr ?_
      exact run_induction p nil char run r
    · exact char c cs (by simpa using hc) (run_induction p nil char run cs)
termination_by s.length

end EntityDesign.Text
