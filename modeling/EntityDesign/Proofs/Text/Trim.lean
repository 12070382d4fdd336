import EntityDesign.Proofs.Text.Run
import EntityDesign.Text.Blank

/-! Trimming: a text is its trimmed form with white space around it, and in one way only. -/
namespace EntityDesign.Text

/-- White space alone, if anything. -/
def AllBlank (s : List Char) : Prop := ∀ c ∈ s, isBlank c = true

/-- Without white space at either end. -/
structure Trimmed (s : List Char) : Prop where
  start : EndsRun isBlank s
  finish : EndsRun isBlank s.reverse

section
variable {a b m s t : List Char}

theorem allBlank_nil : AllBlank [] := List.forall_mem_nil _

theorem AllBlank.reverse (h : AllBlank a) : AllBlank a.reverse :=
  fun c hc => h c (List.mem_reverse.1 hc)

theorem AllBlank.append (ha : AllBlank a) (hb : AllBlank b) : AllBlank (a ++ b) := by
  intro c hc
  rcases List.mem_append.1 hc with hc | hc
  · exact ha c hc
  · exact hb c hc

/-- A visible character is not among white space. -/
theorem AllBlank.notMem (h : AllBlank a) {c : Char} (hc : isBlank c = false) : c ∉ a := by
  intro mem
  rw [h c mem] at hc
  cases hc

theorem trimmed_nil : Trimmed [] where
  start c hc := by cases hc
  finish c hc := by cases hc

/-- White space at the end does not come to the front. -/
theorem trimStart_append (hs : EndsRun isBlank s) (hne : s ≠ []) (b : List Char) :
    trimStart (s ++ b) = s ++ b :=
  dropWhile_run (w := []) (by simp) (hs.append hne b)

theorem trimEnd_append (hb : AllBlank b) (hs : EndsRun isBlank s.reverse) :
    trimEnd (s ++ b) = s := by
  rw [trimEnd, List.reverse_append, dropWhile_run hb.reverse hs, List.reverse_reverse]

/-- The trimmed form is what stands between the white space at the ends. -/
theorem trim_between (ha : AllBlank a) (hm : Trimmed m) (hb : AllBlank b) :
    trim (a ++ m ++ b) = m := by
  rw [trim, trimStart, List.append_assoc, List.dropWhile_append_of_pos ha]
  by_cases hne : m = []
  · subst hne
    have blank : b.dropWhile isBlank = [] := List.dropWhile_eq_nil_iff.2 hb
    rw [List.nil_append, blank]
    rfl
  · rw [← trimStart, trimStart_append hm.start hne b]
    exact trimEnd_append hb hm.finish

/-- Every text is a trimmed one with white space around it. -/
theorem exists_between (s : List Char) :
    ∃ a m b, s = a ++ m ++ b ∧ AllBlank a ∧ Trimmed m ∧ AllBlank b := by
  obtain ⟨a, r, rfl, ha, hr⟩ := exists_run isBlank s
  obtain ⟨b, m, hrev, hb, hm⟩ := exists_run isBlank r.reverse
  have split : r = m.reverse ++ b.reverse := by
    rw [← List.reverse_append, ← hrev, List.reverse_reverse]
  refine ⟨a, m.reverse, b.reverse, by rw [split, List.append_assoc], ha, ⟨?_, by simpa using hm⟩,
    AllBlank.reverse hb⟩
  by_cases hne : m = []
  · subst hne
    exact trimmed_nil.start
  · obtain ⟨c, w, hw⟩ := List.exists_cons_of_ne_nil (by simpa using hne : m.reverse ≠ [])
    rw [split, hw, List.cons_append, endsRun_cons] at hr
    rw [hw]
    exact endsRun_cons.2 hr

theorem trim_eq_iff :
    trim s = m ↔ Trimmed m ∧ ∃ a b, s = a ++ m ++ b ∧ AllBlank a ∧ AllBlank b := by
  constructor
  · rintro rfl
    obtain ⟨a, m, b, rfl, ha, hm, hb⟩ := exists_between s
    rw [trim_between ha hm hb]
    exact ⟨hm, a, b, rfl, ha, hb⟩
  · rintro ⟨hm, a, b, rfl, ha, hb⟩
    exact trim_between ha hm hb

theorem trimmed_trim (s : List Char) : Trimmed (trim s) := (trim_eq_iff.1 rfl).1

theorem trim_of_trimmed (h : Trimmed s) : trim s = s :=
  trim_eq_iff.2 ⟨h, [], [], by simp, allBlank_nil, allBlank_nil⟩

theorem trim_isInfix (s : List Char) : trim s <:+: s := by
  obtain ⟨-, a, b, h, -, -⟩ := trim_eq_iff.1 (rfl : trim s = trim s)
  exact ⟨a, b, h.symm⟩

/-- White space around a text does not matter to its trimmed form. -/
theorem trim_pad (ha : AllBlank a) (hb : AllBlank b) (s : List Char) :
    trim (a ++ s ++ b) = trim s := by
  obtain ⟨hm, a', b', h, ha', hb'⟩ := trim_eq_iff.1 (rfl : trim s = trim s)
  refine trim_eq_iff.2 ⟨hm, a ++ a', b' ++ b, ?_, ha.append ha', hb'.append hb⟩
  calc
    a ++ s ++ b = a ++ (a' ++ trim s ++ b') ++ b := congrArg (a ++ · ++ b) h
    _ = a ++ a' ++ trim s ++ (b' ++ b) := by simp only [List.append_assoc]

theorem trim_blank_append (ha : AllBlank a) (s : List Char) : trim (a ++ s) = trim s := by
  simpa using trim_pad ha allBlank_nil s

theorem trim_append_blank (hb : AllBlank b) (s : List Char) : trim (s ++ b) = trim s := by
  simpa using trim_pad allBlank_nil hb s

end

/-- The same text up to the case of ASCII letters. -/
def SameLetters (s t : List Char) : Prop := s.map Char.toLower = t.map Char.toLower

end EntityDesign.Text
