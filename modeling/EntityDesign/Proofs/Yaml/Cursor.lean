import EntityDesign.Proofs.Yaml.Character

/-! How a cursor moves over written text: across the white space in front of visible text, to the
beginning of the next line, and behind the colon of a key. -/
namespace EntityDesign.Yaml
open Scalar Text

/-- Text that begins neither with white space nor with a comment. -/
def Visible (s : List Char) : Prop := EndsRun isWhite s ∧ s.head? ≠ some '#'

theorem visible_nil : Visible [] := ⟨by simp [EndsRun], by simp⟩

theorem visible_cons {c : Char} {s : List Char} :
    Visible (c :: s) ↔ isWhite c = false ∧ c ≠ '#' := by
  simp [Visible, endsRun_cons]

namespace Cursor
variable {flow fresh : Bool} {column m : Nat} {c start : Cursor} {s t u : List Char}

section Gap

theorem skipWhite_visible (h : Visible u) :
    skipWhite flow false column fresh u = ⟨column, fresh, u⟩ := by
  cases u with
  | nil => rfl
  | cons d u =>
    obtain ⟨white, comment⟩ := visible_cons.1 h
    simp only [isWhite, isBlank, Bool.or_eq_false_iff, beq_eq_false_iff_ne] at white
    simp [skipWhite, white, comment]

theorem skipGap_visible (h : Visible c.rest) : c.skipGap flow = c := skipWhite_visible h

theorem length_skipWhite_le (comment : Bool) (s : List Char) :
    (skipWhite flow comment column fresh s).rest.length ≤ s.length := by
  induction s generalizing comment column fresh with
  | nil => simp [skipWhite]
  | cons d s ih =>
    rw [skipWhite]
    split_ifs
    · exact (ih _).trans (Nat.le_succ _)
    · exact (ih _).trans (Nat.le_succ _)
    · exact (ih _).trans (Nat.le_succ _)
    · exact le_rfl

theorem length_skipGap_le (c : Cursor) : (c.skipGap flow).rest.length ≤ c.rest.length :=
  length_skipWhite_le false c.rest

theorem skipWhite_spaces (n : Nat) (s : List Char) :
    skipWhite false false column fresh (spaces n ++ s) =
      skipWhite false false (column + n) fresh s := by
  induction n generalizing column with
  | zero => rfl
  | succ n ih =>
    have hspace : skipWhite false false column fresh (' ' :: (spaces n ++ s)) =
        skipWhite false false (column + 1) fresh (spaces n ++ s) := by
      simp [skipWhite, isBreak]
    rw [spaces_succ, List.cons_append, hspace, ih, Nat.add_assoc, Nat.add_comm 1]

theorem skipWhite_lineFeed (s : List Char) :
    skipWhite false false column fresh ('\n' :: s) = skipWhite false false 0 true s := by
  simp [skipWhite, isBreak]

theorem skipGap_space (hc : c.rest = ' ' :: u) (visible : Visible u) :
    c.skipGap false = ⟨c.column + 1, c.fresh, u⟩ := by
  have hspaces : skipWhite false false c.column c.fresh (' ' :: u) = _ := skipWhite_spaces 1 u
  rw [skipGap, hc]
  exact hspaces.trans (skipWhite_visible visible)

/-- The cursor stands at the beginning of a text on lines of its own, or in the white space in front
of it. -/
def Faces (c : Cursor) (s : List Char) : Prop := c.skipGap false = skipWhite false false 0 true s

theorem faces_iff (visible : Visible u) :
    c.Faces (spaces m ++ u) ↔ c.skipGap false = ⟨m, true, u⟩ := by
  rw [Faces, skipWhite_spaces, skipWhite_visible visible, Nat.zero_add]

theorem length_le_of_faces (visible : Visible u) (h : c.Faces (spaces m ++ u)) :
    (c.skipGap false).rest.length ≤ (spaces m ++ u).length := by
  simp [(faces_iff visible).1 h]

theorem faces_mk (visible : Visible u) (m : Nat) : Faces ⟨m, true, u⟩ (spaces m ++ u) :=
  (faces_iff visible).2 (skipWhite_visible visible)

theorem faces_lineFeed (hc : c.rest = '\n' :: s) : c.Faces s := by
  rw [Faces, skipGap, hc, skipWhite_lineFeed]

end Gap

section Move

theorem passed_append (hc : c.rest = t ++ u) : c.passed u = t := by simp [passed, hc]

/-- A move within a line. -/
theorem moveTo_inLine (hc : c.rest = t ++ u) (inLine : ∀ d ∈ t, isBreak d = false) :
    c.moveTo u = ⟨c.column + t.length, false, u⟩ := by
  have hfresh : (t.reverse.takeWhile isWhite).any isBreak = false :=
    List.any_eq_false.2 fun d hd => by
      simp [inLine d (List.mem_reverse.1 (List.takeWhile_subset _ hd))]
  have hany : t.any isBreak = false := List.any_eq_false.2 (by simpa using inLine)
  simp [moveTo, passed_append hc, hany, hfresh]

/-- A move to the text on a further line. -/
theorem moveTo_break {b : Char} (hb : isBreak b = true) (hc : c.rest = t ++ b :: (spaces m ++ u)) :
    c.moveTo u = ⟨m, true, u⟩ := by
  have hpassed : c.passed u = t ++ b :: spaces m := passed_append (by simp [hc])
  have hwhite : ∀ d ∈ (spaces m).reverse, isWhite d = true := by
    simpa using fun d hd => isWhite_of_mem_spaces d hd
  have hfresh : ((t ++ b :: spaces m).reverse.takeWhile isWhite).any isBreak = true := by
    rw [List.reverse_append, List.reverse_cons, List.append_assoc, List.singleton_append,
      List.takeWhile_append_of_pos hwhite]
    simp [isWhite_of_isBreak hb, hb]
  simp only [moveTo, hpassed, hfresh, lastLine_break hb, length_spaces]
  simp [hb]

end Move

section Key

/-- A scalar on one line that is followed by a colon and white space is a key. -/
theorem afterColon?_key (hs : start.rest = t ++ ':' :: s) (hc : c.rest = ':' :: s)
    (inLine : ∀ d ∈ t, isBreak d = false) (short : t.length ≤ 1024) (blank : blankNext s = true) :
    c.afterColon? false start = some ⟨c.column + 1, false, s⟩ := by
  have hany : t.any isBreak = false := List.any_eq_false.2 (by simpa using inLine)
  have hmove := moveTo_inLine (t := [':']) hc (by simp [isBreak])
  simp only [afterColon?, hc]
  simp [passed_append hs, hany, short, blank, hmove, isBlank]

/-- What ends with its line is no key. -/
theorem afterColon?_lineEnd (hc : c.rest = '\n' :: s) : c.afterColon? false start = none := by
  simp [afterColon?, hc, isBlank]

/-- What goes on to a further line is no key. -/
theorem afterColon?_further (hs : start.rest = t ++ c.rest) (visible : EndsRun isWhite c.rest)
    (further : t.any isBreak = true) : c.afterColon? false start = none := by
  have hdrop : c.rest.dropWhile isBlank = c.rest := by
    have hend : EndsRun isBlank c.rest := fun d hd => by
      have := visible d hd
      simp_all [isWhite]
    exact dropWhile_run (w := []) (by simp) hend
  rw [afterColon?, hdrop]
  split
  · rename_i v hv
    rw [hv] at hs
    simp [passed_append hs, further]
  · rfl

end Key
end Cursor
end EntityDesign.Yaml
