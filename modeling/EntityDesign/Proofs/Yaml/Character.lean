import EntityDesign.Proofs.Text.Run
import EntityDesign.Yaml.Cursor
import EntityDesign.Yaml.Scalar

/-! Classes of characters: white space, line breaks, and what can be printed. The readers of scalars
take whole runs of white space at once. -/
namespace EntityDesign.Yaml
open Text (EndsRun endsRun_cons takeWhile_run)

section Classes
variable {c : Char}

theorem isWhite_of_isBreak (h : isBreak c = true) : isWhite c = true := by simp [isWhite, h]

theorem inLine_of_visible (h : isWhite c = false) : isBreak c = false := by simp_all [isWhite]

theorem endsRun_isBreak {s : List Char} (h : EndsRun isWhite s) : EndsRun isBreak s :=
  fun c hc => inLine_of_visible (h c hc)

/-- A printable character is legal, and no tab and no ordinary line break but the line feed. -/
theorem isPrintable_iff :
    isPrintable c = true ↔
      isChar c = true ∧ c ≠ '\t' ∧ c ≠ '\r' ∧ c ≠ '\u0085' ∧ c ≠ '\uFEFF' := by
  simp [isPrintable, and_assoc]

/-- White space on one line that is printable consists of spaces. -/
theorem eq_space_of_isWhite (printable : isPrintable c = true) (inLine : isBreak c = false)
    (white : isWhite c = true) : c = ' ' := by
  have noTab := (isPrintable_iff.1 printable).2.1
  simpa [isWhite, isBlank, inLine, noTab] using white

theorem visible_of_printable (printable : isPrintable c = true) (inLine : isBreak c = false)
    (noSpace : c ≠ ' ') : isWhite c = false := by
  by_contra white
  exact noSpace (eq_space_of_isWhite printable inLine (by simpa using white))

end Classes

section Pairs
open Scalar
variable {f g : Char → Bool}

theorem hasPair_append {s t : List Char} (h : hasPair f g (s ++ t) = false) :
    hasPair f g s = false ∧ hasPair f g t = false := by
  induction s with
  | nil => exact ⟨rfl, h⟩
  | cons c s ih =>
    cases s with
    | nil =>
      refine ⟨rfl, ?_⟩
      cases t with
      | nil => rfl
      | cons d t => exact (Bool.or_eq_false_iff.1 h).2
    | cons d s =>
      obtain ⟨hpair, hrest⟩ := Bool.or_eq_false_iff.1 h
      exact ⟨Bool.or_eq_false_iff.2 ⟨hpair, (ih hrest).1⟩, (ih hrest).2⟩

/-- A text of two classes of characters that never meet has one class of them only. -/
theorem uniform_of_hasPair {s : List Char} (cover : ∀ c ∈ s, f c = true ∨ g c = true)
    (fg : hasPair f g s = false) (gf : hasPair g f s = false) :
    (∀ c ∈ s, f c = true) ∨ ∀ c ∈ s, g c = true := by
  induction s with
  | nil => exact .inl (by simp)
  | cons c s ih =>
    obtain ⟨hc, hs⟩ := List.forall_mem_cons.1 cover
    cases s with
    | nil => simpa using hc
    | cons d s =>
      simp only [hasPair, Bool.or_eq_false_iff, Bool.and_eq_false_iff] at fg gf
      have hd := ih hs fg.2 gf.2
      simp only [List.forall_mem_cons] at hd ⊢
      rcases hc with hc | hc
      · refine hd.imp (fun h => ⟨hc, h⟩) fun h => ?_
        exact absurd hc (by simpa [h.1] using fg.1)
      · refine hd.imp (fun h => ?_) fun h => ⟨hc, h⟩
        exact absurd hc (by simpa [h.1] using gf.1)

end Pairs

section Spaces
open Scalar

theorem spaces_succ (n : Nat) : spaces (n + 1) = ' ' :: spaces n := rfl

theorem mem_spaces {n : Nat} {c : Char} (h : c ∈ spaces n) : c = ' ' := List.eq_of_mem_replicate h

theorem eq_spaces {w : List Char} (h : ∀ c ∈ w, c = ' ') : w = spaces w.length :=
  List.eq_replicate_iff.2 ⟨rfl, h⟩

@[simp] theorem length_spaces (n : Nat) : (spaces n).length = n := List.length_replicate

theorem isWhite_of_mem_spaces {n : Nat} : ∀ c ∈ spaces n, isWhite c = true :=
  fun _ h => mem_spaces h ▸ rfl

theorem isBreak_of_mem_spaces {n : Nat} : ∀ c ∈ spaces n, isBreak c = false :=
  fun _ h => mem_spaces h ▸ rfl

/-- The spaces behind a line break are the last line. -/
theorem lastLine_break {b : Char} (hb : isBreak b = true) (s : List Char) (n : Nat) :
    lastLine (s ++ b :: spaces n) = spaces n := by
  have hspaces : ∀ c ∈ (spaces n).reverse, !isBreak c := by
    simpa using fun c hc => isBreak_of_mem_spaces c hc
  have hend : EndsRun (fun c => !isBreak c) (b :: s.reverse) := endsRun_cons.2 (by simp [hb])
  rw [lastLine, List.reverse_append, List.reverse_cons, List.append_assoc, List.singleton_append,
    takeWhile_run hspaces hend, List.reverse_reverse]

end Spaces

end EntityDesign.Yaml
