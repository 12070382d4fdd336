import EntityDesign.Text.Digits
import Mathlib.Algebra.Group.Nat.Defs

/-! Hexadecimal numbers are read back. -/
namespace EntityDesign.Text

theorem digit?_toUpper_digitChar :
    ∀ d < 16, digit? 16 (Nat.digitChar d).toUpper = some d := by decide

/-- Reading the digits of a number gives the number. -/
theorem foldl_toDigits (n : Nat) :
    ((Nat.toDigits 16 n).map Char.toUpper).foldl
      (fun n c => do return (← n) * 16 + (← digit? 16 c)) (some 0) = some n := by
  induction n using Nat.strongRecOn with
  | ind n ih =>
    rw [Nat.toDigits_eq_if (by decide)]
    by_cases small : n < 16
    · simp [small, digit?_toUpper_digitChar n small]
    · have hlast := digit?_toUpper_digitChar (n % 16) (Nat.mod_lt n (by decide))
      rw [if_neg small, List.map_append, List.foldl_append, ih (n / 16) (by omega)]
      simp [hlast]
      omega

theorem number?_hexadecimal (width n : Nat) : number? 16 (hexadecimal width n) = some n := by
  have hzeros (k : Nat) : (List.replicate k '0').foldl
      (fun n c => do return (← n) * 16 + (← digit? 16 c)) (some 0) = some 0 := by
    induction k with
    | zero => rfl
    | succ k ih => exact ih
  have hne : hexadecimal width n ≠ [] := by simp [hexadecimal]
  rw [number?, List.isEmpty_eq_false_iff.2 hne, hexadecimal]
  simp only [Bool.false_eq_true, if_false, List.foldl_append, hzeros, foldl_toDigits]

theorem length_hexadecimal {width n : Nat} (hw : 0 < width) (hn : n < 16 ^ width) :
    (hexadecimal width n).length = width := by
  have hdigits := (Nat.length_toDigits_le_iff (by decide) hw).2 hn
  simp only [hexadecimal, List.length_append, List.length_replicate, List.length_map]
  omega

/-- The digits are those from `0` to `9` and from `A` to `F`. -/
theorem exists_of_mem_hexadecimal {width n : Nat} {c : Char} (h : c ∈ hexadecimal width n) :
    ∃ d < 16, c = (Nat.digitChar d).toUpper := by
  have htoDigits (m : Nat) : c ∈ (Nat.toDigits 16 m).map Char.toUpper →
      ∃ d < 16, c = (Nat.digitChar d).toUpper := by
    induction m using Nat.strongRecOn with
    | ind m ih =>
      intro h
      rw [Nat.toDigits_eq_if (by decide)] at h
      by_cases small : m < 16
      · exact ⟨m, small, by simpa [small] using h⟩
      · rw [if_neg small, List.map_append, List.mem_append] at h
        rcases h with h | h
        · exact ih (m / 16) (by omega) h
        · exact ⟨m % 16, Nat.mod_lt m (by decide), by simpa using h⟩
  rcases List.mem_append.1 h with h | h
  · exact ⟨0, by decide, List.eq_of_mem_replicate h⟩
  · exact htoDigits n h

end EntityDesign.Text
