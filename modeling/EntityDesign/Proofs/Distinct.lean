import Mathlib.Data.List.Forall2
import Mathlib.Data.List.Nodup
import Mathlib.Data.List.Perm.Subperm
import EntityDesign.Distinct
import EntityDesign.Proofs.Identifier

/-! Distinct names. One more candidate than there are taken names always leaves one free, so every
entry gets a name that none before it has. The name is its own or a numbered one, and numbering
keeps identifiers identifiers. -/
namespace EntityDesign.Distinct

/-- What an entry is numbered by: its own name, if it has one. -/
def stem (name : String) : String := if name = "" then unnamed else name

theorem stem_ne_empty (name : String) : stem name ≠ "" := by
  unfold stem
  split
  · decide
  · assumption

theorem numbered_injective (base : String) : Function.Injective (numbered base) := by
  intro i j h
  have hdigits := congrArg String.toList h
  simp only [numbered, String.toList_append, List.append_cancel_left_eq,
    Nat.toString_eq_ofList_toDigits, String.toList_ofList] at hdigits
  simpa using congrArg (fun cs => Nat.ofDigitChars 10 cs 0) hdigits

/-- The candidates for a taken list cannot all be taken. -/
theorem exists_numbered_notMem (base : String) (taken : List String) :
    ∃ k, k < taken.length + 1 ∧ numbered base (k + 1) ∉ taken := by
  by_contra hall
  push Not at hall
  have hsub : (List.range (taken.length + 1)).map (fun k => numbered base (k + 1)) ⊆ taken := by
    intro name hname
    obtain ⟨k, hk, rfl⟩ := List.mem_map.1 hname
    exact hall k (List.mem_range.1 hk)
  have hnodup : ((List.range (taken.length + 1)).map fun k => numbered base (k + 1)).Nodup :=
    List.nodup_range.map fun i j h => Nat.succ.inj (numbered_injective base h)
  have hlength := (List.subperm_of_subset hnodup hsub).length_le
  rw [List.length_map, List.length_range] at hlength
  omega

/-- The fresh name is the first numbered one that is not taken, and its number is at most one more
than there are taken names. -/
theorem fresh_spec (base : String) (taken : List String) :
    ∃ k, 1 ≤ k ∧ k ≤ taken.length + 1 ∧ fresh base taken = numbered base k ∧
      numbered base k ∉ taken ∧ ∀ j, 1 ≤ j → j < k → numbered base j ∈ taken := by
  obtain ⟨m, hm, hfree⟩ := exists_numbered_notMem base taken
  have hfound : ((List.range (taken.length + 1)).find? fun k =>
      decide (numbered base (k + 1) ∉ taken)).isSome := by
    rw [List.find?_isSome]
    exact ⟨m, List.mem_range.2 hm, by simpa using hfree⟩
  obtain ⟨k, hk⟩ := Option.isSome_iff_exists.1 hfound
  obtain ⟨hnot, hrange, hfirst⟩ := List.find?_range_eq_some.1 hk
  refine ⟨k + 1, by omega, by have := List.mem_range.1 hrange; omega, ?_, by simpa using hnot,
    fun j hj hlt => ?_⟩
  · rw [fresh, List.find?_map, Function.comp_def, hk]
    rfl
  · obtain ⟨i, rfl⟩ := Nat.exists_eq_add_of_le' hj
    simpa using hfirst i (by omega)

theorem fresh_notMem (base : String) (taken : List String) : fresh base taken ∉ taken := by
  obtain ⟨k, -, -, hk, hfree, -⟩ := fresh_spec base taken
  rwa [hk]

/-- How an entry may be called in the end: by its own name, or by its stem and a number. -/
inductive Renamed (name : String) : String → Prop
  | kept (named : name ≠ "") : Renamed name name
  | counted (k : Nat) (positive : 1 ≤ k) : Renamed name (numbered (stem name) k)

theorem rename_eq (done : List String) (name : String) (rest : List String) :
    rename done name rest =
      if name = "" ∨ name ∈ done then fresh (stem name) (done ++ rest) else name := by
  by_cases hname : name = ""
  · simp [rename, stem, hname]
  · simp [rename, stem, hname]

theorem renamed_rename (done : List String) (name : String) (rest : List String) :
    Renamed name (rename done name rest) := by
  rw [rename_eq]
  split
  · obtain ⟨k, hk, -, hfresh, -⟩ := fresh_spec (stem name) (done ++ rest)
    rw [hfresh]
    exact .counted k hk
  · rename_i h
    exact .kept fun hname => h (.inl hname)

/-- No finished name is given twice. -/
theorem rename_notMem (done : List String) (name : String) (rest : List String) :
    rename done name rest ∉ done := by
  rw [rename_eq]
  split
  · intro h
    exact fresh_notMem (stem name) (done ++ rest) (List.mem_append_left rest h)
  · rename_i h
    exact fun hmem => h (.inr hmem)

theorem nodup_namesFrom {done : List String} (raw : List String) (h : done.Nodup) :
    (namesFrom done raw).Nodup := by
  induction raw generalizing done with
  | nil => exact h
  | cons name rest ih =>
    refine ih (h.append (List.nodup_singleton _) ?_)
    rw [List.disjoint_singleton]
    exact rename_notMem done name rest

/-- The names of the entries are put behind the finished ones. -/
theorem exists_namesFrom_eq (done raw : List String) :
    ∃ made, namesFrom done raw = done ++ made ∧ List.Forall₂ Renamed raw made := by
  induction raw generalizing done with
  | nil => exact ⟨[], (List.append_nil done).symm, .nil⟩
  | cons name rest ih =>
    obtain ⟨made, hmade, hrenamed⟩ := ih (done ++ [rename done name rest])
    refine ⟨rename done name rest :: made, ?_, .cons (renamed_rename done name rest) hrenamed⟩
    rw [namesFrom, hmade, List.append_assoc, List.singleton_append]

/-- All names differ. -/
theorem nodup_names (raw : List String) : (names raw).Nodup :=
  nodup_namesFrom raw List.nodup_nil

/-- Entry by entry the name is kept or numbered. -/
theorem renamed_names (raw : List String) : List.Forall₂ Renamed raw (names raw) := by
  obtain ⟨made, hmade, hrenamed⟩ := exists_namesFrom_eq [] raw
  rwa [names, hmade, List.nil_append]

section
variable {name new : String} (h : Renamed name new)
include h

theorem Renamed.ne_empty : new ≠ "" := by
  cases h with
  | kept named => exact named
  | counted k =>
    intro hempty
    exact stem_ne_empty name (String.append_eq_empty_iff.1 hempty).1

/-- An identifier is renamed to an identifier. -/
theorem Renamed.sanitize (safe : Identifier.sanitize name = name) :
    Identifier.sanitize new = new := by
  cases h with
  | kept => exact safe
  | counted k =>
    refine Identifier.sanitize_append_of_digits ?_ (stem_ne_empty name) fun c hc => ?_
    · unfold stem
      split
      · decide +kernel
      · exact safe
    · rw [Nat.toString_eq_ofList_toDigits, String.toList_ofList] at hc
      exact Nat.isDigit_of_mem_toDigits (by decide) (by decide) hc

end
end EntityDesign.Distinct
