import Mathlib.Order.Bounds.Basic
import Mathlib.Tactic.Tauto
import EntityDesign.Proofs.Analysis

/-! Which names are numbered. An entry gets a number if it has no name or one that stands before it,
and the number is the least one that makes a name of no other entry. These rules determine the
names; names that differ already are left alone. -/
namespace EntityDesign
namespace Distinct

/-- The numbers from one on that make a name which is not taken. -/
def freeNumbers (base : String) (taken : List String) : Set Nat :=
  {k | 1 ≤ k ∧ numbered base k ∉ taken}

/-- The names in `made` are those in `raw`, with numbers for the nameless and the repeated entries.
While an entry is numbered, those before it have their final names and those after it their raw
ones. -/
structure Numbers (raw made : List String) : Prop where
  length : made.length = raw.length
  named : "" ∉ made
  distinct : made.Nodup
  kept : ∀ i name, raw[i]? = some name → name ≠ "" → name ∉ raw.take i → made[i]? = some name
  nameless : ∀ i, raw[i]? = some "" →
    ∃ k, IsLeast (freeNumbers unnamed (made.take i ++ raw.drop (i + 1))) k ∧
      made[i]? = some (numbered unnamed k)
  repeated : ∀ i name, raw[i]? = some name → name ≠ "" → name ∈ raw.take i →
    ∃ k, IsLeast (freeNumbers name (made.take i ++ raw.drop (i + 1))) k ∧
      made[i]? = some (numbered name k)

theorem exists_isLeast_freeNumbers (base : String) (taken : List String) :
    ∃ k, IsLeast (freeNumbers base taken) k ∧ fresh base taken = numbered base k := by
  obtain ⟨k, positive, -, hfresh, free, least⟩ := fresh_spec base taken
  refine ⟨k, ⟨⟨positive, free⟩, fun j ⟨hj, hfree⟩ => ?_⟩, hfresh⟩
  by_contra hlt
  exact hfree (least j hj (by omega))

theorem mem_drop_of_getElem? {α : Type} {as : List α} {i : Nat} {a : α} (h : as[i]? = some a) :
    a ∈ as.drop i := by
  rw [List.drop_eq_getElem?_toList_append, h]
  exact List.mem_cons_self

theorem getElem?_namesFrom (done raw : List String) (i : Nat) :
    (namesFrom done raw)[done.length + i]? = raw[i]?.map fun name =>
      rename ((namesFrom done raw).take (done.length + i)) name (raw.drop (i + 1)) := by
  induction raw generalizing done i with
  | nil => simp
  | cons name rest ih =>
    cases i with
    | zero =>
      obtain ⟨made, hmade, -⟩ := exists_namesFrom_eq (done ++ [rename done name rest]) rest
      simp [namesFrom, hmade]
    | succ i =>
      have h := ih (done ++ [rename done name rest]) i
      rw [List.length_append, List.length_singleton] at h
      rw [namesFrom, show done.length + (i + 1) = done.length + 1 + i by omega, h]
      rfl

/-- An entry is renamed in view of the final names before it and the raw ones after it. -/
theorem getElem?_names (raw : List String) (i : Nat) : (names raw)[i]? =
    raw[i]?.map fun name => rename ((names raw).take i) name (raw.drop (i + 1)) := by
  simpa [names] using getElem?_namesFrom [] raw i

/-- A name to come stands among the final names so far exactly if it stands among the raw ones. -/
def Tracks (done seen rest : List String) : Prop :=
  ∀ name ∈ rest, name ≠ "" → (name ∈ done ↔ name ∈ seen)

theorem Tracks.step {done seen : List String} {name : String} {rest : List String}
    (h : Tracks done seen (name :: rest)) :
    Tracks (done ++ [rename done name rest]) (seen ++ [name]) rest := by
  intro later hlater named
  have before := h later (List.mem_cons_of_mem name hlater) named
  rw [List.mem_append, List.mem_append, List.mem_singleton, List.mem_singleton, before, rename_eq]
  split
  · rename_i numbered
    -- a number makes no name that is still to come, and a repeated raw name stood before
    have hfresh : later ≠ fresh (stem name) (done ++ rest) := fun heq =>
      fresh_notMem (stem name) (done ++ rest) (heq ▸ List.mem_append_right done hlater)
    have hraw : later = name → later ∈ seen := by
      rintro rfl
      exact before.1 (numbered.resolve_left named)
    tauto
  · rfl

theorem tracks_names (raw : List String) (i : Nat) :
    Tracks ((names raw).take i) (raw.take i) (raw.drop i) := by
  induction i with
  | zero => simp [Tracks]
  | succ i ih =>
    cases hi : raw[i]? with
    | none =>
      have hlength := List.getElem?_eq_none_iff.1 hi
      have hdrop : raw.drop (i + 1) = [] := List.drop_eq_nil_of_le (by omega)
      simp [Tracks, hdrop]
    | some name =>
      have hname := getElem?_names raw i
      rw [hi, Option.map_some] at hname
      rw [List.drop_eq_getElem?_toList_append, hi] at ih
      rw [List.take_add_one, List.take_add_one, hname, hi]
      exact ih.step

section
variable {raw : List String} {i : Nat} {name : String} (h : raw[i]? = some name)
include h

theorem mem_take_names_iff (named : name ≠ "") :
    name ∈ (names raw).take i ↔ name ∈ raw.take i :=
  tracks_names raw i name (mem_drop_of_getElem? h) named

/-- A nameless or repeated entry gets its stem and the least number that is free. -/
theorem getElem?_names_numbered (again : name = "" ∨ name ∈ (names raw).take i) :
    ∃ k, IsLeast (freeNumbers (stem name) ((names raw).take i ++ raw.drop (i + 1))) k ∧
      (names raw)[i]? = some (numbered (stem name) k) := by
  obtain ⟨k, hk, hfresh⟩ :=
    exists_isLeast_freeNumbers (stem name) ((names raw).take i ++ raw.drop (i + 1))
  refine ⟨k, hk, ?_⟩
  rw [getElem?_names, h, Option.map_some, rename_eq, if_pos again, hfresh]

end

theorem empty_notMem_names (raw : List String) : "" ∉ names raw := by
  intro hmem
  obtain ⟨i, hi⟩ := List.mem_iff_getElem?.1 hmem
  rw [getElem?_names, Option.map_eq_some_iff] at hi
  obtain ⟨name, -, hempty⟩ := hi
  exact (renamed_rename _ name _).ne_empty hempty

theorem numbers_names (raw : List String) : Numbers raw (names raw) := by
  constructor
  case length => exact length_names raw
  case named => exact empty_notMem_names raw
  case distinct => exact nodup_names raw
  case kept =>
    intro i name h named first
    have hnot : ¬(name = "" ∨ name ∈ (names raw).take i) := by
      rw [mem_take_names_iff h named]
      exact not_or.2 ⟨named, first⟩
    rw [getElem?_names, h, Option.map_some, rename_eq, if_neg hnot]
  case nameless => exact fun i h => getElem?_names_numbered h (.inl rfl)
  case repeated =>
    intro i name h named again
    have hstem : stem name = name := if_neg named
    have hnumbered := getElem?_names_numbered h (.inr ((mem_take_names_iff h named).2 again))
    rwa [hstem] at hnumbered

/-- There is one way to number. -/
theorem Numbers.unique {raw made made' : List String} (h : Numbers raw made)
    (h' : Numbers raw made') : made = made' := by
  have entry (i : Nat) (same : made.take i = made'.take i) : made[i]? = made'[i]? := by
    cases hi : raw[i]? with
    | none =>
      rw [List.getElem?_eq_none_iff] at hi
      rw [List.getElem?_eq_none (h.length ▸ hi), List.getElem?_eq_none (h'.length ▸ hi)]
    | some name =>
      by_cases hname : name = ""
      · subst hname
        obtain ⟨k, hk, hmade⟩ := h.nameless i hi
        obtain ⟨k', hk', hmade'⟩ := h'.nameless i hi
        rw [same] at hk
        rw [hmade, hmade', hk.unique hk']
      · by_cases again : name ∈ raw.take i
        · obtain ⟨k, hk, hmade⟩ := h.repeated i name hi hname again
          obtain ⟨k', hk', hmade'⟩ := h'.repeated i name hi hname again
          rw [same] at hk
          rw [hmade, hmade', hk.unique hk']
        · rw [h.kept i name hi hname again, h'.kept i name hi hname again]
  have before (i : Nat) : made.take i = made'.take i := by
    induction i with
    | zero => rfl
    | succ i ih => rw [List.take_add_one, List.take_add_one, ih, entry i ih]
  exact List.ext_getElem? fun i => entry i (before i)

/-- Names that differ need no numbers. -/
theorem numbers_self {raw : List String} (named : "" ∉ raw) (distinct : raw.Nodup) :
    Numbers raw raw := by
  have first {i : Nat} {name : String} (h : raw[i]? = some name) : name ∉ raw.take i := fun hmem =>
    List.disjoint_take_drop distinct (Nat.le_refl i) hmem (mem_drop_of_getElem? h)
  constructor
  case length => rfl
  case named => exact named
  case distinct => exact distinct
  case kept => exact fun i name h _ _ => h
  case nameless => exact fun i h => absurd (List.mem_of_getElem? h) named
  case repeated => exact fun i name h _ again => absurd again (first h)

/-- The names of a list are those that number its nameless and its repeated entries. Names that
differ are left alone, so a second time nothing changes. Of columns nothing but the name changes. -/
theorem names_exact (raw made : List String) (cs : List Column) :
    (names raw = made ↔ Numbers raw made) ∧
      ("" ∉ raw → raw.Nodup → names raw = raw) ∧
      names (names raw) = names raw ∧
      (Column.distinct cs).map (·.name) = names (cs.map (·.name)) ∧
      List.Forall₂ (fun c c' => c' = { c with name := c'.name }) cs (Column.distinct cs) := by
  have numbers := numbers_names raw
  have alone {raw : List String} (named : "" ∉ raw) (distinct : raw.Nodup) : names raw = raw :=
    (numbers_names raw).unique (numbers_self named distinct)
  refine ⟨⟨?_, numbers.unique⟩, alone, alone numbers.named numbers.distinct,
    Column.map_name_distinct cs, ?_⟩
  · rintro rfl
    exact numbers
  · exact (Column.forall₂_zipWith_name (renamed_names (cs.map (·.name)))).imp fun _ _ h => h.2

/-- Numbered names look like raw ones before and behind them. -/
theorem names_exact_lookalikes :
    Numbers ["", "Id", "Id", "Id1", "Column1", "", "Id1"]
        ["Column2", "Id", "Id2", "Id1", "Column1", "Column3", "Id11"] ∧
      "" ∉ ["Id", "Id1", "Column1"] ∧ ["Id", "Id1", "Column1"].Nodup ∧
      names ["Id", "Id1", "Column1"] = ["Id", "Id1", "Column1"] :=
  ⟨(names_exact _ _ []).1.1 (by decide +kernel), by decide, by decide,
    (names_exact _ [] []).2.1 (by decide) (by decide)⟩

end Distinct
end EntityDesign
