import Mathlib.Data.List.Basic
import Mathlib.Data.List.Forall2
import Mathlib.Data.List.Induction

/-! Lists whose entries are looked up by a key and replaced, lists whose entries stand beside those
of another, lists that are split at an entry, and folds that are watched after every step. -/
namespace EntityDesign

section
variable {α : Type}

theorem modify_eq_set {as : List α} {i : Nat} {a : α} (h : as[i]? = some a) (f : α → α) :
    as.modify i f = as.set i (f a) := by
  rw [List.modify_eq_set_getElem?, h]
  rfl

/-- Replacing an entry by one with the same `g` changes no `g`. -/
theorem map_set_of_eq {β : Type} (g : α → β) {as : List α} {i : Nat} {a b : α}
    (h : as[i]? = some a) (same : g b = g a) : (as.set i b).map g = as.map g := by
  obtain ⟨hi, ha⟩ := List.getElem?_eq_some_iff.1 h
  rw [List.map_set, same, ← ha, ← List.getElem_map g (h := by simpa using hi),
    List.set_getElem_self]

theorem set_of_getElem? {as : List α} {i : Nat} {a : α} (h : as[i]? = some a) :
    as.set i a = as := by
  simpa using map_set_of_eq id h rfl

/-- The first entry that passes a filter, before the others that do. -/
theorem filter_eq_cons_of_findIdx? {p : α → Bool} {as : List α} {i : Nat} {a : α}
    (first : as.findIdx? p = some i) (h : as[i]? = some a) :
    as.filter p = a :: (as.eraseIdx i).filter p := by
  induction as generalizing i with
  | nil => cases h
  | cons b as ih =>
    rw [List.findIdx?_cons] at first
    by_cases hb : p b
    · rw [if_pos hb] at first
      cases first
      cases h
      simp [hb]
    · rw [if_neg hb] at first
      obtain ⟨j, hj, rfl⟩ := Option.map_eq_some_iff.1 first
      simpa [hb] using ih hj h

/-- A search by `g` finds the same in lists with the same `g`. -/
theorem findIdx?_congr {β : Type} (g : α → β) (p : β → Bool) {as bs : List α}
    (same : as.map g = bs.map g) :
    as.findIdx? (fun a => p (g a)) = bs.findIdx? (fun a => p (g a)) := by
  have found := congrArg (List.findIdx? p) same
  rwa [List.findIdx?_map, List.findIdx?_map] at found

theorem isSome_findIdx?_key_iff (key : α → String) (as : List α) (name : String) :
    (as.findIdx? (key · == name)).isSome = true ↔ name ∈ as.map key := by
  simp

theorem findIdx?_key_eq_none_iff (key : α → String) (as : List α) (name : String) :
    as.findIdx? (key · == name) = none ↔ name ∉ as.map key := by
  simp

theorem exists_of_findIdx?_key {key : α → String} {as : List α} {name : String} {i : Nat}
    (h : as.findIdx? (key · == name) = some i) : ∃ a, as[i]? = some a ∧ key a = name := by
  obtain ⟨hi, hname, -⟩ := List.findIdx?_eq_some_iff_getElem.1 h
  exact ⟨as[i], List.getElem?_eq_getElem hi, by simpa using hname⟩

theorem exists_of_find?_key {key : α → String} {as : List α} {name : String} {a : α}
    (h : as.find? (key · == name) = some a) :
    ∃ i, as.findIdx? (key · == name) = some i ∧ as[i]? = some a ∧ key a = name := by
  have hname : key a = name := by simpa using List.find?_some h
  rw [List.find?_eq_bind_findIdx?_getElem?] at h
  obtain ⟨i, hi, ha⟩ := Option.bind_eq_some_iff.1 h
  exact ⟨i, hi, ha, hname⟩

end

section Beside
variable {α β : Type} {R : α → β → Prop} {as : List α} {bs : List β}

/-- What a partial function gives along a list, beside the entries where it gives something. -/
theorem forall₂_filterMap (f : α → Option β) (as : List α) :
    List.Forall₂ (fun a b => f a = some b) (as.filter fun a => (f a).isSome) (as.filterMap f) := by
  induction as with
  | nil => exact .nil
  | cons a as ih =>
    cases h : f a with
    | none => simpa [h] using ih
    | some b => simpa [h] using ih

theorem exists_beside_left (h : List.Forall₂ R as bs) {a : α} (ha : a ∈ as) :
    ∃ b ∈ bs, R a b := by
  obtain ⟨i, hi, rfl⟩ := List.mem_iff_getElem.1 ha
  exact ⟨_, List.getElem_mem (h.length_eq ▸ hi), h.get hi _⟩

theorem exists_beside_right (h : List.Forall₂ R as bs) {b : β} (hb : b ∈ bs) :
    ∃ a ∈ as, R a b := by
  obtain ⟨i, hi, rfl⟩ := List.mem_iff_getElem.1 hb
  exact ⟨_, List.getElem_mem (h.length_eq ▸ hi), h.get _ hi⟩

theorem pairwise_beside {S : α → α → Prop} {T : β → β → Prop} (h : List.Forall₂ R as bs)
    (sorted : as.Pairwise S) (step : ∀ a a' b b', R a b → R a' b' → S a a' → T b b') :
    bs.Pairwise T := by
  rw [List.pairwise_iff_getElem] at sorted ⊢
  intro i j hi hj hij
  have hi' : i < as.length := h.length_eq ▸ hi
  have hj' : j < as.length := h.length_eq ▸ hj
  exact step _ _ _ _ (h.get hi' hi) (h.get hj' hj) (sorted i j hi' hj' hij)

end Beside

section Split
variable {α : Type} [BEq α] [LawfulBEq α] {sep : α} {as bs : List α}

theorem splitOn_append_left (ha : sep ∉ as) (bs : List α) :
    (as ++ bs).splitOn sep = (bs.splitOn sep).modifyHead (as ++ ·) := by
  induction as with
  | nil =>
    change bs.splitOn sep = (bs.splitOn sep).modifyHead id
    rw [List.modifyHead_id, id]
  | cons a as ih =>
    obtain ⟨first, others⟩ := not_or.1 (List.mem_cons.not.1 ha)
    rw [List.cons_append, List.splitOn_cons_eq_if_modifyHead, if_neg (by simpa using Ne.symm first),
      ih others, List.modifyHead_modifyHead]
    rfl

theorem exists_splitOn_append_right (hb : sep ∉ bs) (as : List α) :
    ∃ front last, as.splitOn sep = front ++ [last] ∧
      (as ++ bs).splitOn sep = front ++ [last ++ bs] := by
  induction as with
  | nil => exact ⟨[], [], List.splitOn_nil sep, List.splitOn_eq_singleton hb⟩
  | cons a as ih =>
    obtain ⟨front, last, before, after⟩ := ih
    simp only [List.cons_append, List.splitOn_cons_eq_if_modifyHead, before, after]
    by_cases hsep : (a == sep) = true
    · exact ⟨[] :: front, last, if_pos hsep, if_pos hsep⟩
    · simp only [if_neg hsep]
      cases front with
      | nil => exact ⟨[], a :: last, rfl, rfl⟩
      | cons piece front => exact ⟨(a :: piece) :: front, last, rfl, rfl⟩

omit [BEq α] [LawfulBEq α] in
/-- What stands between two separators is part of the whole. -/
theorem infix_intercalate {pieces : List (List α)} (h : bs ∈ pieces) :
    bs <:+: [sep].intercalate pieces := by
  induction pieces with
  | nil => cases h
  | cons piece pieces ih =>
    cases pieces with
    | nil => simp [List.mem_singleton.1 h]
    | cons next pieces =>
      rw [List.intercalate_cons_cons, List.append_assoc]
      rcases List.mem_cons.1 h with rfl | later
      · exact (List.prefix_append bs _).isInfix
      · exact (ih later).trans ((List.suffix_append [sep] _).trans
          (List.suffix_append piece _)).isInfix

theorem infix_of_mem_splitOn (h : bs ∈ as.splitOn sep) : bs <:+: as := by
  have inside : bs <:+: [sep].intercalate (as.splitOn sep) := infix_intercalate h
  rwa [List.intercalate_splitOn] at inside

end Split

/-- What every step keeps unless it is a misstep holds all along a fold if and only if no misstep is
taken; `Q` are the missteps. -/
theorem foldl_prefix_iff {α β : Type} {f : β → α → β} {P : β → Prop} {Q : β → α → Prop}
    (step : ∀ b a, P b → (P (f b a) ↔ ¬Q b a)) {b : β} (start : P b) (as : List α) :
    (∀ before, before <+: as → P (before.foldl f b)) ↔
      ∀ before a, before ++ [a] <+: as → ¬Q (before.foldl f b) a := by
  constructor
  · intro h before a hb
    have hp := h before ((List.prefix_append before [a]).trans hb)
    refine (step _ a hp).1 ?_
    rw [← List.foldl_concat f]
    exact h _ hb
  · intro h before
    induction before using List.reverseRecOn with
    | nil => exact fun _ => start
    | append_singleton before a ih =>
      intro hb
      rw [List.foldl_concat]
      exact (step _ a (ih ((List.prefix_append before [a]).trans hb))).2 (h before a hb)

end EntityDesign
