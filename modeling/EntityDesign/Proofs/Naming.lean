import Mathlib.Data.List.Nodup
import EntityDesign.Entity
import EntityDesign.Proofs.Lists

/-! How names change. An edit that is given a text for a name leaves everything as it was, finds the
identifier made from the text in use, or lets it in where it is free. -/
namespace EntityDesign
open Identifier

namespace Entity

/-- The names of the queries in order. -/
def queryNames (e : Entity) : List String := e.queries.map (·.name)

theorem isSome_queryIndex?_iff (e : Entity) (name : String) :
    (e.queryIndex? name).isSome = true ↔ name ∈ e.queryNames :=
  isSome_findIdx?_key_iff Query.name e.queries name

theorem queryIndex?_eq_none_iff_notMem (e : Entity) (name : String) :
    e.queryIndex? name = none ↔ name ∉ e.queryNames :=
  findIdx?_key_eq_none_iff Query.name e.queries name

end Entity

/-- What an edit may do to the names that something holds, if it is given a text for a name. -/
inductive Naming {α : Type} (names : α → List String) (given : Option String) (before : α) :
    α → Prop
  | unchanged : Naming names given before before
  /-- A given name is in use. -/
  | kept {after : α} (same : names after = names before)
      (used : ∀ text ∈ given, sanitize text ∈ names before) : Naming names given before after
  | dropped {after : α} (i : Nat) (silent : given = none)
      (rest : names after = (names before).eraseIdx i) : Naming names given before after
  | appended {after : α} {text : String} (asked : given = some text)
      (free : sanitize text ∉ names before) (more : names after = names before ++ [sanitize text]) :
    Naming names given before after
  | replaced {after : α} {text : String} (i : Nat) (asked : given = some text)
      (free : sanitize text ∉ names before) (inside : i < (names before).length)
      (other : names after = (names before).set i (sanitize text)) : Naming names given before after

namespace Naming
variable {α : Type} {names : α → List String} {given : Option String} {before after : α}

theorem nodup (h : Naming names given before after) (distinct : (names before).Nodup) :
    (names after).Nodup := by
  cases h with
  | unchanged => exact distinct
  | kept same => exact same ▸ distinct
  | dropped i _ rest => exact rest ▸ distinct.sublist (List.eraseIdx_sublist _ _)
  | appended _ free more =>
    rw [more, List.nodup_append_comm]
    exact List.nodup_cons.2 ⟨free, distinct⟩
  | replaced i _ free _ other => exact other ▸ distinct.set free

/-- A name is an old one or made from the given text. -/
theorem mem (h : Naming names given before after) {name : String} (hname : name ∈ names after) :
    name ∈ names before ∨ ∃ text ∈ given, name = sanitize text := by
  cases h with
  | unchanged => exact .inl hname
  | kept same => exact .inl (same ▸ hname)
  | dropped i _ rest =>
    rw [rest] at hname
    exact .inl (List.mem_of_mem_eraseIdx hname)
  | appended asked _ more =>
    rw [more, List.mem_append, List.mem_singleton] at hname
    exact hname.imp id fun h => ⟨_, asked, h⟩
  | replaced i asked _ _ other =>
    rw [other] at hname
    exact (List.mem_or_eq_of_mem_set hname).imp id fun h => ⟨_, asked, h⟩

/-- The identifier made from a given text is there afterwards, unless nothing has happened. -/
theorem entered {text : String} (h : Naming names (some text) before after) :
    after = before ∨ sanitize text ∈ names after := by
  cases h with
  | unchanged => exact .inl rfl
  | kept same used => exact .inr (same ▸ used text rfl)
  | dropped _ silent => cases silent
  | appended asked _ more =>
    cases asked
    exact .inr (by simp [more])
  | replaced i asked _ inside other =>
    cases asked
    exact .inr (other ▸ List.mem_set inside _)

end Naming

/-- An edit that gives no new value keeps what the old one has. -/
theorem getD_of_forall_mem {α : Type} {R : α → Prop} {old : α} {new : Option α} (h : R old)
    (changed : ∀ a ∈ new, R a) : R (new.getD old) := by
  cases new with
  | none => exact h
  | some a => exact changed a rfl

section
variable {β : Type} {index : String → Option Nat} {names : List String}
  (used : ∀ name, (index name).isSome = true ↔ name ∈ names) {current name : String} {f : Nat → β}
include used

/-- A rename takes place if the old name is there and the new one is free. -/
theorem mem_rename_iff {b : β} :
    b ∈ (if name = current ∨ (index name).isSome = true then none else (index current).map f) ↔
      name ∉ names ∧ ∃ i, index current = some i ∧ f i = b := by
  rw [Option.mem_def, Option.ite_none_left_eq_some, not_or, used, Option.map_eq_some_iff]
  constructor
  · rintro ⟨⟨-, free⟩, found⟩
    exact ⟨free, found⟩
  · rintro ⟨free, i, found, rfl⟩
    refine ⟨⟨?_, free⟩, i, found, rfl⟩
    rintro rfl
    exact free ((used name).1 (by simp [found]))

theorem isNone_rename_iff :
    (if name = current ∨ (index name).isSome = true then none
      else (index current).map f).isNone = true ↔ current ∉ names ∨ name ∈ names := by
  rw [Option.isNone_iff_eq_none, Option.eq_none_iff_forall_not_mem]
  simp only [mem_rename_iff used]
  rw [← used current, Option.isSome_iff_exists]
  by_cases name ∈ names <;> simp [*]

end

end EntityDesign
