import EntityDesign.Proofs.Editing.Entity

/-! Editing sessions: edits of a design, one after the other. An edit that is refused leaves the
design as it was, and any other treats names as `Naming` says, those of the entities or those within
one. -/
namespace EntityDesign
open Identifier Reconciliation

namespace Design

/-- The names of the entities in order. -/
def entityNames (d : Design) : List String := d.entities.map (·.name)

theorem isSome_entityIndex?_iff (d : Design) (name : String) :
    (d.entityIndex? name).isSome = true ↔ name ∈ d.entityNames :=
  isSome_findIdx?_key_iff Entity.name d.entities name

theorem map_addEntity (d : Design) (name : String) (x y : Int32) :
    (d.addEntity name x y).toOption.map (·.2) = if sanitize name ∈ d.entityNames then none
      else some { d with entities := d.entities ++ [{ Entity.named name with x, y }] } := by
  simp only [addEntity_eq_ite, isSome_entityIndex?_iff]
  split <;> rfl

theorem map_removeEntity (d : Design) (name : String) : (d.removeEntity name).map (·.2) =
    (d.entityIndex? name).map fun i => { d with entities := d.entities.eraseIdx i } := by
  cases found : d.entityIndex? name with
  | none => simp [removeEntity_eq_bind, found]
  | some i =>
    obtain ⟨e, he, -⟩ := exists_of_findIdx?_key found
    simp [removeEntity_eq_bind, found, he]

end Design

namespace Editing
variable {σ : Type} (analyze : Analyzer σ)

/-- What an edit leaves, and whether it was refused. -/
structure Edited (σ α : Type) where
  value : α
  source : σ
  refused : Bool

/-- What an edit in place leaves; its answer tells whether it was refused. -/
def Edited.ofRun {α β : Type} (isRefusal : β → Bool) (edit : StateM α β) (old : α) (s : σ) :
    Edited σ α :=
  let (answer, left) := (edit.run old).run
  ⟨left, s, isRefusal answer⟩

/-- An edit that leaves a new value, or is refused and leaves the old one. -/
def Edited.ofOption {α : Type} (old : α) (s : σ) (new : Option α) : Edited σ α :=
  ⟨new.getD old, s, new.isNone⟩

theorem Edited.ofRun_rename {α : Type} (index? : α → String → Option Nat)
    (put : α → Nat → String → α) (current new : String) (old : α) (s : σ) :
    ofRun (!·) (rename index? put current new) old s = ofOption old s
      (if sanitize new = current ∨ (index? old (sanitize new)).isSome = true then none
        else (index? old current).map fun i => put old i (sanitize new)) := by
  simp only [ofRun, run_rename]
  split
  · rfl
  · cases index? old current <;> rfl

theorem Edited.ofOption_of_refused {α : Type} {old : α} {s : σ} {new : Option α}
    (refused : (ofOption old s new).refused = true) : ofOption old s new = ⟨old, s, true⟩ := by
  cases new with
  | none => rfl
  | some new => cases refused

/-- An edit of an entity. -/
inductive Change where
  | addQuery (draft : Draft)
  | removeQuery (index : Nat)
  | renameQuery (current new : String)
  | reconcile (op : Operation)

/-- An edit of a design. -/
inductive Edit where
  | addEntity (name : String) (x y : Int32)
  | removeEntity (name : String)
  | renameEntity (current new : String)
  /-- A change of the entity at an index. -/
  | within (index : Nat) (change : Change)

def Change.perform (change : Change) (e : Entity) (s : σ) : Edited σ Entity :=
  match change with
  | addQuery draft => .ofRun (!·.isOk) (Entity.InPlace.addQuery draft.query) e s
  | removeQuery index => .ofRun (·.isNone) (Entity.InPlace.removeQuery index) e s
  | renameQuery current new => .ofRun (!·) (Entity.InPlace.renameQuery current new) e s
  | reconcile op =>
    let after := op.perform analyze e s
    ⟨after.entity, after.source, op.fails analyze e s⟩

def Edit.perform (edit : Edit) (d : Design) (s : σ) : Edited σ Design :=
  match edit with
  | addEntity name x y => .ofRun (!·.isOk) (Design.InPlace.addEntity name x y) d s
  | removeEntity name => .ofRun (·.isNone) (Design.InPlace.removeEntity name) d s
  | renameEntity current new => .ofRun (!·) (Design.InPlace.renameEntity current new) d s
  | within index change =>
    match d.entities[index]? with
    | none => ⟨d, s, true⟩
    | some e =>
      let after := change.perform analyze e s
      ⟨{ d with entities := d.entities.set index after.value }, after.source, after.refused⟩

/-- One edit after another, with one source. -/
def advance (p : Design × σ) (edit : Edit) : Design × σ :=
  let after := edit.perform analyze p.1 p.2
  (after.value, after.source)

/-- The design and the source after a session that begins with an empty design. -/
def run (edits : List Edit) (s : σ) : Design × σ := edits.foldl (advance analyze) ({}, s)

/-- The text that a change is given for a name. -/
def Change.givenName : Change → Option String
  | addQuery draft => some draft.name
  | removeQuery _ => none
  | renameQuery _ new => some new
  | reconcile op => op.givenName

/-- The text that an edit is given for a name. -/
def Edit.givenName : Edit → Option String
  | addEntity name .. => some name
  | removeEntity _ => none
  | renameEntity _ new => some new
  | within _ change => change.givenName

/-- When a change is refused. -/
def Change.Refused (e : Entity) : Change → Prop
  | addQuery draft => sanitize draft.name ∈ e.queryNames
  | removeQuery index => e.queries.length ≤ index
  | renameQuery current new => current ∉ e.queryNames ∨ sanitize new ∈ e.queryNames
  | reconcile op => op.Refused e

/-- When an edit is refused. -/
def Edit.Refused (d : Design) : Edit → Prop
  | addEntity name .. => sanitize name ∈ d.entityNames
  | removeEntity name => name ∉ d.entityNames
  | renameEntity current new => current ∉ d.entityNames ∨ sanitize new ∈ d.entityNames
  | within index change => ∀ e ∈ d.entities[index]?, change.Refused e

section
variable {analyze}

theorem Change.perform_addQuery (draft : Draft) (e : Entity) (s : σ) :
    (addQuery draft).perform analyze e s = .ofOption e s (e.addQuery draft.query).toOption := by
  simp only [perform, Edited.ofRun, Entity.InPlace.run_addQuery, Entity.addQuery_eq_ite]
  split <;> rfl

theorem Change.perform_removeQuery (index : Nat) (e : Entity) (s : σ) :
    (removeQuery index).perform analyze e s =
      .ofOption e s ((e.removeQuery index).map (·.2)) := by
  simp only [perform, Edited.ofRun, Entity.InPlace.run_removeQuery, Entity.removeQuery_eq_map]
  cases e.queries[index]? <;> rfl

theorem Change.perform_renameQuery (current new : String) (e : Entity) (s : σ) :
    (renameQuery current new).perform analyze e s =
      .ofOption e s (e.renameQuery current new) := by
  rw [perform, Entity.InPlace.renameQuery, Edited.ofRun_rename, Entity.renameQuery_eq_ite]

theorem Change.naming_perform (change : Change) (e : Entity) (s : σ) :
    Naming Entity.queryNames change.givenName e (change.perform analyze e s).value := by
  cases change with
  | addQuery draft =>
    rw [perform_addQuery]
    exact getD_of_forall_mem .unchanged fun _ => Entity.naming_addQuery
  | removeQuery index =>
    rw [perform_removeQuery]
    exact getD_of_forall_mem .unchanged fun _ => Entity.naming_removeQuery
  | renameQuery current new =>
    rw [perform_renameQuery]
    exact getD_of_forall_mem .unchanged fun _ => Entity.naming_renameQuery
  | reconcile op => exact Reconciliation.naming_perform op

theorem Change.name_perform (change : Change) (e : Entity) (s : σ) :
    (change.perform analyze e s).value.name = e.name := by
  cases change with
  | addQuery draft =>
    rw [perform_addQuery, Entity.toOption_addQuery, Edited.ofOption]
    split <;> rfl
  | removeQuery index =>
    rw [perform_removeQuery, Entity.map_removeQuery]
    cases e.queries[index]? with
    | none => rfl
    | some q => exact congrArg Prod.fst (Entity.place_dropOrphanedColumns _)
  | renameQuery current new =>
    rw [perform_renameQuery, Entity.renameQuery_eq_ite]
    refine getD_of_forall_mem (R := fun e' : Entity => e'.name = e.name) rfl fun e' h => ?_
    obtain ⟨-, i, -, rfl⟩ := (mem_rename_iff e.isSome_queryIndex?_iff).1 h
    rfl
  | reconcile op => exact Reconciliation.name_perform op e s

/-- A change is refused as `Refused` says. -/
theorem Change.refused_iff (change : Change) (e : Entity) (s : σ) :
    (change.perform analyze e s).refused = true ↔ change.Refused e := by
  cases change with
  | addQuery draft =>
    rw [perform_addQuery, Entity.toOption_addQuery]
    by_cases used : draft.query.name ∈ e.queryNames
    · exact iff_of_true (by simp [Edited.ofOption, used]) used
    · exact iff_of_false (by simp [Edited.ofOption, used]) used
  | removeQuery index =>
    rw [perform_removeQuery, Entity.map_removeQuery]
    simp [Edited.ofOption, Change.Refused]
  | renameQuery current new =>
    rw [perform_renameQuery, Entity.renameQuery_eq_ite]
    exact isNone_rename_iff e.isSome_queryIndex?_iff
  | reconcile op => exact fails_iff op

theorem Change.perform_of_refused {change : Change} {e : Entity} {s : σ}
    (refused : (change.perform analyze e s).refused = true) :
    change.perform analyze e s = ⟨e, s, true⟩ := by
  cases change with
  | addQuery | removeQuery | renameQuery =>
    simp only [perform_addQuery, perform_removeQuery, perform_renameQuery] at refused ⊢
    exact Edited.ofOption_of_refused refused
  | reconcile op =>
    obtain ⟨entity, source⟩ : (op.perform analyze e s).entity = e ∧
        (op.perform analyze e s).source = s :=
      Reconciliation.perform_of_refused ((fails_iff op).1 refused)
    rw [Change.perform, entity, source]
    exact congrArg _ refused

end

/-- What an edit may do to the names in a design. -/
inductive Step (given : Option String) (d : Design) : Design → Prop
  /-- It is about the names of the entities; no query gets another name. -/
  | outer {d' : Design} (naming : Naming Design.entityNames given d d')
      (inside : ∀ e' ∈ d'.entities,
        e'.queryNames = [] ∨ ∃ e ∈ d.entities, e'.queryNames = e.queryNames) : Step given d d'
  /-- It is about the names of the queries of one entity. -/
  | inner {i : Nat} {e e' : Entity} (h : d.entities[i]? = some e) (same : e'.name = e.name)
      (naming : Naming Entity.queryNames given e e') :
    Step given d { d with entities := d.entities.set i e' }

/-- Something holds of the names of the entities and, in each, of those of the queries. -/
def Named (P : List String → Prop) (d : Design) : Prop :=
  P d.entityNames ∧ ∀ e ∈ d.entities, P e.queryNames

section
variable {given : Option String} {d d' : Design}

theorem Step.refl : Step given d d :=
  .outer .unchanged fun e h => .inr ⟨e, h, rfl⟩

/-- What `Naming` keeps, a step keeps. -/
theorem Step.named (h : Step given d d') {P : List String → Prop} (nil : P [])
    (lasting : ∀ {α : Type} {names : α → List String} {before after : α},
      Naming names given before after → P (names before) → P (names after)) (named : Named P d) :
    Named P d' := by
  cases h with
  | outer naming inside =>
    constructor
    · exact lasting naming named.1
    · intro e' he'
      rcases inside e' he' with none | ⟨e, he, same⟩
      · exact none ▸ nil
      · exact same ▸ named.2 e he
  | @inner i e e' h same naming =>
    constructor
    · rw [Design.entityNames, map_set_of_eq (·.name) h same]
      exact named.1
    · intro e'' he''
      rcases List.mem_or_eq_of_mem_set he'' with he'' | rfl
      · exact named.2 e'' he''
      · exact lasting naming (named.2 e (List.mem_of_getElem? h))

/-- The identifier made from a given text is there afterwards, unless nothing has happened. -/
theorem Step.entered {text : String} (h : Step (some text) d d') :
    d' = d ∨ sanitize text ∈ d'.entityNames ∨ ∃ e ∈ d'.entities, sanitize text ∈ e.queryNames := by
  cases h with
  | outer naming => exact naming.entered.imp id .inl
  | @inner i e e' h same naming =>
    rcases naming.entered with rfl | entered
    · left
      rw [set_of_getElem? h]
    · obtain ⟨hi, -⟩ := List.getElem?_eq_some_iff.1 h
      exact .inr (.inr ⟨e', List.mem_set hi e', entered⟩)

end

section
variable {analyze} {d d' : Design}

theorem step_addEntity {name : String} {x y : Int32}
    (h : d' ∈ (d.addEntity name x y).toOption.map (·.2)) : Step (some name) d d' := by
  rw [Design.map_addEntity] at h
  obtain ⟨free, heq⟩ := Option.ite_none_left_eq_some.1 h
  cases heq
  apply Step.outer
  · exact .appended rfl free (by simp [Design.entityNames, Entity.named])
  · intro e' he'
    rcases List.mem_append.1 he' with he' | he'
    · exact .inr ⟨e', he', rfl⟩
    · exact .inl (by simp [List.mem_singleton.1 he', Entity.named, Entity.queryNames])

theorem step_removeEntity {name : String} (h : d' ∈ (d.removeEntity name).map (·.2)) :
    Step none d d' := by
  rw [Design.map_removeEntity] at h
  obtain ⟨i, -, rfl⟩ := Option.map_eq_some_iff.1 h
  apply Step.outer
  · exact .dropped i rfl (List.eraseIdx_map ..).symm
  · intro e' he'
    exact .inr ⟨e', List.mem_of_mem_eraseIdx he', rfl⟩

theorem step_renameEntity {current new : String} (h : d' ∈ d.renameEntity current new) :
    Step (some new) d d' := by
  rw [Design.renameEntity_eq_ite] at h
  obtain ⟨free, i, found, rfl⟩ := (mem_rename_iff d.isSome_entityIndex?_iff).1 h
  obtain ⟨e, he, -⟩ := exists_of_findIdx?_key found
  obtain ⟨hi, -⟩ := List.getElem?_eq_some_iff.1 he
  apply Step.outer
  · refine .replaced i rfl free (by simpa [Design.entityNames] using hi) ?_
    simp [modify_eq_set he, Design.entityNames, List.map_set]
  · intro e' he'
    rw [modify_eq_set he] at he'
    rcases List.mem_or_eq_of_mem_set he' with he' | rfl
    · exact .inr ⟨e', he', rfl⟩
    · exact .inr ⟨e, List.mem_of_getElem? he, rfl⟩

theorem Edit.perform_addEntity (name : String) (x y : Int32) (d : Design) (s : σ) :
    (addEntity name x y).perform analyze d s =
      .ofOption d s ((d.addEntity name x y).toOption.map (·.2)) := by
  simp only [perform, Edited.ofRun, Design.InPlace.run_addEntity, Design.addEntity_eq_ite]
  split <;> rfl

theorem Edit.perform_removeEntity (name : String) (d : Design) (s : σ) :
    (removeEntity name).perform analyze d s =
      .ofOption d s ((d.removeEntity name).map (·.2)) := by
  rw [Design.map_removeEntity]
  simp only [perform, Edited.ofRun, Design.InPlace.run_removeEntity]
  cases found : d.entityIndex? name with
  | none => rfl
  | some i =>
    obtain ⟨e, he, -⟩ := exists_of_findIdx?_key found
    simp only [he]
    rfl

theorem Edit.perform_renameEntity (current new : String) (d : Design) (s : σ) :
    (renameEntity current new).perform analyze d s =
      .ofOption d s (d.renameEntity current new) := by
  rw [perform, Design.InPlace.renameEntity, Edited.ofRun_rename, Design.renameEntity_eq_ite]

/-- Every edit is a step. -/
theorem Edit.step_perform (edit : Edit) (d : Design) (s : σ) :
    Step edit.givenName d (edit.perform analyze d s).value := by
  cases edit with
  | addEntity name x y =>
    rw [perform_addEntity]
    exact getD_of_forall_mem .refl fun _ => step_addEntity
  | removeEntity name =>
    rw [perform_removeEntity]
    exact getD_of_forall_mem .refl fun _ => step_removeEntity
  | renameEntity current new =>
    rw [perform_renameEntity]
    exact getD_of_forall_mem .refl fun _ => step_renameEntity
  | within index change =>
    cases h : d.entities[index]? with
    | none =>
      rw [perform, h]
      exact .refl
    | some e =>
      rw [perform, h]
      exact .inner h (change.name_perform e s) (change.naming_perform e s)

/-- An edit is refused as `Refused` says. -/
theorem Edit.refused_iff (edit : Edit) (d : Design) (s : σ) :
    (edit.perform analyze d s).refused = true ↔ edit.Refused d := by
  cases edit with
  | addEntity name x y =>
    rw [perform_addEntity, Design.map_addEntity]
    by_cases used : sanitize name ∈ d.entityNames
    · exact iff_of_true (by simp [Edited.ofOption, used]) used
    · exact iff_of_false (by simp [Edited.ofOption, used]) used
  | removeEntity name =>
    rw [perform_removeEntity, Design.map_removeEntity, Refused, ← d.isSome_entityIndex?_iff]
    simp [Edited.ofOption]
  | renameEntity current new =>
    rw [perform_renameEntity, Design.renameEntity_eq_ite]
    exact isNone_rename_iff d.isSome_entityIndex?_iff
  | within index change =>
    cases h : d.entities[index]? with
    | none => simp [perform, Refused, h]
    | some e => simp [perform, Refused, h, change.refused_iff]

/-- An edit that is refused changes nothing and asks nothing. -/
theorem Edit.perform_of_refused {edit : Edit} {d : Design} {s : σ}
    (refused : (edit.perform analyze d s).refused = true) :
    edit.perform analyze d s = ⟨d, s, true⟩ := by
  cases edit with
  | addEntity | removeEntity | renameEntity =>
    simp only [perform_addEntity, perform_removeEntity, perform_renameEntity] at refused ⊢
    exact Edited.ofOption_of_refused refused
  | within index change =>
    cases h : d.entities[index]? with
    | none => simp [perform, h]
    | some e =>
      simp only [perform, h] at refused ⊢
      rw [Change.perform_of_refused refused, set_of_getElem? h]

end
end Editing
end EntityDesign
