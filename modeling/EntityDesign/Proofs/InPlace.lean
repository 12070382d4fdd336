import EntityDesign.Design

/-! What edits in place leave. An edit that is refused leaves what it found, and any other one
leaves the new value. -/
namespace EntityDesign
open Identifier

theorem run_rename {α : Type} (index? : α → String → Option Nat) (put : α → Nat → String → α)
    (current new : String) (a : α) : (rename index? put current new).run a =
      if sanitize new = current ∨ (index? a (sanitize new)).isSome = true then (false, a)
      else
        match index? a current with
        | none => (false, a)
        | some i => (true, put a i (sanitize new)) := by
  simp only [rename, StateT.run_bind, StateT.run_get, pure_bind]
  split
  · rfl
  · cases index? a current <;> rfl

namespace Entity

theorem InPlace.run_addQuery (q : Query) (e : Entity) : (addQuery q).run e =
    if (e.queryIndex? q.name).isSome = true then (.error (.duplicateQuery e.name q.name), e)
    else (.ok (), { e with queries := e.queries ++ [q] }) := by
  simp only [addQuery, StateT.run_bind, StateT.run_get, pure_bind]
  split <;> rfl

theorem InPlace.run_removeQuery (index : Nat) (e : Entity) : (removeQuery index).run e =
    match e.queries[index]? with
    | none => (none, e)
    | some q => (some q, dropOrphanedColumns { e with queries := e.queries.eraseIdx index }) := by
  simp only [removeQuery, StateT.run_bind, StateT.run_get, pure_bind]
  cases e.queries[index]? <;> rfl

theorem addQuery_eq_ite (e : Entity) (q : Query) : e.addQuery q =
    if (e.queryIndex? q.name).isSome = true then .error (.duplicateQuery e.name q.name)
    else .ok { e with queries := e.queries ++ [q] } := by
  simp only [addQuery, InPlace.run_addQuery]
  split <;> rfl

theorem removeQuery_eq_map (e : Entity) (index : Nat) : e.removeQuery index =
    e.queries[index]?.map fun q =>
      (q, dropOrphanedColumns { e with queries := e.queries.eraseIdx index }) := by
  simp only [removeQuery, InPlace.run_removeQuery]
  cases e.queries[index]? <;> rfl

theorem renameQuery_eq_ite (e : Entity) (current new : String) : e.renameQuery current new =
    if sanitize new = current ∨ (e.queryIndex? (sanitize new)).isSome = true then none
    else (e.queryIndex? current).map fun i =>
      e.modifyQuery i fun q => { q with name := sanitize new } := by
  simp only [renameQuery, InPlace.renameQuery, run_rename]
  split
  · rfl
  · cases e.queryIndex? current <;> rfl

end Entity

namespace Design

theorem InPlace.run_addEntity (name : String) (x y : Int32) (d : Design) :
    (addEntity name x y).run d =
      if (d.entityIndex? (sanitize name)).isSome = true then
        (.error (.duplicateEntity (sanitize name)), d)
      else
        (.ok { Entity.named name with x, y },
          { d with entities := d.entities ++ [{ Entity.named name with x, y }] }) := by
  simp only [addEntity, StateT.run_bind, StateT.run_get, pure_bind]
  change StateT.run (if (d.entityIndex? (sanitize name)).isSome = true then _ else _) d = _
  split <;> rfl

theorem InPlace.run_removeEntity (name : String) (d : Design) : (removeEntity name).run d =
    match d.entityIndex? name with
    | none => (none, d)
    | some i => (d.entities[i]?, { d with entities := d.entities.eraseIdx i }) := by
  simp only [removeEntity, StateT.run_bind, StateT.run_get, pure_bind]
  cases d.entityIndex? name <;> rfl

theorem addEntity_eq_ite (d : Design) (name : String) (x y : Int32) : d.addEntity name x y =
    if (d.entityIndex? (sanitize name)).isSome = true then
      .error (.duplicateEntity (sanitize name))
    else .ok ({ Entity.named name with x, y },
      { d with entities := d.entities ++ [{ Entity.named name with x, y }] }) := by
  simp only [addEntity, InPlace.run_addEntity]
  split <;> rfl

theorem removeEntity_eq_bind (d : Design) (name : String) : d.removeEntity name =
    (d.entityIndex? name).bind fun i =>
      d.entities[i]?.map (·, { d with entities := d.entities.eraseIdx i }) := by
  simp only [removeEntity, InPlace.run_removeEntity]
  cases d.entityIndex? name <;> rfl

theorem renameEntity_eq_ite (d : Design) (current new : String) : d.renameEntity current new =
    if sanitize new = current ∨ (d.entityIndex? (sanitize new)).isSome = true then none
    else (d.entityIndex? current).map fun i =>
      { d with entities := d.entities.modify i fun e => { e with name := sanitize new } } := by
  simp only [renameEntity, InPlace.renameEntity, run_rename]
  split
  · rfl
  · cases d.entityIndex? current <;> rfl

end Design
end EntityDesign
