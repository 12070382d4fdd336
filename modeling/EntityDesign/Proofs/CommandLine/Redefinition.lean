import EntityDesign.Proofs.CommandLine.Confinement

/-! What an edit of a query on the command line leaves as it was. A part of the query that is not
asked for stays, with one exception: the name is sanitized like a new one, so a name that is no
identifier gives way, unless the entity has a query of the sanitized name. -/
namespace EntityDesign
open Identifier

namespace Reconciliation
variable {σ : Type} (analyze : Analyzer σ)

/-- An edit redefines its query, and the definitions of the others stay. -/
theorem map_definition_edit {e : Entity} {name : String} {i : Nat} {q : Query} (draft : Draft)
    (found : e.queryIndex? name = some i) (hq : e.queries[i]? = some q) (s : σ) :
    (edit analyze name draft e s).entity.queries.map (·.definition) =
      (e.queries.map (·.definition)).set i
        (draft.redefine (e.queryIndex? (sanitize draft.name)).isSome q).definition := by
  obtain ⟨hi, -⟩ := List.getElem?_eq_some_iff.1 hq
  rw [edit_eq analyze draft found hq, refreshOne]
  rw [map_refreshQueryAt analyze false (List.getElem?_set_self hi) (·.definition)
    Query.definition_mark Query.definition_renew]
  exact List.map_set

end Reconciliation

theorem Entity.exists_of_query? {e : Entity} {name : String} {q : Query}
    (h : e.query? name = some q) :
    ∃ i, e.queryIndex? name = some i ∧ e.queries[i]? = some q ∧ q.name = name :=
  exists_of_find?_key h

namespace CommandLine

namespace Change

/-- What a change makes of a query, among queries of these names. -/
def definition (c : Change) (names : List String) (q : Query) :
    String × String × CommandKind × Execution :=
  let name := sanitize (c.name.getD q.name)
  (if name ∈ names then q.name else name, c.command.getD q.command, c.kind.getD q.kind,
    c.execution.getD q.execution)

theorem definition_redefine (c : Change) (e : Entity) (q : Query) :
    ((c.draft q).redefine (e.queryIndex? (sanitize (c.draft q).name)).isSome q).definition =
      c.definition e.queryNames q := by
  simp only [Query.definition, Draft.redefine, definition, e.isSome_queryIndex?_iff]
  rfl

/-- What the change does not mention is as before. -/
structure Spares (c : Change) (before after : Query) : Prop where
  name : c.name = none → after.name = before.name
  command : c.command = none → after.command = before.command
  kind : c.kind = none → after.kind = before.kind
  execution : c.execution = none → after.execution = before.execution

/-- Only the name may change without being mentioned, if sanitizing makes a new one of it. -/
theorem spares_iff {c : Change} {names : List String} {q q' : Query} (known : q.name ∈ names)
    (changed : q'.definition = c.definition names q) :
    c.Spares q q' ↔ (c.name = none → sanitize q.name ∈ names) := by
  simp only [Query.definition, definition, Prod.mk.injEq] at changed
  obtain ⟨name, command, kind, execution⟩ := changed
  constructor
  · intro spared silent
    rw [silent, Option.getD_none, spared.name silent] at name
    by_contra free
    rw [if_neg free] at name
    exact free (name ▸ known)
  · intro taken
    refine ⟨fun silent => ?_, fun silent => ?_, fun silent => ?_, fun silent => ?_⟩
    · rw [name, silent, Option.getD_none, if_pos (taken silent)]
    · rw [command, silent, Option.getD_none]
    · rw [kind, silent, Option.getD_none]
    · rw [execution, silent, Option.getD_none]

end Change

section
variable {connect : String → Database (Option Sqlite.Schema)} {args : List String} {input : String}
  {d : Directory} {document entity query : String} {change : Change} {o : ConnectionOptions}
  {f : Format} {m : Design}

/-- An edit of a query that is there succeeds if the document can be written. -/
theorem exit_editQuery {e : Entity} {q : Query} {db : Database (Option Sqlite.Schema)}
    {place : Place}
    (hread : Command.read args = .ok (.editQuery document entity query change o f))
    (loads : Design.load d document = .ok m) (found : m.findEntity entity = .ok e)
    (hq : e.query? query = some q)
    (database : View.database ⟨d.read, connect, input⟩ m o = .ok db)
    (writable : (m.setEntity entity (Reconciliation.edit db.analyze query (change.draft q) e
      none).entity).markup.unwritable? = none)
    (hplace : d.place document = .ok place) (nofolder : d.entryAt place ≠ some .folder) :
    (runWith connect args input d).exit = 0 := by
  obtain ⟨i, hi, hqi, -⟩ := Entity.exists_of_query? hq
  obtain ⟨report, result⟩ : ∃ report,
      (Reconciliation.edit db.analyze query (change.draft q) e none).result = .ok report := by
    rw [Reconciliation.edit_eq _ _ hi hqi]
    exact ⟨_, rfl⟩
  have hplan : (Command.editQuery document entity query change o f).plan
      ⟨d.read, connect, input⟩ = .ok {
        output := report.format f
        ending := saveDesign (m.setEntity entity
          (Reconciliation.edit db.analyze query (change.draft q) e none).entity) document "" } := by
    simp [Command.plan, planEditQuery, findEntity, ofEdit, design_of_load loads, found, hq,
      database, result, Except.mapError, bind, Except.bind, pure, Except.pure]
  rw [runWith_eq hread hplan]
  exact exit_carryOut rfl writable hplace nofolder

/-- A run that edits a query and succeeds changes the definition of that query in its document, and
of no other query. -/
theorem definitions_editQuery
    (hread : Command.read args = .ok (.editQuery document entity query change o f))
    (loads : Design.load d document = .ok m) (success : (runWith connect args input d).exit = 0) :
    ∃ k e i q e', m.entityIndex? entity = some k ∧ m.entities[k]? = some e ∧
      e.queryIndex? query = some i ∧ e.queries[i]? = some q ∧
      Design.load (runWith connect args input d).directory document =
        .ok { m with entities := m.entities.set k e' } ∧
      e'.queries.map (·.definition) =
        (e.queries.map (·.definition)).set i (change.definition e.queryNames q) := by
  have design : View.design ⟨d.read, connect, input⟩ document = .ok m := design_of_load loads
  rcases runWith_of_read connect input d hread with ⟨message, failed⟩ | ⟨p, hp, same⟩
  · rw [failed] at success
    cases success
  · rw [same] at success ⊢
    cases hp with
    | told targetless => cases targetless
    | @queryEdited _ _ _ _ _ _ _ e q db _ design' found hq =>
      cases design.symm.trans design'
      obtain ⟨k, hk, he, -⟩ := Design.exists_of_findEntity found
      obtain ⟨i, hi, hq, -⟩ := Entity.exists_of_query? hq
      let edited := Reconciliation.edit db.analyze query (change.draft q) e none
      refine ⟨k, e, i, q, edited.entity.stored, hk, he, hi, hq, ?_, ?_⟩
      · rw [load_carryOut rfl success, Design.stored_setEntity (Design.stored_of_load loads) hk]
      · rw [← Change.definition_redefine, ← Reconciliation.map_definition_edit _ _ hi hq,
          Entity.stored, List.map_map]
        rfl

/-- A run that edits a query and succeeds makes the change that it was asked for, and touches no
other query. It spares what it was not asked to change exactly if it was given a name or the name
of the query, once sanitized, is the name of a query of the entity. -/
theorem editQuery_spares_iff
    (hread : Command.read args = .ok (.editQuery document entity query change o f))
    (loads : Design.load d document = .ok m) (success : (runWith connect args input d).exit = 0) :
    ∃ k e i q e' q', m.entityIndex? entity = some k ∧ m.entities[k]? = some e ∧
      e.queryIndex? query = some i ∧ e.queries[i]? = some q ∧
      Design.load (runWith connect args input d).directory document =
        .ok { m with entities := m.entities.set k e' } ∧
      e'.queries[i]? = some q' ∧
      e'.queries.map (·.definition) =
        (e.queries.map (·.definition)).set i (change.definition e.queryNames q) ∧
      (change.Spares q q' ↔ (change.name = none → sanitize q.name ∈ e.queryNames)) := by
  obtain ⟨k, e, i, q, e', hk, he, hi, hq, saved, definitions⟩ :=
    definitions_editQuery hread loads success
  have changed : (e'.queries.map (·.definition))[i]? = some (change.definition e.queryNames q) := by
    rw [definitions, List.getElem?_set_self]
    simpa using (List.getElem?_eq_some_iff.1 hq).1
  rw [List.getElem?_map, Option.map_eq_some_iff] at changed
  obtain ⟨q', hq', changed⟩ := changed
  have known : q.name ∈ e.queryNames := List.mem_map_of_mem (List.mem_of_getElem? hq)
  exact ⟨k, e, i, q, e', q', hk, he, hi, hq, saved, hq', definitions,
    Change.spares_iff known changed⟩

end

def getAll : Query where
  name := "get all"
  command := "SELECT 1"
  kind := .text
  execution := .reader

def getSome : Query where
  name := "GetSome"
  command := "SELECT 2"
  kind := .text
  execution := .reader

/-- An entity with a query whose name is no identifier, and one whose name is. -/
def spaced : Design where
  entities := [{ name := "Item", queries := [getAll, getSome] }]

def makeScalar (query : String) : List String :=
  ["edit-query", "model.xml", "--entity", "Item", "--query", query, "--execute-method", "scalar",
    "--connection", "app.db"]

def scalarOnly : Change := ⟨none, none, none, some .scalar⟩

def makeScalarCommand (query : String) : Command :=
  .editQuery "model.xml" "Item" query scalarOnly ⟨some "app.db", "connections.yaml"⟩ .table

theorem load_spaced : Design.load (alone spaced) "model.xml" = .ok spaced :=
  load_alone rfl (by decide +kernel)

theorem exit_makeScalar {e : Entity} {q : Query} {query : String}
    (hread : Command.read (makeScalar query) = .ok (makeScalarCommand query))
    (found : spaced.findEntity "Item" = .ok e) (hq : e.query? query = some q)
    (writable : (spaced.setEntity "Item" (Reconciliation.edit
      ((alone spaced).database "app.db").analyze query (scalarOnly.draft q) e
      none).entity).markup.unwritable? = none) :
    (run (makeScalar query) "" (alone spaced)).exit = 0 :=
  exit_editQuery hread load_spaced found hq rfl writable (place_alone spaced)
    (by simp [alone, Directory.entryAt])

/-- The edited query keeps its name. -/
theorem editQuery_spares_getSome : ∃ e' q',
    Design.load (run (makeScalar "GetSome") "" (alone spaced)).directory "model.xml" =
      .ok { spaced with entities := [e'] } ∧
    e'.queries[1]? = some q' ∧ scalarOnly.Spares getSome q' := by
  have hread : Command.read (makeScalar "GetSome") = .ok (makeScalarCommand "GetSome") := by
    decide +kernel
  have success := exit_makeScalar hread rfl rfl (by decide +kernel)
  obtain ⟨k, e, i, q, e', q', hk, he, hi, hq, saved, hq', -, spared⟩ :=
    editQuery_spares_iff hread load_spaced success
  cases hk
  cases he
  cases hi
  cases hq
  exact ⟨e', q', saved, hq', spared.2 fun _ => by decide +kernel⟩

/-- The query whose name is no identifier is renamed, though no name was asked for. -/
theorem not_spares_getAll :
    Design.load (alone spaced) "model.xml" = .ok spaced ∧
    Command.read (makeScalar "get all") = .ok (makeScalarCommand "get all") ∧
    (run (makeScalar "get all") "" (alone spaced)).exit = 0 ∧
    ∃ e' q', Design.load (run (makeScalar "get all") "" (alone spaced)).directory "model.xml" =
        .ok { spaced with entities := [e'] } ∧
      e'.queries[0]? = some q' ∧ q'.name = "get_all" ∧ ¬ scalarOnly.Spares getAll q' := by
  have hread : Command.read (makeScalar "get all") = .ok (makeScalarCommand "get all") := by
    decide +kernel
  have success := exit_makeScalar hread rfl rfl (by decide +kernel)
  obtain ⟨k, e, i, q, e', hk, he, hi, hq, saved, definitions⟩ :=
    definitions_editQuery hread load_spaced success
  cases hk
  cases he
  cases hi
  cases hq
  refine ⟨load_spaced, hread, success, e', ?_⟩
  have renamed : (scalarOnly.definition ["get all", "GetSome"] getAll).1 = "get_all" := by
    decide +kernel
  match hqs : e'.queries with
  | [] => simp [hqs] at definitions
  | q' :: rest =>
    simp only [hqs, List.map_cons, List.set_cons_zero, List.cons.injEq] at definitions
    have name : q'.name = "get_all" := (congrArg Prod.fst definitions.1).trans renamed
    refine ⟨q', saved, rfl, name, fun spared => ?_⟩
    have kept : q'.name = "get all" := spared.name rfl
    exact absurd (name.symm.trans kept) (by decide)

end CommandLine
end EntityDesign
