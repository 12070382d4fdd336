import EntityDesign.CommandLine.Plan
import EntityDesign.Proofs.Ensures
import EntityDesign.Proofs.Reconciliation.Session

/-! What commands plan: a command that has a target plans to save what it made of it, all others
only tell something. -/
namespace EntityDesign.CommandLine

/-- The file that a command is about to change. -/
def Command.target? : Command → Option String
  | addEntity document .. | addQuery document .. | editQuery document .. | refresh document ..
  | deleteQuery document .. => some document
  | connections registry (.add ..) | connections registry (.update ..) => some registry
  | procedures .. | describe .. | check .. | validate _ | connections _ .list => none

/-- The ways in which a command can go that does not fail. -/
inductive Planned (v : View) : Command → Plan → Prop
  | told {c : Command} {p : Plan} (targetless : c.target? = none)
      (quiet : p.ending = .done ∨ ∃ message, p.ending = .failed message) : Planned v c p
  | entityAdded {document name : String} {x y : Int32} {d d' : Design} {e : Entity}
      (design : v.design document = .ok d) (added : d.addEntity name x y = .ok (e, d')) :
    Planned v (.addEntity document name x y)
      { ending := saveDesign d' document ("Added entity '" ++ e.name ++ "'.\n") }
  | queryAdded {document entity : String} {draft : Draft} {yes : Bool} {o : ConnectionOptions}
      {f : Format} {d : Design} {e : Entity} {db : Database (Option Sqlite.Schema)}
      {report : ChangeReport} {asked : Option Question} (design : v.design document = .ok d)
      (found : d.findEntity entity = .ok e) (database : v.database d o = .ok db)
      (result : (Reconciliation.add db.analyze draft (v.agrees yes) e none).result =
        .ok (report, asked)) (accepted : report.accepted = true) :
    Planned v (.addQuery document entity draft yes o f) {
      output := report.format f
      prompt := if yes then "" else (asked.map promptFor).getD ""
      ending := saveDesign (d.setEntity entity
        (Reconciliation.add db.analyze draft (v.agrees yes) e none).entity) document "" }
  /-- The columns of the entity do not give way, and nothing is saved. -/
  | queryDeclined {document entity : String} {draft : Draft} {yes : Bool} {o : ConnectionOptions}
      {f : Format} {d : Design} {e : Entity} {db : Database (Option Sqlite.Schema)}
      {report : ChangeReport} {asked : Option Question} (design : v.design document = .ok d)
      (found : d.findEntity entity = .ok e) (database : v.database d o = .ok db)
      (result : (Reconciliation.add db.analyze draft (v.agrees yes) e none).result =
        .ok (report, asked)) (refused : report.accepted = false) :
    Planned v (.addQuery document entity draft yes o f) {
      output := report.format f
      prompt := if yes then "" else (asked.map promptFor).getD "" }
  | queryEdited {document entity query : String} {change : Change} {o : ConnectionOptions}
      {f : Format} {d : Design} {e : Entity} {q : Query} {db : Database (Option Sqlite.Schema)}
      {report : ChangeReport} (design : v.design document = .ok d)
      (found : d.findEntity entity = .ok e) (hq : e.query? query = some q)
      (database : v.database d o = .ok db)
      (result : (Reconciliation.edit db.analyze query (change.draft q) e none).result =
        .ok report) :
    Planned v (.editQuery document entity query change o f) {
      output := report.format f
      ending := saveDesign (d.setEntity entity
        (Reconciliation.edit db.analyze query (change.draft q) e none).entity) document "" }
  | queryRefreshed {document entity query : String} {o : ConnectionOptions} {f : Format}
      {d : Design} {e : Entity} {db : Database (Option Sqlite.Schema)} {report : ChangeReport}
      (design : v.design document = .ok d) (found : d.findEntity entity = .ok e)
      (database : v.database d o = .ok db)
      (result : (Reconciliation.refresh db.analyze query e none).result = .ok report) :
    Planned v (.refresh document entity (some query) o f) {
      output := report.format f
      ending := saveDesign (d.setEntity entity
        (Reconciliation.refresh db.analyze query e none).entity) document "" }
  | entityRefreshed {document entity : String} {o : ConnectionOptions} {f : Format} {d : Design}
      {e : Entity} {db : Database (Option Sqlite.Schema)} (design : v.design document = .ok d)
      (found : d.findEntity entity = .ok e) (database : v.database d o = .ok db) :
    Planned v (.refresh document entity none o f) {
      output := (Reconciliation.refreshAll db.analyze e none).report.format f
      ending := saveDesign (d.setEntity entity
        (Reconciliation.refreshAll db.analyze e none).entity) document "" }
  | queryDeleted {document entity query : String} {d : Design} {e : Entity} {q : Query}
      {output : String} (design : v.design document = .ok d) (found : d.findEntity entity = .ok e)
      (result : (Reconciliation.delete query e ()).result = .ok q) :
    Planned v (.deleteQuery document entity query) {
      ending := saveDesign (d.setEntity entity (Reconciliation.delete query e ()).entity) document
        output }
  | connectionAdded {registry name value : String} {r : Registry} {output : String}
      (read : v.registry registry = .ok r) (free : r.get? name = none) :
    Planned v (.connections registry (.add name value))
      { output, ending := saveRegistry (r.add name value) registry }
  | connectionUpdated {registry name value : String} {r : Registry} {output : String}
      (read : v.registry registry = .ok r) (known : (r.get? name).isSome = true) :
    Planned v (.connections registry (.update name value))
      { output, ending := saveRegistry (r.update name value) registry }

theorem Ensures.ofEdit {α : Type} {x : Except EditError α} :
    Ensures (ofEdit x) fun a => x = .ok a := Ensures.self.mapError

section
variable {v : View} {document entity query name : String} {o : ConnectionOptions} {f : Format}

theorem planned_procedures {path : Option String} :
    Ensures (planProcedures v path o f) (Planned v (.procedures path o f)) := by
  refine Ensures.trivial.bind fun d _ => Ensures.trivial.bind fun db _ => ?_
  exact Ensures.trivial.bind fun names _ => .pure (.told rfl (.inl rfl))

theorem planned_describe {command : String} {kind : CommandKind} {path : Option String} :
    Ensures (planDescribe v command kind path o f)
      (Planned v (.describe command kind path o f)) := by
  refine Ensures.trivial.bind fun d _ => Ensures.trivial.bind fun db _ => ?_
  exact Ensures.trivial.bind fun signature _ => .pure (.told rfl (.inl rfl))

theorem planned_check {command : String} {kind : CommandKind} {firstOnly : Bool} :
    Ensures (planCheck v document entity command kind firstOnly o f)
      (Planned v (.check document entity command kind firstOnly o f)) := by
  refine Ensures.trivial.bind fun d _ => Ensures.trivial.bind fun e _ => ?_
  refine Ensures.trivial.bind fun db _ => Ensures.trivial.bind fun signature _ => ?_
  dsimp only
  split
  · exact .pure (.told rfl (.inl rfl))
  · exact .pure (.told rfl (.inr ⟨_, rfl⟩))

theorem planned_validate : Ensures (planValidate v document) (Planned v (.validate document)) := by
  refine Ensures.trivial.bind fun d _ => ?_
  dsimp only
  split
  · exact .pure (.told rfl (.inl rfl))
  · exact .pure (.told rfl (.inr ⟨_, rfl⟩))

theorem planned_addEntity {x y : Int32} :
    Ensures (planAddEntity v document name x y) (Planned v (.addEntity document name x y)) := by
  refine Ensures.self.bind fun d design => Ensures.ofEdit.bind fun p added => ?_
  exact .pure (.entityAdded design added)

theorem planned_addQuery {draft : Draft} {yes : Bool} :
    Ensures (planAddQuery v document entity draft yes o f)
      (Planned v (.addQuery document entity draft yes o f)) := by
  refine Ensures.self.bind fun d design => Ensures.ofEdit.bind fun e found => ?_
  refine Ensures.self.bind fun db database => Ensures.ofEdit.bind fun p result => ?_
  obtain ⟨report, asked⟩ := p
  cases accepted : report.accepted with
  | true =>
    have way := Planned.queryAdded (o := o) (f := f) design found database result accepted
    exact .pure (by simpa [accepted] using way)
  | false =>
    have way := Planned.queryDeclined (o := o) (f := f) design found database result accepted
    exact .pure (by simpa [accepted] using way)

theorem planned_editQuery {change : Change} :
    Ensures (planEditQuery v document entity query change o f)
      (Planned v (.editQuery document entity query change o f)) := by
  refine Ensures.self.bind fun d design => Ensures.ofEdit.bind fun e found => ?_
  dsimp only
  split
  · exact .throw
  · rename_i q hq
    refine Ensures.self.bind fun db database => Ensures.ofEdit.bind fun report result => ?_
    exact .pure (.queryEdited design found hq database result)

theorem planned_refresh {query : Option String} :
    Ensures (planRefresh v document entity query o f)
      (Planned v (.refresh document entity query o f)) := by
  refine Ensures.self.bind fun d design => Ensures.ofEdit.bind fun e found => ?_
  refine Ensures.self.bind fun db database => ?_
  cases query with
  | some query =>
    dsimp only
    generalize hrefreshed : Reconciliation.refresh db.analyze query e none = refreshed
    have step : Ensures ((ofEdit refreshed.result).map (·, refreshed.entity)) fun p =>
        refreshed.result = .ok p.1 ∧ refreshed.entity = p.2 :=
      .map (Ensures.ofEdit.imp fun report result => ⟨result, rfl⟩)
    refine step.bind fun p hp => ?_
    obtain ⟨report, e'⟩ := p
    obtain ⟨result, rfl⟩ := hp
    subst hrefreshed
    exact .pure (.queryRefreshed design found database result)
  | none => exact .pure (.entityRefreshed design found database)

theorem planned_deleteQuery : Ensures (planDeleteQuery v document entity query)
    (Planned v (.deleteQuery document entity query)) := by
  refine Ensures.self.bind fun d design => Ensures.ofEdit.bind fun e found => ?_
  refine Ensures.ofEdit.bind fun q result => ?_
  exact .pure (.queryDeleted design found result)

theorem planned_connections {registry : String} {action : RegistryAction} :
    Ensures (planConnections v registry action) (Planned v (.connections registry action)) := by
  refine Ensures.self.bind fun r read => ?_
  cases action with
  | list => exact .pure (.told rfl (.inl rfl))
  | add name value =>
    dsimp only
    split
    · exact .throw
    · rename_i free
      exact .pure (.connectionAdded read (by simpa using free))
  | update name value =>
    dsimp only
    split
    · exact .throw
    · rename_i known
      exact .pure (.connectionUpdated read (by simpa [Option.isSome_iff_ne_none] using known))

end

/-- Every command that does not fail goes one of these ways. -/
theorem planned (v : View) (c : Command) : Ensures (c.plan v) (Planned v c) := by
  cases c with
  | procedures => exact planned_procedures
  | describe => exact planned_describe
  | check => exact planned_check
  | validate => exact planned_validate
  | addEntity => exact planned_addEntity
  | addQuery => exact planned_addQuery
  | editQuery => exact planned_editQuery
  | refresh => exact planned_refresh
  | deleteQuery => exact planned_deleteQuery
  | connections => exact planned_connections

end EntityDesign.CommandLine
