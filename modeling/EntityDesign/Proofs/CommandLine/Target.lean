import EntityDesign.CommandLine.Run
import EntityDesign.Proofs.CommandLine.Plan
import EntityDesign.Proofs.Directory

/-! What a run does to its directory. A plan writes one file at most, and does so last; so a run
that fails has written nothing, and one that succeeds has replaced the target of its command at
most.

Two things about the directory are not proved, since types carry them. That the one write comes
after all that can fail is the shape of a `Plan`, whose ending alone writes. That asking a database
leaves the directory alone is the type of `View.connect`. -/
namespace EntityDesign.CommandLine

theorem saveDesign_eq_write {d : Design} {path output output' : String} {file : NewFile}
    (h : saveDesign d path output = .write file output') :
    file.path = path ∧ d.write = .ok file.text := by
  rw [saveDesign] at h
  cases hwrite : d.write with
  | error fault => simp [hwrite] at h
  | ok text =>
    simp only [hwrite, Ending.write.injEq] at h
    obtain ⟨rfl, -⟩ := h
    exact ⟨rfl, rfl⟩

/-- A plan writes the target of its command or nothing. -/
theorem Planned.target {v : View} {c : Command} {p : Plan} {file : NewFile} {output : String}
    (h : Planned v c p) (writes : p.ending = .write file output) :
    c.target? = some file.path := by
  cases h with
  | told _ quiet => rcases quiet with quiet | ⟨message, quiet⟩ <;> cases quiet.symm.trans writes
  | queryDeclined => cases writes
  | entityAdded | queryAdded | queryEdited | queryRefreshed | entityRefreshed | queryDeleted =>
    exact congrArg some (saveDesign_eq_write writes).1.symm
  | connectionAdded | connectionUpdated =>
    cases writes
    rfl

/-- A plan that is carried out writes its file, or leaves the directory. -/
theorem carryOut_cases (p : Plan) (d : Directory) :
    (p.carryOut d).directory = d ∨ (p.carryOut d).exit = 0 ∧ ∃ file output,
      p.ending = .write file output ∧
        d.write file.path (.text file.text) = .ok (p.carryOut d).directory := by
  rw [Plan.carryOut]
  cases hp : p.ending with
  | done | failed => exact .inl rfl
  | write file output =>
    cases hfile : d.write file.path (.text file.text) with
    | error e => exact .inl (by simp [hfile])
    | ok d' => exact .inr ⟨by simp [hfile], file, output, rfl, by simp [hfile]⟩

theorem runWith_eq {connect : String → Database (Option Sqlite.Schema)} {args : List String}
    {input : String} {d : Directory} {c : Command} {p : Plan} (hread : Command.read args = .ok c)
    (hplan : c.plan ⟨d.read, connect, input⟩ = .ok p) :
    runWith connect args input d = p.carryOut d := by
  simp [runWith, hread, hplan]

/-- A run that got as far as a command carries out one of its plans or has failed before. -/
theorem runWith_of_read (connect : String → Database (Option Sqlite.Schema)) {args : List String}
    (input : String) (d : Directory) {c : Command} (hread : Command.read args = .ok c) :
    (∃ message, runWith connect args input d = ⟨1, "", failure message, d⟩) ∨
      ∃ p, Planned ⟨d.read, connect, input⟩ c p ∧
        runWith connect args input d = p.carryOut d := by
  cases hplan : c.plan ⟨d.read, connect, input⟩ with
  | error message => exact .inl ⟨message, by simp [runWith, hread, hplan]⟩
  | ok p => exact .inr ⟨p, planned _ c p hplan, runWith_eq hread hplan⟩

/-- The addition of a query was declined: the report on it says so. -/
inductive Declined (v : View) : Command → ChangeReport → Prop
  | intro {document entity : String} {draft : Draft} {yes : Bool} {o : ConnectionOptions}
      {f : Format} {d : Design} {e : Entity} {db : Database (Option Sqlite.Schema)}
      {report : ChangeReport} {asked : Option Question} (design : v.design document = .ok d)
      (found : d.findEntity entity = .ok e) (database : v.database d o = .ok db)
      (result : (Reconciliation.add db.analyze draft (v.agrees yes) e none).result =
        .ok (report, asked)) (refused : report.accepted = false) :
    Declined v (.addQuery document entity draft yes o f) report

theorem Declined.plan_eq {v : View} {c : Command} {report : ChangeReport}
    (h : Declined v c report) : ∃ p, c.plan v = .ok p ∧ p.ending = .done := by
  cases h with
  | @intro _ _ _ yes _ f _ _ _ _ asked design found database result refused =>
    refine ⟨{
      output := report.format f
      prompt := if yes then "" else (asked.map promptFor).getD "" }, ?_, rfl⟩
    simp [Command.plan, planAddQuery, findEntity, ofEdit, design, found, database, result, refused,
      Except.mapError, bind, Except.bind, pure, Except.pure]

/-- Whatever the databases answer and the user types: a run that fails leaves its directory, and one
that succeeds replaces the target of its command at most. Without a target, and after an addition
that was declined, nothing changes.

The first part rests on the order of effects that the type `Plan` prescribes: the one write comes
last. All parts rest on the type of `connect`: to ask a database is no change of the directory.
SQLite may still make its own files `-wal` and `-shm` beside a database in WAL mode, which no
command asks for and which are not told of here. -/
theorem runWith_spares (connect : String → Database (Option Sqlite.Schema)) (args : List String)
    (input : String) (d : Directory) :
    ((runWith connect args input d).exit ≠ 0 → (runWith connect args input d).directory = d) ∧
    ((runWith connect args input d).directory = d ∨ ∃ c path text, Command.read args = .ok c ∧
      c.target? = some path ∧
        d.Replaced path (.text text) (runWith connect args input d).directory) ∧
    (∀ c, Command.read args = .ok c → c.target? = none →
      (runWith connect args input d).directory = d) ∧
    (∀ c report, Command.read args = .ok c → Declined ⟨d.read, connect, input⟩ c report →
      (runWith connect args input d).exit = 0 ∧ (runWith connect args input d).directory = d) := by
  generalize hr : runWith connect args input d = r
  have ran : r.directory = d ∨ r.exit = 0 ∧ ∃ c path text, Command.read args = .ok c ∧
      c.target? = some path ∧ d.Replaced path (.text text) r.directory := by
    cases hread : Command.read args with
    | error refusal =>
      subst hr
      cases refusal <;> exact .inl (by simp [runWith, hread])
    | ok c =>
      rcases runWith_of_read connect input d hread with
        ⟨message, failed⟩ | ⟨p, hp, same⟩
      · exact .inl (by rw [← hr, failed])
      · rw [← hr, same]
        refine (carryOut_cases p d).imp_right fun ⟨success, file, output, writes, written⟩ => ?_
        exact ⟨success, c, file.path, file.text, rfl, hp.target writes,
          Directory.replaced_of_write written⟩
  refine ⟨fun failed => ?_, ran.imp_right (·.2), fun c hread targetless => ?_,
    fun c report hread declined => ?_⟩
  · exact ran.resolve_right fun success => failed success.1
  · refine ran.resolve_right fun ⟨_, c', path, text, hread', target, _⟩ => ?_
    cases hread.symm.trans hread'
    simp [targetless] at target
  · obtain ⟨p, hplan, done⟩ := declined.plan_eq
    rw [← hr, runWith_eq hread hplan]
    simp [Plan.carryOut, done]

/-- A directory with a file that no command is about. -/
def notesOnly : Directory := ⟨[(["notes.txt"], .file (.text "keep"))]⟩

def addItem : List String := ["add-entity", "model.xml", "Item"]

/-- The document is made, and the other file is kept. -/
theorem runWith_spares_addItem : (run addItem "" notesOnly).directory ≠ notesOnly ∧
    ∃ text, notesOnly.Replaced "model.xml" (.text text) (run addItem "" notesOnly).directory := by
  have moved : (run addItem "" notesOnly).directory ≠ notesOnly := by decide +kernel
  have hread : Command.read addItem = .ok (.addEntity "model.xml" "Item" 0 0) := by decide +kernel
  have changed := (runWith_spares notesOnly.database addItem "" notesOnly).2.1
  obtain ⟨c, path, text, hc, target, replaced⟩ := changed.resolve_left moved
  cases hread.symm.trans hc
  cases target
  exact ⟨moved, text, replaced⟩

end EntityDesign.CommandLine
