import EntityDesign.Proofs.CommandLine.Target
import EntityDesign.Proofs.Desk
import EntityDesign.Proofs.Document.NormalForm

/-! What a run does to its document. A command on a query takes one entity out of the document and
puts it back by name, and the connection string that was given for the run stays with the run. So
the document that is written differs from the one that was read in that entity only. -/
namespace EntityDesign

namespace Design

/-- What is loaded has nothing that is not stored. -/
theorem stored_of_load {dir : Directory} {path : String} {d : Design}
    (h : load dir path = .ok d) : d.stored = d := by
  rw [load, ofFile] at h
  split at h
  · rename_i text _
    cases hread : read text with
    | error fault => simp [hread, Except.mapError] at h
    | ok d' =>
      simp only [hread, Except.mapError, Except.ok.injEq] at h
      subst h
      exact (writable_of_read hread).2
  · cases h
    rfl
  · cases h

/-- The first entity of a name, with its index. -/
theorem exists_of_findEntity {d : Design} {name : String} {e : Entity}
    (h : d.findEntity name = .ok e) :
    ∃ i, d.entityIndex? name = some i ∧ d.entities[i]? = some e ∧ e.name = name := by
  have found : d.entity? name = some e := by
    rw [findEntity] at h
    split at h
    · cases h
      assumption
    · cases h
  exact exists_of_find?_key found

theorem stored_setEntity {d : Design} (h : d.stored = d) {name : String} {i : Nat}
    (hi : d.entityIndex? name = some i) (e : Entity) :
    (d.setEntity name e).stored = { d with entities := d.entities.set i e.stored } := by
  have hentities : d.entities.map (·.stored) = d.entities := congrArg Design.entities h
  have hoverride : d.override = none := (congrArg Design.override h).symm
  simp [setEntity, hi, stored, List.map_set, hentities, hoverride]

theorem stored_addEntity {d d' : Design} (h : d.stored = d) {name : String} {x y : Int32}
    {e : Entity} (added : d.addEntity name x y = .ok (e, d')) : d'.stored = { d with
      entities := d.entities ++ [{ name := Identifier.sanitize name, x, y }] } := by
  have hentities : d.entities.map (·.stored) = d.entities := congrArg Design.entities h
  have hoverride : d.override = none := (congrArg Design.override h).symm
  rw [addEntity_eq_ite] at added
  split at added
  · cases added
  · cases added
    simp only [stored, List.map_append, hentities, hoverride]
    rfl

end Design

namespace CommandLine

theorem design_of_load {d : Directory} {document : String} {m : Design}
    {connect : String → Database (Option Sqlite.Schema)} {input : String}
    (loads : Design.load d document = .ok m) :
    View.design ⟨d.read, connect, input⟩ document = .ok m := by
  have hfile : Design.ofFile (d.read document) = .ok m := loads
  rw [View.design, hfile]
  rfl

/-- The document of a command on the queries of an entity, and the name of the entity. -/
def Command.edited? : Command → Option (String × String)
  | addQuery document entity .. | editQuery document entity .. | refresh document entity ..
  | deleteQuery document entity .. => some (document, entity)
  | procedures .. | describe .. | check .. | validate _ | addEntity .. | connections .. => none

theorem place_delete {σ : Type} (query : String) (e : Entity) (s : σ) :
    (Reconciliation.delete query e s).entity.place = e.place :=
  Reconciliation.place_perform (fun _ _ s => (.error .emptyCommand, s)) (.delete query) e s

/-- A command on queries puts one entity back where it was, or saves nothing. -/
theorem Planned.confined {v : View} {c : Command} {p : Plan} {document name : String}
    (h : Planned v c p) (edits : c.edited? = some (document, name)) :
    ∃ d e, v.design document = .ok d ∧ d.findEntity name = .ok e ∧ (p.ending = .done ∨
      ∃ e' output, e'.place = e.place ∧
        p.ending = saveDesign (d.setEntity name e') document output) := by
  cases h with
  | @told c _ targetless => cases c <;> simp_all [Command.target?, Command.edited?]
  | entityAdded | connectionAdded | connectionUpdated => cases edits
  | queryDeclined design found =>
    cases edits
    exact ⟨_, _, design, found, .inl rfl⟩
  | queryAdded design found =>
    cases edits
    exact ⟨_, _, design, found, .inr ⟨_, _, Reconciliation.place_perform _ (.add ..) _ _, rfl⟩⟩
  | queryEdited design found =>
    cases edits
    exact ⟨_, _, design, found, .inr ⟨_, _, Reconciliation.place_perform _ (.edit ..) _ _, rfl⟩⟩
  | queryRefreshed design found =>
    cases edits
    exact ⟨_, _, design, found, .inr ⟨_, _, Reconciliation.place_perform _ (.refresh _) _ _, rfl⟩⟩
  | entityRefreshed design found =>
    cases edits
    exact ⟨_, _, design, found, .inr ⟨_, _, Reconciliation.place_perform _ .refreshAll _ _, rfl⟩⟩
  | queryDeleted design found =>
    cases edits
    exact ⟨_, _, design, found, .inr ⟨_, _, place_delete _ _ _, rfl⟩⟩

/-- What was saved by a plan is what its document gives afterwards. -/
theorem load_carryOut {p : Plan} {d : Directory} {design : Design} {document output : String}
    (saves : p.ending = saveDesign design document output) (success : (p.carryOut d).exit = 0) :
    Design.load (p.carryOut d).directory document = .ok design.stored := by
  cases hwrite : design.write with
  | error fault => simp [Plan.carryOut, saves, saveDesign, hwrite] at success
  | ok text =>
    cases hfile : d.write document (.text text) with
    | error e => simp [Plan.carryOut, saves, saveDesign, hwrite, hfile] at success
    | ok d' =>
      have hcarry : (p.carryOut d).directory = d' := by
        simp [Plan.carryOut, saves, saveDesign, hwrite, hfile]
      rw [hcarry]
      exact Design.load_of_text (Directory.replaced_of_write hfile).holds
        (Design.read_of_write hwrite)

/-- A run that succeeds on a document that can be loaded leaves one in which all is as before but
for the first entity of the name that was given, which keeps its name and position; or which has one
new entity at its end. -/
theorem edits_confined {connect : String → Database (Option Sqlite.Schema)} {args : List String}
    {input : String} {d : Directory} {c : Command} {document : String} {m : Design}
    (hread : Command.read args = .ok c) (loads : Design.load d document = .ok m)
    (success : (runWith connect args input d).exit = 0) :
    m.override = none ∧
    (∀ name, c.edited? = some (document, name) → ∃ i e e', m.entityIndex? name = some i ∧
      m.entities[i]? = some e ∧ (e'.name, e'.x, e'.y) = (name, e.x, e.y) ∧
      Design.load (runWith connect args input d).directory document =
        .ok { m with entities := m.entities.set i e' }) ∧
    (∀ name x y, c = .addEntity document name x y →
      Design.load (runWith connect args input d).directory document = .ok { m with
        entities := m.entities ++ [{ name := Identifier.sanitize name, x, y }] }) := by
  have stored := Design.stored_of_load loads
  have design : View.design ⟨d.read, connect, input⟩ document = .ok m := design_of_load loads
  rcases runWith_of_read connect input d hread with ⟨message, failed⟩ | ⟨p, hp, same⟩
  · rw [failed] at success
    cases success
  · rw [same] at success ⊢
    refine ⟨(congrArg Design.override stored).symm, fun name edits => ?_, fun name x y adds => ?_⟩
    · obtain ⟨d', e, design', found, saved⟩ := hp.confined edits
      cases design.symm.trans design'
      obtain ⟨i, hi, he, named⟩ := Design.exists_of_findEntity found
      rcases saved with done | ⟨e', output, place, saves⟩
      · refine ⟨i, e, e, hi, he, by rw [named], ?_⟩
        obtain ⟨hlen, rfl⟩ := List.getElem?_eq_some_iff.1 he
        rw [List.set_getElem_self]
        simpa [Plan.carryOut, done] using loads
      · refine ⟨i, e, e'.stored, hi, he, ?_, ?_⟩
        · rw [← named]
          exact place
        · rw [load_carryOut saves success, Design.stored_setEntity stored hi]
    · subst adds
      cases hp with
      | told targetless => cases targetless
      | entityAdded design' added =>
        cases design.symm.trans design'
        rw [load_carryOut rfl success, Design.stored_addEntity stored added]

/-- A plan whose design can be written, at a place where a file may stand, succeeds. -/
theorem exit_carryOut {p : Plan} {d : Directory} {design : Design} {document output : String}
    {place : Place} (saves : p.ending = saveDesign design document output)
    (writable : design.markup.unwritable? = none) (hplace : d.place document = .ok place)
    (nofolder : d.entryAt place ≠ some .folder) : (p.carryOut d).exit = 0 := by
  have hwrite := Design.write_of_writable writable
  have hfile := (Directory.write_eq_ok_iff d document (.text design.markup.render) _).2
    ⟨place, hplace, nofolder, rfl⟩
  simp [Plan.carryOut, saves, saveDesign, hwrite, hfile]

/-- A database that no one can connect to. -/
def unreachable : Database (Option Sqlite.Schema) where
  connect s := (.error "down", s)
  routines s := (.error "down", s)
  parameters _ s := (.error "down", s)
  describe _ _ _ s := (.error "down", s)

/-- A directory with nothing but a document. -/
def alone (m : Design) : Directory := ⟨[(["model.xml"], .file (.text m.markup.render))]⟩

theorem place_alone (m : Design) : (alone m).place "model.xml" = .ok ["model.xml"] := rfl

theorem load_alone {m : Design} (stored : m.stored = m) (writable : m.markup.unwritable? = none) :
    Design.load (alone m) "model.xml" = .ok m := by
  have hread : Design.read m.markup.render = .ok m := by
    rw [Design.read_of_write (Design.write_of_writable writable), stored]
  have hfile : (alone m).read "model.xml" = .ok (.text m.markup.render) :=
    (Directory.read_eq_ok_iff ..).2 ⟨["model.xml"], place_alone m, rfl⟩
  exact Design.load_of_text hfile hread

/-- Two entities of one name. -/
def twins : Design where
  entities := [
    { name := "Item", x := 1, queries := [
      { name := "Load", command := "SELECT 1", kind := .text, execution := .reader }] },
    { name := "Item", y := 2, queries := [
      { name := "Load", command := "SELECT 2", kind := .text, execution := .scalar }] }]

def flaggedTwin : Entity where
  name := "Item"
  x := 1
  queries := [{
    name := "Load", command := "SELECT 1", kind := .text, execution := .reader, showError := true }]

def twinsDirectory : Directory := ⟨[(["model.xml"], .file (.text twins.markup.render))]⟩

def refreshItem : List String :=
  ["refresh", "model.xml", "--entity", "Item", "--connection", "app.db"]

theorem load_twins : Design.load twinsDirectory "model.xml" = .ok twins :=
  load_alone rfl (by decide +kernel)

def refreshCommand : Command :=
  .refresh "model.xml" "Item" none ⟨some "app.db", "connections.yaml"⟩ .table

theorem plan_twins : ∃ output,
    refreshCommand.plan ⟨twinsDirectory.read, fun _ => unreachable, ""⟩ = .ok {
      output, ending := saveDesign (twins.setEntity "Item" flaggedTwin) "model.xml" "" } := by
  simp only [refreshCommand, Command.plan, planRefresh, design_of_load load_twins]
  exact ⟨_, rfl⟩

/-- The second twin and the connection of the document stay as they are. -/
theorem edits_confined_twins :
    (runWith (fun _ => unreachable) refreshItem "" twinsDirectory).exit = 0 ∧
    ∃ e', (e'.name, e'.x, e'.y) = ("Item", 1, 0) ∧
      Design.load (runWith (fun _ => unreachable) refreshItem "" twinsDirectory).directory
        "model.xml" = .ok { twins with entities := twins.entities.set 0 e' } := by
  have hread : Command.read refreshItem = .ok refreshCommand := by decide +kernel
  have success : (runWith (fun _ => unreachable) refreshItem "" twinsDirectory).exit = 0 := by
    obtain ⟨output, hplan⟩ := plan_twins
    have writable : (twins.setEntity "Item" flaggedTwin).markup.unwritable? = none := by
      decide +kernel
    have hplace : twinsDirectory.place "model.xml" = .ok ["model.xml"] := by decide +kernel
    rw [runWith_eq hread hplan]
    exact exit_carryOut rfl writable hplace
      (by simp [twinsDirectory, Directory.entryAt])
  obtain ⟨i, e, e', hi, he, place, hload⟩ :=
    (edits_confined hread load_twins success).2.1 "Item" rfl
  cases hi
  cases he
  exact ⟨success, e', place, hload⟩

end CommandLine
end EntityDesign
