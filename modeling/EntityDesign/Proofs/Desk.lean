import EntityDesign.Proofs.Directory
import EntityDesign.Proofs.Document.Comparison
import EntityDesign.Storage

/-! Storing and reloading the design at hand. What is stored is loaded as it is stored, whatever
else lies in the directory, and work that fails leaves the desk as it was: the text of a design is
complete before its file is touched, and a reload is certain of the new design before it takes the
override off the old one. -/
namespace EntityDesign

namespace Work
variable {α β : Type} (k : Desk)

/-- Work goes on only after a success, at the desk as it was left. -/
theorem run_bind (w : Work α) (f : α → Work β) : (w >>= f).run k =
    match w.run k with
    | (.ok a, k) => (f a).run k
    | (.error e, k) => (.error e, k) := by
  unfold Work.run ExceptT.run StateT.run
  simp only [bind, ExceptT.bind, ExceptT.mk, StateT.bind, ExceptT.bindCont]
  rcases w k with ⟨_ | _, k'⟩ <;> rfl

theorem run_get : (get : Work Desk).run k = (.ok k, k) := rfl

theorem run_modify (f : Desk → Desk) : (modify f : Work Unit).run k = (.ok (), f k) := rfl

theorem run_ofExcept (x : Except StorageError α) : (ofExcept x : Work α).run k = (x, k) := by
  cases x <;> rfl

end Work

namespace Design

/-- Why a path gives no design. -/
inductive Unloadable (dir : Directory) (path : String) : StorageError → Prop
  | unreadable {e : FileError} (there : e ≠ .missing) (h : dir.read path = .error e) :
    Unloadable dir path (.file e)
  | noText {c : Content} (other : ∀ text, c ≠ .text text) (h : dir.read path = .ok c) :
    Unloadable dir path (.file .invalidText)
  | malformed {text : String} {fault : DocumentFault} (h : dir.read path = .ok (.text text))
      (refused : read text = .error fault) : Unloadable dir path (.document fault)

/-- Every failure to load a design is of one of these kinds, and each of them is one. -/
theorem load_eq_error_iff (dir : Directory) (path : String) (e : StorageError) :
    load dir path = .error e ↔ Unloadable dir path e := by
  constructor
  · intro h
    rw [load, ofFile] at h
    cases hread : dir.read path with
    | error f =>
      cases f <;> simp only [hread, Except.bind, reduceCtorEq] at h <;> cases h <;>
        exact .unreadable (by simp) hread
    | ok c =>
      cases c with
      | text s =>
        simp only [hread, Except.bind, Content.asText] at h
        cases hdesign : read s with
        | ok d => simp [hdesign, Except.mapError] at h
        | error fault =>
          simp only [hdesign, Except.mapError, Except.error.injEq] at h
          subst h
          exact .malformed hread hdesign
      | binary | database =>
        simp only [hread, Except.bind, Content.asText, Except.error.injEq] at h
        subst h
        exact .noText (by simp) hread
  · rintro (⟨there, h⟩ | ⟨other, h⟩ | ⟨h, refused⟩)
    · rename_i f
      cases f <;> simp_all [load, ofFile, Except.bind]
    · rename_i c
      cases c <;> simp_all [load, ofFile, Except.bind, Content.asText]
    · simp [load, ofFile, h, Except.bind, Content.asText, refused, Except.mapError]

theorem load_of_missing {dir : Directory} {path : String} (h : dir.read path = .error .missing) :
    load dir path = .ok {} := by
  simp [load, ofFile, h, Except.bind]

theorem load_of_text {dir : Directory} {path text : String} {d : Design}
    (h : dir.read path = .ok (.text text)) (hread : read text = .ok d) :
    load dir path = .ok d := by
  simp [load, ofFile, h, Except.bind, Content.asText, hread, Except.mapError]

end Design

namespace Desk

theorem run_save (path : String) (k : Desk) : (save path).run k =
    match k.design.write with
    | .error fault => (.error (.document fault), k)
    | .ok text =>
      match k.directory.write path (.text text) with
      | .error e => (.error (.file e), k)
      | .ok directory => (.ok (), { k with directory }) := by
  simp only [save, Work.run_bind, Work.run_get, Work.run_ofExcept, Work.run_modify]
  cases k.design.write with
  | error fault => rfl
  | ok text =>
    dsimp only [Except.mapError]
    cases k.directory.write path (.text text) <;> rfl

theorem run_reload (path : String) (k : Desk) : (reload path).run k =
    match Design.load k.directory path with
    | .error e => (.error e, k)
    | .ok fresh => (.ok (), { k with design := { fresh with override := k.design.override } }) := by
  simp only [reload, Work.run_bind, Work.run_get, Work.run_ofExcept, Work.run_modify]
  cases Design.load k.directory path <;> rfl

theorem run_save_eq_ok_iff (path : String) (k k' : Desk) :
    (save path).run k = (.ok (), k') ↔ k'.design = k.design ∧ ∃ text, k.design.write = .ok text ∧
      k.directory.write path (.text text) = .ok k'.directory := by
  rw [run_save]
  cases hwrite : k.design.write with
  | error fault => simp
  | ok text =>
    cases hfile : k.directory.write path (.text text) with
    | error e => simp [hfile]
    | ok directory =>
      obtain ⟨design, directory'⟩ := k'
      simp [hfile, eq_comm]

theorem eq_of_run_save_eq_error {path : String} {k k' : Desk} {e : StorageError}
    (h : (save path).run k = (.error e, k')) : k' = k := by
  rw [run_save] at h
  cases hwrite : k.design.write with
  | error fault =>
    simp only [hwrite, Prod.mk.injEq] at h
    exact h.2.symm
  | ok text =>
    simp only [hwrite] at h
    cases hfile : k.directory.write path (.text text) with
    | error e =>
      simp only [hfile, Prod.mk.injEq] at h
      exact h.2.symm
    | ok directory => simp [hfile] at h

theorem run_reload_eq_error_iff (path : String) (k k' : Desk) (e : StorageError) :
    (reload path).run k = (.error e, k') ↔ k' = k ∧ Design.Unloadable k.directory path e := by
  rw [run_reload, ← Design.load_eq_error_iff]
  cases Design.load k.directory path with
  | error f => simp [and_comm, eq_comm]
  | ok fresh => simp

/-- After the design at hand was stored, its file gives it as it is stored. -/
theorem load_of_run_save {path : String} {k k' : Desk} (h : (save path).run k = (.ok (), k')) :
    Design.load k'.directory path = .ok k.design.stored := by
  obtain ⟨-, text, hwrite, hfile⟩ := (run_save_eq_ok_iff path k k').1 h
  exact Design.load_of_text (Directory.replaced_of_write hfile).holds (Design.read_of_write hwrite)

/-- Storing the design at hand replaces one file, from which any other design is reloaded as the
stored one with its own override. A design that cannot be written is not stored, and whatever fails
leaves the desk as it was. A reload fails exactly where the path gives no design; without a file it
gives a new design. -/
theorem save_reload_exact (k : Desk) (path : String) :
    (∀ k', (save path).run k = (.ok (), k') →
      k'.design = k.design ∧
      (∃ text, k.design.write = .ok text ∧ k.directory.Replaced path (.text text) k'.directory) ∧
      Design.load k'.directory path = .ok k.design.stored ∧
      ∀ other : Design, (reload path).run { k' with design := other } =
        (.ok (), { k' with design := { k.design.stored with override := other.override } })) ∧
    (∀ fault, k.design.write = .error fault → (save path).run k = (.error (.document fault), k)) ∧
    (∀ e k', (save path).run k = (.error e, k') → k' = k) ∧
    (∀ e k', (reload path).run k = (.error e, k') ↔
      k' = k ∧ Design.Unloadable k.directory path e) ∧
    (k.directory.read path = .error .missing → (reload path).run k =
      (.ok (), { k with design := { override := k.design.override } })) := by
  refine ⟨fun k' h => ?_, fun fault h => ?_, fun e k' => eq_of_run_save_eq_error,
    fun e k' => run_reload_eq_error_iff path k k' e, fun h => ?_⟩
  · obtain ⟨same, text, hwrite, hfile⟩ := (run_save_eq_ok_iff path k k').1 h
    have hload := load_of_run_save h
    refine ⟨same, ⟨text, hwrite, Directory.replaced_of_write hfile⟩, hload, fun other => ?_⟩
    rw [run_reload, hload]
  · rw [run_save, h]
  · rw [run_reload, Design.load_of_missing h]

/-- A desk with a file beside the design. -/
def sampleDesk : Desk where
  design := Design.sample
  directory := ⟨[(["notes.txt"], .file (.text "keep"))]⟩

/-- The design is stored, the file beside it stays, and a design with an override of its own is
reloaded as the stored one. -/
theorem save_reload_sample :
    (save "model.xml").run sampleDesk = (.ok (), { sampleDesk with
      directory := sampleDesk.directory.put ["model.xml"]
        (.file (.text Design.sample.markup.render)) }) ∧
    ∃ k', (save "model.xml").run sampleDesk = (.ok (), k') ∧
      k'.directory.read "notes.txt" = .ok (.text "keep") ∧
      (reload "model.xml").run { k' with design := { override := some "own" } } =
        (.ok (), { k' with design := { Design.sample.stored with override := some "own" } }) := by
  have hwrite : Design.sample.write = .ok Design.sample.markup.render :=
    Design.write_of_writable (by decide +kernel)
  have hplace : sampleDesk.directory.place "model.xml" = .ok ["model.xml"] := by decide +kernel
  have saved : (save "model.xml").run sampleDesk = (.ok (), { sampleDesk with
      directory := sampleDesk.directory.put ["model.xml"]
        (.file (.text Design.sample.markup.render)) }) := by
    refine (run_save_eq_ok_iff ..).2 ⟨rfl, _, hwrite, ?_⟩
    exact (Directory.write_eq_ok_iff ..).2 ⟨["model.xml"], hplace, by decide, rfl⟩
  obtain ⟨-, ⟨text, -, hfile⟩, -, hreload⟩ := (save_reload_exact sampleDesk "model.xml").1 _ saved
  have other : sampleDesk.directory.place "notes.txt" ≠ sampleDesk.directory.place "model.xml" := by
    decide +kernel
  exact ⟨saved, _, saved, (hfile.files "notes.txt" other _).2 (by decide +kernel), hreload _⟩

end Desk
end EntityDesign
