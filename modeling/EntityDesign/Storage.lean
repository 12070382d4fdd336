import EntityDesign.Directory
import EntityDesign.Document.Reader
import EntityDesign.Document.Writer
import EntityDesign.Registry.Reader
import EntityDesign.Registry.Writer

/-! Designs and registries in the files of a directory. -/
namespace EntityDesign

inductive StorageError where
  | file (e : FileError)
  | document (e : DocumentFault)
  | registry (e : RegistryError)
  deriving DecidableEq, Repr

def StorageError.message : StorageError → String
  | file e => "I/O error: " ++ e.message
  | document e => e.message
  | registry e => "YAML error: " ++ e.message

namespace Design

/-- The design in a file, given what reading the file gave. A missing file stands for a new
design. -/
def ofFile (r : Except FileError Content) : Except StorageError Design :=
  match r.bind (·.asText) with
  | .ok text => (read text).mapError .document
  | .error .missing => .ok {}
  | .error e => .error (.file e)

def load (dir : Directory) (path : String) : Except StorageError Design := ofFile (dir.read path)

end Design

/-- A design at hand, and the directory with its files. -/
structure Desk where
  design : Design
  directory : Directory
  deriving DecidableEq, Repr

/-- Work at a desk. What was done before a failure stays done. -/
abbrev Work := ExceptT StorageError (StateM Desk)

def Work.run {α : Type} (w : Work α) (k : Desk) : Except StorageError α × Desk :=
  StateT.run (ExceptT.run w) k

namespace Desk

def takeOverride : Work (Option String) :=
  modifyGet fun k => (k.design.override, { k with design := { k.design with override := none } })

/-- Replaces the design at hand by the one in a file, to which the override moves. -/
def reload (path : String) : Work Unit := do
  let fresh ← ofExcept (Design.load (← get).directory path)
  let override ← takeOverride
  modify fun k => { k with design := { fresh with override } }

/-- Stores the design at hand. A design that cannot be written touches no file. -/
def save (path : String) : Work Unit := do
  let text ← ofExcept ((← get).design.write.mapError StorageError.document)
  let directory ← ofExcept (((← get).directory.write path (.text text)).mapError StorageError.file)
  modify fun k => { k with directory }

end Desk

namespace Design

/-- The design that a reload leaves in the place of `d`. -/
def reload (d : Design) (dir : Directory) (path : String) : Except StorageError Design :=
  let (result, desk) := (Desk.reload path).run ⟨d, dir⟩
  result.map fun _ => desk.design

/-- The directory that is left by storing `d`. -/
def save (d : Design) (path : String) (dir : Directory) : Except StorageError Directory :=
  let (result, desk) := (Desk.save path).run ⟨d, dir⟩
  result.map fun _ => desk.directory

end Design

namespace Registry

/-- The registry in a file, given what reading the file gave. -/
def ofFile (r : Except FileError Content) : Except StorageError Registry :=
  match r with
  | .ok (.text s) => (read (Text.dropMark s.toList)).mapError .registry
  | .ok (.binary bytes) => (readBytes bytes).mapError .registry
  | .ok (.database _) => .error (.registry .encoding)
  | .error .isFolder => .error (.registry .unreadable)
  | .error e => .error (.file e)

/-- As `ofFile`; a missing file stands for an empty registry. -/
def ofFileOrEmpty (r : Except FileError Content) : Except StorageError Registry :=
  match ofFile r with
  | .error (.file .missing) => .ok .empty
  | r => r

def load (dir : Directory) (path : String) : Except StorageError Registry := ofFile (dir.read path)

def loadOrEmpty (dir : Directory) (path : String) : Except StorageError Registry :=
  ofFileOrEmpty (dir.read path)

def save (r : Registry) (path : String) (dir : Directory) : Except StorageError Directory :=
  (dir.write path (.text r.write)).mapError .file

end Registry
end EntityDesign
