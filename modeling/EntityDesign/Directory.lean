import EntityDesign.Sqlite.Image
import EntityDesign.Sqlite.Schema

/-! A directory with the files and folders below it. -/
namespace EntityDesign

/-- What a file holds. -/
inductive Content where
  | text (s : String)
  /-- Bytes that are no UTF-8. -/
  | binary (bytes : List UInt8)
  | database (tables : List Sqlite.Table)
  deriving DecidableEq, Repr

def Content.ofBytes (b : ByteArray) : Content :=
  match Sqlite.Image.tables? b, String.fromUTF8? b with
  | some tables, _ => .database tables
  | none, some s => .text s
  | none, none => .binary b.toList

/-- What a directory may hold at a place. -/
inductive Entry where
  | folder
  | file (content : Content)
  deriving DecidableEq, Repr

/-- Why a file cannot be used. -/
inductive FileError where
  | missing
  | notFolder
  | isFolder
  | invalidText
  | other (reason : String)
  deriving DecidableEq, Repr

def FileError.message : FileError → String
  | missing => "No such file or directory (os error 2)"
  | notFolder => "Not a directory (os error 20)"
  | isFolder => "Is a directory (os error 21)"
  | invalidText => "stream did not contain valid UTF-8"
  | other reason => reason

def Content.asText : Content → Except FileError String
  | text s => .ok s
  | _ => .error .invalidText

/-- Opens the database `text`, given what reading its file gave. A file that holds something else is
noticed only when it is used; an empty one is a database without tables. -/
def Sqlite.openFile (text : String) (r : Except FileError Content) :
    Except Sqlite.OpenError Sqlite.Schema :=
  match r with
  | .ok (.database tables) => .ok (.tables tables)
  | .ok (.text "") => .ok (.tables [])
  | .ok _ => .ok .notADatabase
  | .error .isFolder => .error .unreadable
  | .error _ => .error (.missing text)

/-- A place in a directory by the names that lead to it; `[]` is the directory itself. -/
abbrev Place := List String

/-- The entries of a directory by their places. -/
structure Directory where
  entries : List (Place × Entry) := []
  deriving DecidableEq, Repr

namespace Directory

def entryAt (d : Directory) (p : Place) : Option Entry :=
  if p = [] then some .folder else d.entries.lookup p

/-- Puts an entry at a place in a list of entries. -/
def putEntry (p : Place) (e : Entry) : List (Place × Entry) → List (Place × Entry)
  | [] => [(p, e)]
  | (q, f) :: rest => if q = p then (p, e) :: rest else (q, f) :: putEntry p e rest

def put (d : Directory) (p : Place) (e : Entry) : Directory := ⟨putEntry p e d.entries⟩

/-- The names in a path. -/
def names (path : String) : List String := (path.toList.splitOn '/').map String.ofList

/-- What a path finds that leads out of the directory, given the names that follow there. Around
the directory there are only folders, known by no name. -/
def outside (rest : List String) : FileError :=
  if rest.all ["", ".", ".."].contains then .isFolder else .missing

/-- Follows names from a place. All but the last must lead to folders; the last may be free. -/
def walk (d : Directory) (p : Place) : List String → Except FileError Place
  | [] => .ok p
  | name :: rest =>
    match d.entryAt p with
    | none => .error .missing
    | some (.file _) => .error .notFolder
    | some .folder =>
      if name = "" ∨ name = "." then walk d p rest
      else if name = ".." then if p = [] then .error (outside rest) else walk d p.dropLast rest
      else walk d (p ++ [name]) rest

/-- The place of a path. Absolute paths lie outside. -/
def place (d : Directory) (path : String) : Except FileError Place :=
  if path.toList.head? = some '/' then .error (outside (names path)) else d.walk [] (names path)

def contentAt (d : Directory) (p : Place) : Except FileError Content :=
  match d.entryAt p with
  | none => .error .missing
  | some .folder => .error .isFolder
  | some (.file content) => .ok content

def read (d : Directory) (path : String) : Except FileError Content := d.place path >>= d.contentAt

/-- Replaces a file or makes it. Its folder must exist. -/
def write (d : Directory) (path : String) (content : Content) : Except FileError Directory := do
  let p ← d.place path
  match d.entryAt p with
  | some .folder => .error .isFolder
  | _ => .ok (d.put p (.file content))

/-- Makes the folders that names lead to from a place, as far as they are missing. -/
def makeFoldersAt (d : Directory) (p : Place) : List String → Directory
  | [] => d
  | name :: rest =>
    if name = "" ∨ name = "." then makeFoldersAt d p rest
    else
      let p := p ++ [name]
      makeFoldersAt (if (d.entryAt p).isNone then d.put p .folder else d) p rest

def makeFolders (d : Directory) (path : String) : Directory := d.makeFoldersAt [] (names path)

/-- Follows names by their text alone: a name and `..` behind it cancel. -/
def textWalk (p : Place) : List String → Except FileError Place
  | [] => .ok p
  | name :: rest =>
    if name = "" ∨ name = "." then textWalk p rest
    else if name = ".." then if p = [] then .error (outside rest) else textWalk p.dropLast rest
    else textWalk (p ++ [name]) rest

def readDatabase (d : Directory) (path : String) : Except FileError Content :=
  if path.toList.head? = some '/' then .error .missing
  else textWalk [] (names path) >>= d.contentAt

def openDatabase (d : Directory) (text : String) : Except Sqlite.OpenError Sqlite.Schema := do
  match ← Sqlite.Location.read text with
  | .memory => return .tables []
  | .file path => Sqlite.openFile text (d.readDatabase path)

/-- The database that a connection string names. -/
def database (d : Directory) (connection : String) : Database (Option Sqlite.Schema) :=
  Sqlite.database d.openDatabase connection

end Directory
end EntityDesign
