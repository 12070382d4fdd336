import EntityDesign.Text.Digits
import EntityDesign.Text.Encoding

/-! Where a database is found: in memory, in a file, or where a URI of the scheme `file` says.
Databases are only read, and none is made. -/
namespace EntityDesign.Sqlite

inductive Location where
  /-- No file: a database without tables. -/
  | memory
  | file (path : String)
  deriving DecidableEq, Repr

/-- Why a database cannot be opened. -/
inductive OpenError where
  | noPath
  | missing (path : String)
  | unreadable
  | zeroByte (position : Nat)
  | authority (text : String)
  | unknownMode (kind mode : String)
  | forbiddenMode (mode : String)
  | unknownSystem (name : String)
  deriving DecidableEq, Repr

def OpenError.message : OpenError → String
  | noPath => "connection string names no database"
  | missing path => "unable to open database file: " ++ path
  | unreadable => "disk I/O error"
  | zeroByte position => "nul byte found in provided data at position: " ++ toString position
  | authority text => "invalid uri authority: " ++ text
  | unknownMode kind mode => "no such " ++ kind ++ " mode: " ++ mode
  | forbiddenMode mode => "access mode not allowed: " ++ mode
  | unknownSystem name => "no such vfs: " ++ name

namespace Location

/-- The bytes of a part of a URI. A percent sign and two hexadecimal digits stand for a byte; a
zero byte ends the part. -/
def bytes : List Char → List UInt8
  | [] => []
  | '%' :: a :: b :: cs =>
    match Text.number? 16 [a, b] with
    | some 0 => []
    | some n => UInt8.ofNat n :: bytes cs
    | none => String.utf8EncodeChar '%' ++ bytes (a :: b :: cs)
  | c :: cs => String.utf8EncodeChar c ++ bytes cs

def part? (s : List Char) : Option String := Text.ofUtf8? (bytes s)

def part (s : List Char) : String := (part? s).getD ""

/-- The name and the value of an option. -/
def option (s : List Char) : String × String :=
  (part (s.takeWhile (· != '=')), part ((s.dropWhile (· != '=')).drop 1))

/-- The options behind the path of a URI. -/
def options (s : List Char) : List (String × String) :=
  ((((s.dropWhile (· != '?')).drop 1).splitOn '&').map option).filter (·.1 != "")

/-- What follows the authority, which says nothing or `localhost`. -/
def skipAuthority (s : List Char) : Except OpenError (List Char) :=
  match s with
  | '/' :: '/' :: s =>
    let authority := String.ofList (s.takeWhile (· != '/'))
    if authority = "" ∨ authority = "localhost" then .ok (s.dropWhile (· != '/'))
    else .error (.authority authority)
  | s => .ok s

/-- What an option says about access: whether the database is in memory from there on. -/
def access (inMemory : Bool) : String × String → Except OpenError Bool
  | ("mode", mode) =>
    if mode = "memory" then .ok true
    else if mode = "ro" then .ok false
    else if mode = "rw" ∨ mode = "rwc" then
      if inMemory then .ok false else .error (.forbiddenMode mode)
    else .error (.unknownMode "access" mode)
  | ("cache", mode) =>
    if mode = "shared" ∨ mode = "private" then .ok inMemory else .error (.unknownMode "cache" mode)
  | _ => .ok inMemory

/-- The systems that keep databases in files. -/
def fileSystems : List String := ["unix", "unix-none", "unix-dotfile", "unix-excl"]

/-- Whether the last system that is named keeps databases in memory. -/
def systemInMemory (options : List (String × String)) : Except OpenError Bool :=
  match (options.filter (·.1 == "vfs")).getLast? with
  | none => .ok false
  | some (_, name) =>
    if fileSystems.contains name then .ok false
    else if name = "memdb" then .ok true
    else .error (.unknownSystem name)

def ofPath (path : String) : Location :=
  if path = "" ∨ path = ":memory:" then memory else file path

/-- The place that the URI `uri` with the text `s` behind its scheme stands for. -/
def ofUri (uri : String) (s : List Char) : Except OpenError Location := do
  let s := (← skipAuthority s).takeWhile (· != '#')
  let options := options s
  let inMemory ← options.foldlM access false
  if (← systemInMemory options) || inMemory then return memory
  else
    match part? (s.takeWhile (· != '?')) with
    | some path => return ofPath path
    | none => throw (.missing uri)

/-- The place that a text stands for. -/
def read (text : String) : Except OpenError Location :=
  if text.toList.contains '\x00' then
    .error (.zeroByte (String.ofList (text.toList.takeWhile (· != '\x00'))).utf8ByteSize)
  else
    match text.toList with
    | 'f' :: 'i' :: 'l' :: 'e' :: ':' :: s => ofUri text s
    | _ => .ok (ofPath text)

end Location
end EntityDesign.Sqlite
