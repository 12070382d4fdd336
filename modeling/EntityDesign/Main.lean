import EntityDesign.CommandLine.Run

/-! The command line. -/
namespace EntityDesign.CommandLine

/-- The cause of a failure. System codes come with either sign. -/
def fileError : IO.Error → FileError
  | .noFileOrDirectory .. => .missing
  | .inappropriateType _ code _ =>
    if code = 20 ∨ code = 0 - 20 then .notFolder else .isFolder
  | e => .other (toString e)

def readFile (path : String) : IO (Except FileError Content) := do
  try return .ok (.ofBytes (← IO.FS.readBinFile path))
  catch e => return .error (fileError e)

def openDatabase (text : String) : IO (Except Sqlite.OpenError Sqlite.Schema) := do
  match Sqlite.Location.read text with
  | .error e => return .error e
  | .ok .memory => return .ok (.tables [])
  | .ok (.file path) => return Sqlite.openFile text (← readFile path)

/-- Prints a plan and writes its file. -/
def perform (p : Plan) : IO UInt32 := do
  IO.print p.output
  match p.ending with
  | .done => return 0
  | .failed message =>
    IO.eprint (failure message)
    return 1
  | .write file output =>
    try IO.FS.writeFile file.path file.text
    catch e =>
      IO.eprint (failure (file.refusal ++ (StorageError.file (fileError e)).message))
      return 1
    IO.print output
    return 0

/-- Puts the question of a plan to the user and plans again with the answer. -/
def ask (first : Plan) (plan : String → Except String Plan) : IO Plan := do
  if first.prompt = "" then return first
  else
    IO.eprint first.prompt
    let answer ← (← IO.getStdin).getLine
    return (plan answer).toOption.getD first

def runCommand (c : Command) : IO UInt32 := do
  let files ← c.files.mapM fun path => return (path, ← readFile path)
  let read := fun path => (files.lookup path).getD (.error .missing)
  let missing := Sqlite.database fun text => .error (.missing text)
  let database := (c.database? ⟨read, missing, ""⟩).getD ""
  let schema ← openDatabase database
  let plan := fun input => c.plan ⟨read, Sqlite.database fun _ => schema, input⟩
  match plan "" with
  | .ok first => perform (← ask first plan)
  | .error message =>
    IO.eprint (failure message)
    return 1

def start (args : List String) : IO UInt32 := do
  match Command.read args with
  | .ok c => runCommand c
  | .error .help =>
    IO.print usage
    return 0
  | .error .usage =>
    IO.eprint usage
    return 2

end EntityDesign.CommandLine

def main (args : List String) : IO UInt32 := EntityDesign.CommandLine.start args
