import EntityDesign.CommandLine.Plan

/-! Running commands in a directory. -/
namespace EntityDesign.CommandLine

/-- How a run ends: the exit code, the texts that were printed and the directory. -/
structure Result where
  exit : Nat
  output : String
  errors : String
  directory : Directory
  deriving DecidableEq, Repr

def usage : String :=
  "usage: COMMAND [OPTIONS]\n\ncommands: " ++
    ", ".intercalate (forms.map (·.name)) ++ ", connections\n"

def failure (message : String) : String := "error: " ++ message ++ "\n"

/-- Carries out a plan. A file that cannot be written leaves the directory as it is. -/
def Plan.carryOut (p : Plan) (d : Directory) : Result :=
  match p.ending with
  | .done => ⟨0, p.output, p.prompt, d⟩
  | .failed message => ⟨1, p.output, p.prompt ++ failure message, d⟩
  | .write file output =>
    match d.write file.path (.text file.text) with
    | .ok d => ⟨0, p.output ++ output, p.prompt, d⟩
    | .error e =>
      ⟨1, p.output, p.prompt ++ failure (file.refusal ++ (StorageError.file e).message), d⟩

/-- Runs the command that the arguments name in a directory, with the databases that `connect`
gives. -/
def runWith (connect : String → Database (Option Sqlite.Schema)) (args : List String)
    (input : String) (d : Directory) : Result :=
  match Command.read args with
  | .error .help => ⟨0, usage, "", d⟩
  | .error .usage => ⟨2, "", usage, d⟩
  | .ok command =>
    match command.plan ⟨d.read, connect, input⟩ with
    | .ok plan => plan.carryOut d
    | .error message => ⟨1, "", failure message, d⟩

/-- A run with the databases of the directory. -/
def run (args : List String) (input : String) (d : Directory) : Result :=
  runWith d.database args input d

end EntityDesign.CommandLine
