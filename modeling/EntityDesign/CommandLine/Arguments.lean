import EntityDesign.Text.Integer

/-! Options and operands among the arguments of a command. -/
namespace EntityDesign.CommandLine

/-- What is accepted as a value. -/
inductive ValueKind where
  | text
  /-- Anything but the empty text. -/
  | path
  | integer
  | word (all : List String)
  deriving DecidableEq, Repr

def ValueKind.accepts (s : String) : ValueKind → Bool
  | text => true
  | path => s != ""
  | integer => (Text.int32? s).isSome
  | word all => all.contains s

/-- What a command takes. -/
structure Shape where
  options : List (String × ValueKind) := []
  flags : List String := []
  operands : List ValueKind := []
  /-- The first operand names a command of its own, which takes the rest. -/
  nested : Bool := false

/-- What was given to a command. -/
structure Found where
  options : List (String × String) := []
  flags : List String := []
  operands : List String := []
  /-- The name of a nested command and its arguments. -/
  rest : List String := []
  deriving DecidableEq, Repr

/-- Why no command is run. -/
inductive Refusal where
  | usage
  | help
  deriving DecidableEq, Repr

namespace Found

def option? (f : Found) (name : String) : Option String := f.options.lookup name

def flag (f : Found) (name : String) : Bool := f.flags.contains name

def operand? (f : Found) (i : Nat) : Option String := f.operands[i]?

/-- Takes an option, which may be given once. -/
def addOption (f : Found) (name : String) (kind : ValueKind) (value : String) :
    Except Refusal Found :=
  if (f.option? name).isSome || !kind.accepts value then .error .usage
  else .ok { f with options := f.options ++ [(name, value)] }

def addFlag (f : Found) (name : String) : Except Refusal Found :=
  if f.flag name then .error .usage else .ok { f with flags := f.flags ++ [name] }

def addOperand (s : Shape) (f : Found) (value : String) : Except Refusal Found :=
  match s.operands[f.operands.length]? with
  | some kind =>
    if kind.accepts value then .ok { f with operands := f.operands ++ [value] } else .error .usage
  | none => .error .usage

end Found

/-- The name of an option and the value joined to it by `=`. -/
def long? (arg : String) : Option (String × Option String) :=
  match arg.toList with
  | '-' :: '-' :: cs =>
    let name := String.ofList (cs.takeWhile (· != '='))
    match cs.dropWhile (· != '=') with
    | [] => some (name, none)
    | _ :: value => some (name, some (String.ofList value))
  | _ => none

/-- Whether the argument cannot be the value of an option in front of it. -/
def isDashed (arg : String) : Bool :=
  match arg.toList with
  | '-' :: _ :: _ => true
  | _ => false

/-- Sorts arguments into options, flags and operands. Behind `--` there are only operands. -/
def scan (s : Shape) (f : Found) : List String → Except Refusal Found
  | [] => .ok f
  | arg :: rest =>
    if arg = "--" then
      if s.nested then .error .usage else rest.foldlM (Found.addOperand s) f
    else
      match long? arg with
      | some ("help", value) => .error (if value.isSome then .usage else .help)
      | some (name, value) =>
        if s.flags.contains name then
          if value.isSome then .error .usage
          else
            match f.addFlag name with
            | .ok f => scan s f rest
            | .error e => .error e
        else
          match s.options.lookup name, value, rest with
          | none, _, _ | some _, none, [] => .error .usage
          | some kind, some value, rest =>
            match f.addOption name kind value with
            | .ok f => scan s f rest
            | .error e => .error e
          | some kind, none, value :: rest =>
            if isDashed value then .error .usage
            else
              match f.addOption name kind value with
              | .ok f => scan s f rest
              | .error e => .error e
      | none =>
        if isDashed arg then .error (if arg.toList[1]? = some 'h' then .help else .usage)
        else if s.nested then .ok { f with rest := arg :: rest }
        else
          match f.addOperand s arg with
          | .ok f => scan s f rest
          | .error e => .error e
termination_by args => args.length

end EntityDesign.CommandLine
