import LocalCI.Attempt
import LocalCI.Context
import LocalCI.FileTree.Write
import LocalCI.Text.Lines
import LocalCI.Workflow.Reader
import LocalCI.Yaml.Data

/-! The machine a workflow runs on: its files and environment, what its programs will answer, and a
record of what was done. Programs answer from a list, so a run is a function of its machine. -/
namespace LocalCI

/-- What a program started next will do. -/
structure Answer where
  code : Int := 0
  out : String := ""
  err : Option String := some ""
  /-- Microseconds that pass. -/
  micros : Nat := 0
  failure : Option Failure := none
  /-- Entries written below the working directory. -/
  files : List (String × Node.Entry) := []
  /-- Whether the record shows the working directory afterwards. -/
  snapshot : Bool := false
deriving Repr

/-- A line written to one of the two output streams. -/
inductive Line where
  | out (text : String)
  | err (text : String)
deriving DecidableEq, Repr

/-- A line as an encoded stream takes it: the output refuses what has no encoding, and the error
output has an escape for it. -/
def Line.encode : Line → Except Fault Line
  | .out text =>
    match Text.Unencodable.find? text with
    | some e => .error (.unencodable e)
    | none => .ok (.out text)
  | .err text => .ok (.err (Text.escapeSurrogates text))

/-- The home directories that the system knows: of the user who is at work, and of users by name. -/
structure Accounts where
  own : Option String := none
  homes : List (String × String) := []
deriving DecidableEq, Repr

/-- Whether the program was started; only then it can have written something. -/
def Answer.started (a : Answer) : Bool :=
  match a.failure with
  | none => true
  | some (.undecodable _) => true
  | some _ => false

structure Machine where
  files : Node
  /-- The directory relative paths start from. -/
  cwd : Location
  /-- Where temporary directories are made. -/
  temp : Location
  env : Env := {}
  answers : List Answer := []
  calls : List Call := []
  /-- Microseconds since the start. -/
  clock : Nat := 0
  runs : Nat := 0
  temps : Nat := 0
  printed : List Line := []
  /-- Whether what is printed has to be encoded. -/
  encodes : Bool := false
  accounts : Accounts := {}
  /-- How many values can be written as text inside of one another. -/
  room : Nat := 900
  /-- How the system refuses to start a program in a directory that cannot be reached. -/
  refusal : Unreachable → Refusal := Unreachable.refusal
  /-- How the system refuses to make a temporary directory where it could be made, if it does. -/
  tempRefusal : Option Refusal := none
  readYaml : String → Except Yaml.Trouble Value := Yaml.read
  /-- What executing a file or directory as a script defines, unless it fails. If nothing else is said, a
  file defines nothing, and a directory has no main module. -/
  interpret : Node → Except Fault (List (String × Exported)) := fun n =>
    if n.isDir then .error (.raised "ImportError" "can't find '__main__' module" true) else .ok []
  /-- The workflow scripts that were executed, each with the name it was given. -/
  executed : List (String × String) := []
  /-- The step at work. -/
  place : Place := {}
  /-- The parameters that the action at work was given. -/
  params : Entries := []
  /-- What was changed so far within the parameters of steps. -/
  alterations : List Alteration := []

/-- Attempts on a machine. -/
abbrev Act := Attempt Machine

namespace Machine

def out (m : Machine) : String :=
  String.join (m.printed.map fun line => match line with | .out s => s ++ "\n" | .err _ => "")

def err (m : Machine) : String :=
  String.join (m.printed.map fun line => match line with | .err s => s ++ "\n" | .out _ => "")

def pathExists (m : Machine) (p : Path) : Except Fault Bool := m.files.pathExists m.cwd p

def pathIsDir (m : Machine) (p : Path) : Except Fault Bool := m.files.pathIsDir m.cwd p

def resolve (m : Machine) (p : Path) : Except Fault Location := m.files.resolve m.cwd p

/-- Every entry below a location. -/
def listing (m : Machine) (l : Location) : List (List String × Node.Entry) :=
  ((m.files.get? l).map (Node.listing [])).getD []

/-- Why a program cannot be started in a directory. -/
def directoryFault? (m : Machine) (dir : String) : Option Fault :=
  if dir = "" then some (.refused .missing dir)
  else match m.files.lookup m.cwd (Path.ofString dir) with
    | .error why => some (.refused (m.refusal why) dir)
    | .ok l =>
      if ((m.files.get? l).map Node.isDir).getD false then none
      else some (.refused .notDirectory dir)

/-- The place a program runs in. -/
def launchLocation (m : Machine) (cwd : Option String) : Location :=
  match cwd with
  | none => m.cwd
  | some dir =>
    match m.files.lookup m.cwd (Path.ofString dir) with
    | .ok l => l
    | .error _ => m.cwd

/-- What the parameters of the step at work are by now, when these are the ones it declares. -/
def paramsNow (m : Machine) (declared : Entries) : Entries :=
  (m.alterations.filter fun a => a.place = m.place).foldl Alteration.apply declared

def record (m : Machine) (c : Call) : Machine := { m with calls := m.calls ++ [c] }

/-- The machine after its next program has been started and has ended as `a` says. -/
def afterAnswer (m : Machine) (a : Answer) (args : List String) (cwd : Option String)
    (env : Option Env) : Machine :=
  let place := m.launchLocation cwd
  let m := { m with
    files := if a.started then m.files.writeAll place a.files else m.files
    clock := m.clock + a.micros }
  m.record (.process args cwd env
    (if a.snapshot && a.started then some (m.listing place) else none))

end Machine

namespace Act

def printLine (line : Line) : Act Unit := do
  let m ← get
  let line ← if m.encodes then Attempt.ofExcept line.encode else pure line
  set { m with printed := m.printed ++ [line] }

def print (lines : List Line) : Act Unit := lines.forM printLine

def ofWorkflow {α : Type} (r : Except WorkflowError α) : Act α := .ofExcept (r.mapError .workflow)

/-- The text of a value, with the room there is. -/
def text (v : Value) : Act String := do Attempt.ofExcept (v.asText (← get).room)

def resolve (p : Path) : Act Location := do Attempt.ofExcept ((← get).resolve p)

def pathExists (p : Path) : Act Bool := do Attempt.ofExcept ((← get).pathExists p)

/-- Goes into the directory that a location leads to. -/
def enter (l : Location) : Act Location := do
  match (← get).files.enter l with
  | .ok found => return found
  | .error why => throw (.refused why.refusal (Location.text l))

def pathIsDir (p : Path) : Act Bool := do Attempt.ofExcept ((← get).pathIsDir p)

/-- Starts a program and waits for its end. Without an environment it inherits the machine's. Nothing
is started in a directory that is not there. -/
def launch (args : List String) (cwd : Option String) (env : Option Env) : Act Finished := fun m =>
  match cwd.bind m.directoryFault? with
  | some fault => (.error fault, m)
  | none =>
    let a := m.answers.headD {}
    let m := { m with answers := m.answers.tail }.afterAnswer a args cwd env
    match a.failure with
    | some failure => (.error (failure.fault (args.headD "")), m)
    | none => (.ok ⟨a.code, a.out, a.err⟩, m)

/-- Makes a directory and those above it, from the top down to the first name that is too long. -/
def makeDirs (l : Location) : Act Unit := do
  let m ← get
  match m.files.lookup [] (Path.ofLocation l) with
  | .ok found =>
    if ((m.files.get? found).map Node.isDir).getD false then return ()
    else throw (.refused .alreadyThere (Location.text l))
  | .error .notDirectory => throw (.refused .notDirectory (Location.text l))
  | .error .tooLong => throw (.refused .nameTooLong (Location.text l))
  | .error _ =>
    let possible := l.takeWhile fun name => !Node.isTooLong name
    set { m with files := m.files.ensureDir possible }
    if possible.length < l.length then
      throw (.refused .nameTooLong (Location.text (l.take (possible.length + 1))))

end Act
end LocalCI
