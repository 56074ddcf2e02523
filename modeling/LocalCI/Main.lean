import LocalCI.Command

/-! The command line as a rehearsal: files are read from the disk, but programs are not started, and
each one counts as having succeeded without output. -/
namespace LocalCI.Rehearsal

/-- The variables that have a meaning here. -/
def knownVariables : List String :=
  ["HOME", "PATH", "CARGO_HOME", "ACTRUN_WORKSPACE", "ACTRUN_REMOTE", "ACTRUN_TOKEN", "ACTRUN_EVENT",
   "ACTRUN_BRANCH", "ACTRUN_OUTPUT_LIMIT", "ACTRUN_AUTHOR_NAME", "ACTRUN_AUTHOR_EMAIL",
   "ACTRUN_FAIL_FAST", "GITHUB_WORKSPACE", "GITHUB_TOKEN", "GITHUB_EVENT_NAME", "GITHUB_REF",
   "GITHUB_BASE_REF"]

def environment : IO Env :=
  knownVariables.foldlM (fun env name => do
    match ← IO.getEnv name with
    | some value => return env.set name value
    | none => return env) {}

/-- The workflow file a request names. -/
def namedFile : Command.Invocation → Option String
  | .request _ (.run o) => o.workflow
  | .request _ (.plan o) => o.workflow
  | .request _ (.check o) => o.workflow
  | _ => none

/-- The content of a file, if it can be read. -/
def fileEntry (name : String) : IO (Option (String × Node.Entry)) := do
  try
    let bytes ← IO.FS.readBinFile name
    return some (name, .file (.ofBytes bytes.toList))
  catch _ => return none

def machine (env : Env) (cwd : Location) (files : List (String × Node.Entry)) : Machine :=
  { files := (Node.ensureDir cwd (Node.ensureDir ["tmp"] Node.emptyDir)).writeAll cwd files
    cwd := cwd
    temp := ["tmp"]
    env := env }

def display (line : Line) : IO Unit :=
  match line with
  | .out text => IO.println text
  | .err text => IO.eprintln text

def run (args : List String) : IO UInt32 := do
  let env ← environment
  let cwd := Path.partsOf (← IO.currentDir).toString
  let file ← match namedFile (Command.Invocation.read env args) with
    | some name => fileEntry name
    | none => pure none
  let (result, m) := (Command.execute Registry.builtin args).run (machine env cwd file.toList)
  m.printed.forM display
  match result with
  | .ok code => return code.toNat.toUInt32
  | .error f =>
    IO.eprintln (Report.unhandled f)
    return f.status.toNat.toUInt32

end LocalCI.Rehearsal

def main (args : List String) : IO UInt32 := LocalCI.Rehearsal.run args
