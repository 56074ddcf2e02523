import LocalCI.Command.Discovery
import LocalCI.Command.Invocation
import LocalCI.Run
import LocalCI.StartEvent

/-! The commands: each prints its report and ends with an exit code. -/
namespace LocalCI.Command

/-- Prints and ends with a code. -/
def leave (lines : List Line) (code : Int) : Act Int := do
  Act.print lines
  return code

def invalidWorkflow (e : WorkflowError) (details : List String) : List Line :=
  Report.error "Invalid workflow" e.message details ""

/-- Loads the workflow and runs it for the event. -/
def runFile (registry : Registry) (debug : Bool) (o : RunOptions) (s : Settings)
    (workspace : Location) (file : Path) : Act Int := do
  let workflow ← Workflow.load registry file
  let event ← Event.start o.event o.branch s workspace
  let repository ← Act.resolve (Path.ofLocation workspace)
  let runner : Runner :=
    { workspace := repository
      outputLimit := s.outputLimit
      publisher := some
        { repository := repository
          remote := (o.remote.filter (· ≠ "")).getD s.remote
          token := s.token
          authorName := s.authorName
          authorEmail := s.authorEmail }
      failFast := o.failFast
      deploy := o.deploy
      debug := debug }
  return exitCode (← runner.run workflow event)

/-- How a run that did not come to its end is reported. -/
def recover (debug : Bool) (file : Path) : Fault → Act Int
  | .workflow e => leave (invalidWorkflow e [file.text]) 1
  | .interrupted _ => leave [.out "\nInterrupted by user"] 130
  | f => if f.isOrdinary then leave (Report.aborted debug f) 1 else throw f

def run (registry : Registry) (debug : Bool) (o : RunOptions) : Act Int := do
  match Settings.ofEnv (← get).env with
  | .error e => leave (Report.error "Invalid configuration" e.message [] "") 1
  | .ok s =>
    let workspace ← Act.resolve
      (Path.ofString ((o.workspace.filter (· ≠ "")).getD s.workspace))
    match ← Attempt.ofExcept (discover (← get) o.workflow (Path.ofLocation workspace)) with
    | .error lines => leave lines 1
    | .ok file => tryCatch (runFile registry debug o s workspace file) (recover debug file)

def ruleLine (r : Rule) : Line :=
  let branches := match r.branches with
    | none | some [] => "any branch"
    | some patterns => ", ".intercalate patterns
  .out s!"on {r.event}: {branches}"

/-- The workflow in a file and its jobs in the order they would run. -/
def plannedJobs (registry : Registry) (file : Path) : Act (Workflow × List Job) := do
  let workflow ← Workflow.load registry file
  return (workflow, ← Act.ofWorkflow (runOrder workflow.jobs))

def printJobs : List Job → Act Unit
  | [] => return ()
  | j :: rest => do
    Report.plannedJob j
    printJobs rest

def plan (registry : Registry) (o : PlanOptions) : Act Int := do
  let root ← Act.resolve (Path.ofString o.workspace)
  match ← Attempt.ofExcept (discover (← get) o.workflow (Path.ofLocation root)) with
  | .error lines => leave lines 1
  | .ok file =>
    match ← Attempt.attempt (plannedJobs registry file) with
    | .error (.workflow e) => leave (invalidWorkflow e [file.text]) 1
    | .error f => throw f
    | .ok (workflow, jobs) =>
      Act.print (Report.header s!"{workflow.name} ({file.name})")
      Act.print (workflow.triggers.map ruleLine ++ [.out "jobs:"])
      printJobs jobs
      return 0

/-- The rules of a workflow file that lists some; the default ones without a file. -/
def checkRules (registry : Registry) (given : Option String) : Act (Option (List Rule)) := do
  match given.filter (· ≠ "") with
  | none => return none
  | some file => return Trigger.listed (← Workflow.load registry (Path.ofString file)).triggers

def check (registry : Registry) (o : CheckOptions) : Act Int := do
  match ← Attempt.attempt (checkRules registry o.workflow) with
  | .error (.workflow e) => leave (invalidWorkflow e []) 2
  | .error f =>
    if f.isMissing then leave (Report.error "Invalid workflow" f.message [] "") 2 else throw f
  | .ok rules =>
    if Trigger.starts rules o.event o.branch then
      leave [.out s!"run: {o.event} on '{o.branch}' matches"] 0
    else leave [.out s!"skip: {o.event} on '{o.branch}' matches no trigger"] 1

def misuse (page : Page) (e : UsageError) : List Line :=
  (if e.isBare then []
   else [.err page.usage, .err (s!"Try '{page.command} --help' for help."), .err ""]) ++
  [.err ("Error: " ++ e.message)]

def perform (registry : Registry) (debug : Bool) : Request → Act Int
  | .run o => run registry debug o
  | .plan o => plan registry o
  | .check o => check registry o

/-- Does what a command line asks for as it is read, on output streams that take encoded text. -/
def executeWith (read : Env → List String → Invocation) (registry : Registry) (args : List String) :
    Act Int := do
  modify fun m => { m with encodes := true }
  match read (← get).env args with
  | .help page => leave (page.help.map Line.out) 0
  | .misused page e => leave (misuse page e) 2
  | .request debug r => perform registry debug r

def execute (registry : Registry) (args : List String) : Act Int :=
  executeWith Invocation.read registry args

end LocalCI.Command
