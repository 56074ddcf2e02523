import LocalCI.Execution
import LocalCI.Publish

/-! What is printed about a run. Each report is a list of lines; in debug mode more is said. -/
namespace LocalCI

inductive JobStatus where
  | success
  | failed
  | skipped
deriving DecidableEq, Repr

inductive RunStatus where
  | pending
  | running
  | success
  | failed
deriving DecidableEq, Repr

def JobStatus.text : JobStatus → String
  | .success => "success"
  | .failed => "failed"
  | .skipped => "skipped"

def RunStatus.text : RunStatus → String
  | .pending => "pending"
  | .running => "running"
  | .success => "success"
  | .failed => "failed"

/-- Why a job failed. -/
inductive JobError where
  | provision (e : ProvisionError)
  | step (e : StepError)
deriving Repr

structure JobResult where
  job : String
  status : JobStatus
  steps : List StepResult := []
  error : Option JobError := none
  toolchain : Option Installed := none
  published : Option Published := none
  publishError : Option PublishError := none
deriving Repr

namespace Report

def header (title : String) : List Line :=
  [.out ("\n" ++ title), .out (String.ofList (List.replicate title.length '-'))]

def runStarted (workflow : String) (event : Event) (jobs : Nat) (id : String) : List Line :=
  let branch := if event.branch = "" then "-" else event.branch
  [.out "\nRUN STARTED", .out s!"Workflow: {workflow}", .out s!"Event: {event.kind} ({branch})",
    .out s!"Jobs: {jobs}", .out s!"Run ID: {id}", .out ""]

def triggerSkipped (event : Event) : List Line :=
  [.out s!"SKIPPED: no trigger matches {event.kind} on '{event.branch}'"]

def jobStarted (name : String) (runsOn : Option String) : List Line :=
  .out s!"\nJOB STARTED: {name}" ::
  match runsOn with
  | some image => if image = "" then [] else [.out s!"Runs on: {image}"]
  | none => []

def jobSkipped (name reason : String) : List Line := [.out s!"\nJOB SKIPPED: {name} ({reason})"]

def toolchain (t : Installed) : List Line :=
  let mark := if t.override then " (override)" else ""
  let version := match t.version with
    | some v => if v = "" then "" else s!" - {v}"
    | none => ""
  [.out s!"TOOLCHAIN: {t.name}@{t.channel}{mark}{version}"]

def step (name : String) : List Line := [.out s!"STEP: {name}"]

def debugNote (debug : Bool) (message : String) : List Line :=
  if debug && message ≠ "" then [.err s!"[DEBUG] {message}"] else []

/-- The first line of a reason; all of it in debug mode. -/
def reasonLines (debug : Bool) (reason : String) : List Line :=
  if debug then [.out s!"Error details: {reason}"]
  else
    let line := (Text.split '\n' (Text.strip reason)).headD ""
    if line = "" then [] else [.out s!"Error: {line}"]

def failure (debug isJob : Bool) (name reason : String) (exitCode : Option Int)
    (hint : Value) : List Line :=
  [.out ((if isJob then "JOB FAILED: " else "STEP FAILED: ") ++ name)] ++
  (exitCode.map fun code => Line.out s!"Exit code: {code}").toList ++
  (if hint.isTruthy then [.out s!"Hint: {hint.toText}"] else []) ++
  reasonLines debug reason

def streamTail (name text : String) : List Line :=
  if Text.isBlankText text then []
  else [.out s!"--- {name} (tail) ---", .out (Text.stripEnd text)]

def stepResult (debug : Bool) (r : StepResult) : List Line :=
  if !r.failed then .out s!"  ok ({r.duration} ms)" :: debugNote debug (Text.stripEnd r.out)
  else
    failure debug false r.step (if r.err = "" then r.out else r.err) (some r.exitCode) .null ++
    streamTail "stdout" r.out ++ streamTail "stderr" r.err

def published (p : Published) : List Line :=
  if p.changed then
    let commit := String.ofList ((p.commit.getD "").toList.take 12)
    [.out s!"DEPLOY: pushed {commit} to {p.branch}"]
  else [.out s!"DEPLOY: {p.branch} already up to date"]

def plannedStep (s : Step) : Act Unit :=
  match s with
  | .other v => throw (.namelessStep v.typeName)
  | s => Act.print [.out ("    - " ++ s.name?.getD "")]

/-- Prints what a job would do. -/
def plannedJob (j : Job) : Act Unit := do
  let needs := if j.needed.isEmpty then "" else " (needs: " ++ ", ".intercalate j.needed ++ ")"
  Act.print [.out ("  " ++ j.name ++ needs)]
  if let some t := j.toolchain then
    let mark := if t.override then " override" else ""
    Act.print [.out s!"    toolchain: {t.name}@{t.channel}{mark}"]
  j.steps.forM plannedStep
  if let some d := j.deploy then
    Act.print [.out s!"    deploy: {d.folder} -> {d.branch}"]

def upper (s : String) : String := String.ofList (s.toList.map Char.toUpper)

def jobLine (r : JobResult) : String :=
  upper r.status.text ++
  if r.publishError.isSome then " (deploy failed)"
  else if r.published.isSome then " (deployed)"
  else ""

def results (status : RunStatus) (results : List (String × JobResult)) : List Line :=
  let bar := String.ofList (List.replicate 40 '=')
  [.out ("\n" ++ bar), .out "RESULTS", .out bar] ++
  results.map (fun (name, r) => Line.out (s!"  {name}: " ++ jobLine r)) ++
  [.out ("STATUS: " ++ status.text)]

def error (title message : String) (details : List String) (suggestion : String) : List Line :=
  [.err ("\nERROR: " ++ title), .err message] ++
  details.map (fun d => Line.err ("  " ++ d)) ++
  if suggestion = "" then [] else [.err ("\n" ++ suggestion)]

/-- A fault that nobody handled, with its kind in front. -/
def unhandled (f : Fault) : String :=
  let kind := match f with
    | .copyFailed _ => "shutil.Error"
    | f => f.kind
  if f.message = "" then kind else kind ++ ": " ++ f.message

/-- A fault that ended the command; in debug mode with the trace that led to it. -/
def aborted (debug : Bool) (f : Fault) : List Line :=
  if debug then [.err "Traceback", .err (unhandled f)] else [.err ("Error: " ++ f.message)]

end Report
end LocalCI
