import LocalCI.Job.Order
import LocalCI.Provision
import LocalCI.Report

/-! Running a workflow: its jobs one after another, each with its steps in order. The first failing
step ends its job. A job that waits for a failed one is skipped, and with fail-fast every later job
is. -/
namespace LocalCI

structure Runner where
  workspace : Location
  outputLimit : Int := Settings.defaultOutputLimit
  installers : Installers := Installers.builtin
  publisher : Option Publisher := none
  /-- The variables jobs start from; the machine's if none are given. -/
  baseEnv : Option Env := none
  failFast : Bool := true
  deploy : Bool := true
  debug : Bool := false
deriving Repr

/-- One run of a workflow: its jobs in order, and a result for each. -/
structure WorkflowRun where
  id : String
  event : Event
  jobs : List Job
  status : RunStatus
  results : List (String × JobResult)
deriving Repr

namespace Runner

/-- The context a job starts in. -/
def contextFor (r : Runner) (workspace : Location) (machineEnv : Env) (j : Job) : Context where
  workspace := Path.ofLocation workspace
  env := (r.baseEnv.getD machineEnv).overlay j.env

/-- Installs the job's toolchain; a toolchain that cannot be had ends the job. -/
def provideToolchain (r : Runner) (j : Job) : JobAct (Except ProvisionError (Option Installed)) := do
  match j.toolchain with
  | none => return .ok none
  | some t =>
    match ← Attempt.attempt (provision r.installers t) with
    | .ok installed =>
      JobAct.print (Report.toolchain installed)
      return .ok (some installed)
    | .error (.provision e) =>
      JobAct.print (Report.failure r.debug true j.name e.message none
        (Entries.valueAt e.details "hint"))
      return .error e
    | .error f => throw f

def stepError (j : Job) (s : Step) (result : StepResult) : StepError :=
  ⟨j.name, result.step, s.display, result.exitCode, result.out, result.err⟩

def stepName (s : Step) : Except Fault String :=
  match s with
  | .other v => .error (.namelessStep v.typeName)
  | s => .ok (s.name?.getD "")

/-- It is the turn of a step. -/
def announce (place : Place) (s : Step) : JobAct Unit := do
  let name ← Attempt.ofExcept (stepName s)
  JobAct.onMachine (modify fun m => { m with place := place })
  JobAct.print (Report.step name)

def runStep (r : Runner) (place : Place) (s : Step) : JobAct StepResult := do
  announce place s
  let result ← s.execute r.outputLimit
  JobAct.print (Report.stepResult r.debug result)
  return result

/-- Runs steps until one fails; gives the results and the failure. -/
def runSteps (r : Runner) (j : Job) :
    List Step → JobAct (List StepResult × Option StepError)
  | [] => return ([], none)
  | s :: rest => do
    let result ← r.runStep ⟨j.name, j.steps.length - (rest.length + 1)⟩ s
    if result.failed then return ([result], some (stepError j s result))
    let (results, error) ← r.runSteps j rest
    return (result :: results, error)

/-- The given publisher, or else one for the workspace. -/
def choosePublisher (r : Runner) : JobAct Publisher := do
  match r.publisher with
  | some p => return p
  | none =>
    let c ← JobAct.context
    let root ← JobAct.onMachine (Act.resolve c.workspace)
    return { repository := root }

/-- Publishes what the job deploys; a failed publish does not fail the job. -/
def deployJob (r : Runner) (j : Job) (d : Deploy) (result : JobResult) : JobAct JobResult := do
  let publisher ← r.choosePublisher
  match ← Attempt.attempt (JobAct.onMachine (publisher.publish d)) with
  | .ok published =>
    JobAct.print (Report.published published)
    return { result with published := some published }
  | .error (.publish e) =>
    JobAct.print (Report.failure r.debug true j.name e.message none .null)
    return { result with publishError := some e }
  | .error f => throw f

/-- What follows the steps of a job: it is deployed, unless one of them failed. -/
def conclude (r : Runner) (j : Job) (toolchain : Option Installed) (results : List StepResult)
    (error : Option StepError) : JobAct JobResult :=
  let result : JobResult :=
    { job := j.name, status := .success, steps := results, toolchain := toolchain }
  match error with
  | some e => return { result with status := .failed, error := some (.step e) }
  | none =>
    match j.deploy with
    | some d => if r.deploy then r.deployJob j d result else return result
    | none => return result

/-- What a job does once its toolchain is there. -/
def build (r : Runner) (j : Job) (toolchain : Option Installed) : JobAct JobResult := do
  let ended ← r.runSteps j j.steps
  r.conclude j toolchain ended.1 ended.2

/-- Runs a job in the context of the session. -/
def executeIn (r : Runner) (j : Job) : JobAct JobResult := do
  JobAct.print (Report.jobStarted j.name j.runsOn)
  match ← r.provideToolchain j with
  | .error e => return { job := j.name, status := .failed, error := some (.provision e) }
  | .ok toolchain => r.build j toolchain

/-- Runs an attempt of a job in a context, which is given up afterwards. -/
def within {α : Type} (c : Context) (x : JobAct α) : Act α := fun m =>
  let (result, s) := x ⟨c, m⟩
  (result, s.machine)

/-- Runs a job in a context of its own. The workspace is found anew for each job, since the one
before may have put a link there. -/
def execute (r : Runner) (j : Job) : Act JobResult := do
  let workspace ← Act.resolve (Path.ofLocation r.workspace)
  within (r.contextFor workspace (← get).env j) (r.executeIn j)

/-- What the jobs run so far amount to. -/
structure Progress where
  results : List (String × JobResult) := []
  buildFailed : Bool := false
  deployFailed : Bool := false
  /-- Jobs that wait for a failed one. -/
  blocked : List String := []
deriving Repr

def Progress.skip (p : Progress) (name : String) : Progress :=
  { p with results := p.results ++ [(name, { job := name, status := .skipped })] }

def Progress.add (g : Graph) (p : Progress) (name : String) (result : JobResult) : Progress :=
  let p := { p with results := p.results ++ [(name, result)] }
  if result.status ≠ .success then
    { p with buildFailed := true, blocked := p.blocked ++ g.downstream name }
  else if result.publishError.isSome then { p with deployFailed := true }
  else p

/-- Runs the next job, or skips it for a reason. -/
def runJob (r : Runner) (g : Graph) (p : Progress) (j : Job) : Act Progress := do
  if p.buildFailed && r.failFast then
    Act.print (Report.jobSkipped j.name "fail-fast")
    return p.skip j.name
  if p.blocked.contains j.name then
    Act.print (Report.jobSkipped j.name "upstream job failed")
    return p.skip j.name
  return p.add g j.name (← r.execute j)

def runJobs (r : Runner) (g : Graph) : Progress → List Job → Act Progress
  | p, [] => return p
  | p, j :: rest => do r.runJobs g (← r.runJob g p j) rest

def Progress.status (p : Progress) : RunStatus :=
  if p.buildFailed || p.deployFailed then .failed else .success

/-- Run ids count up from one. -/
def newRunId : Act String := do
  let m ← get
  set { m with runs := m.runs + 1 }
  return String.ofList (Text.hexDigits 32 (m.runs + 1))

/-- Runs the workflow for an event, or not at all if no rule matches. -/
def run (r : Runner) (w : Workflow) (event : Event) : Act (Option WorkflowRun) := do
  if !Trigger.starts (Trigger.listed w.triggers) event.kind event.branch then
    Act.print (Report.triggerSkipped event)
    return none
  let g ← Act.ofWorkflow (Graph.ofJobs w.jobs)
  let ordered ← Act.ofWorkflow g.order
  let id ← newRunId
  Act.print (Report.runStarted w.name event ordered.length id)
  let p ← r.runJobs g {} ordered
  Act.print (Report.results p.status p.results)
  return some ⟨id, event, ordered, p.status, p.results⟩

/-- As `run`, for an event given as data: only texts can match a rule. -/
def runOn (r : Runner) (w : Workflow) : Value → Value → Act (Option WorkflowRun)
  | .scalar (.text kind), .scalar (.text branch) => r.run w ⟨kind, branch⟩
  | kind, branch => do
    Act.print (Report.triggerSkipped ⟨kind.toText, branch.toText⟩)
    return none

end Runner

/-- Zero just for a run that succeeded. -/
def RunStatus.exitCode (s : RunStatus) : Int := if s = .success then 0 else 1

/-- A workflow that was not triggered has not failed. -/
def exitCode (run : Option WorkflowRun) : Int := (run.map fun r => r.status.exitCode).getD 0

end LocalCI
