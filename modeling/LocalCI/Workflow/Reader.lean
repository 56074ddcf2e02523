import LocalCI.Job
import LocalCI.Text.Lines
import LocalCI.Value.Text

/-! Reading workflows from data. Each reader takes any value and either gives what it says or the
first reason to refuse it. Where a value is taken as a text, `room` tells how many values can be
written inside of it. -/
namespace LocalCI

/-- Texts are true when they say so; other values when they are not empty. -/
def Value.asFlag : Value → Bool
  | .scalar (.text s) => ["true", "yes", "1", "on"].contains (Text.lower (Text.strip s))
  | v => v.isTruthy

/-- One text, or a list whose items are taken as texts. -/
def Value.asTexts (room : Nat) (what : String) (v : Value) : Except Fault (List String) :=
  match v.view with
  | .scalar .null => .ok []
  | .scalar (.text s) => .ok [s]
  | .list items => items.mapM (Value.asText room)
  | _ => .error (.workflow (.notList what v.typeName))

def Entries.toEnv (room : Nat) (entries : Entries) : Except Fault Env :=
  entries.foldlM (fun env (key, v) => do return env.set (← key.asText room) (← v.asText room)) {}

/-- A mapping whose keys and values are taken as texts. -/
def Value.asEnv (room : Nat) (what : String) (v : Value) : Except Fault Env :=
  match v.view with
  | .scalar .null => .ok {}
  | .map entries => Entries.toEnv room entries
  | _ => .error (.workflow (.notMapping what))

namespace Rule

/-- The rule of one entry of a mapping of triggers. -/
def ofEntry (room : Nat) (key : Scalar) (config : Value) : Except Fault Rule := do
  let event ← key.asText room
  match config.view with
  | .map entries =>
    let branches := Entries.valueAt entries "branches"
    if branches.isNull then return ⟨event, none⟩
    else return ⟨event, some (← branches.asTexts room s!"on.{event}.branches")⟩
  | _ => return ⟨event, none⟩

/-- The rules that the value under `on` lists. -/
def readAll (room : Nat) (v : Value) : Except Fault (List Rule) :=
  match v.view with
  | .scalar .null => .error (.workflow .noTriggers)
  | .scalar (.text s) => .ok [⟨s, none⟩]
  | .list items => items.mapM fun v => do return ⟨← v.asText room, none⟩
  | .map entries => entries.mapM fun (key, config) => ofEntry room key config
  | _ => .error (.workflow .triggersNotReadable)

end Rule

/-- The value's text if it is not empty, else the default. -/
def Value.textOr (room : Nat) (default : String) (v : Value) : Except Fault String :=
  if v.isTruthy then v.asText room else .ok default

/-- The toolchain that a step with a toolchain action selects. -/
def Toolchain.ofParams (room : Nat) (uses : String) (params : Entries) : Except Fault Toolchain := do
  let asked := Entries.valueAt params "toolchain"
  if Action.nameOf uses = "dtolnay/rust-toolchain" then
    let ref := ((Text.cut? '@' uses).map Prod.snd).getD "stable"
    return { name := "rust", channel := ← asked.textOr room ref
             override := true, profile := some "minimal" }
  else
    let channel ← asked.textOr room "stable"
    let profile := Entries.valueAt params "profile"
    return { name := "rust", channel := channel
             override := (Entries.valueAt params "override").asFlag
             profile := ← if profile.isTruthy then (profile.asText room).map some else .ok none }

/-- The deployment that a step with a deploy action names. -/
def Deploy.ofParams (room : Nat) (uses : String) (params : Entries) : Except Fault Deploy := do
  if Action.nameOf uses = "peaceiris/actions-gh-pages" then
    let folder ← (Entries.valueAt params "publish_dir").textOr room "public"
    return ⟨folder, ← (Entries.valueAt params "publish_branch").textOr room "gh-pages"⟩
  else
    let folder := Entries.valueAt params "folder"
    if !folder.isTruthy then throw (.workflow (.noFolder uses))
    let folder ← folder.asText room
    return ⟨folder, ← (Entries.valueAt params "branch").textOr room "gh-pages"⟩

namespace Step

/-- The declared name, else one made from the first line of the script or from the action. -/
def readName (room : Nat) (raw : Entries) : Except Fault String := do
  let name := Entries.valueAt raw "name"
  let run := Entries.valueAt raw "run"
  if name.isTruthy then name.asText room
  else if run.isTruthy then
    match Text.lines (Text.strip (← run.asText room)) with
    | line :: _ => return "Run " ++ line
    | [] => throw .blankCommand
  else return "Run " ++ (← (Entries.valueAt raw "uses").asText room)

end Step

namespace Job

/-- What the steps read so far amount to. -/
structure Draft where
  steps : List Step := []
  toolchain : Option Toolchain := none
  deploy : Option Deploy := none
deriving Repr

def lift {α : Type} : Except WorkflowError α → Except Fault α := Except.mapError .workflow

/-- Sorts an action step into toolchain, deployment or step proper. -/
def Draft.addAction (room : Nat) (registry : Registry) (draft : Draft) (job place name uses : String)
    (params : Entries) (env : Env) : Except Fault Draft := do
  if Action.toolchainNames.contains (Action.nameOf uses) then
    if draft.toolchain.isSome then throw (.workflow (.secondToolchain place job))
    return { draft with toolchain := some (← Toolchain.ofParams room uses params) }
  else if Action.deployNames.contains (Action.nameOf uses) then
    return { draft with deploy := some (← Deploy.ofParams room uses params) }
  else
    let handler ← lift (registry.resolve uses)
    return { draft with steps := draft.steps ++ [.action name uses handler params env] }

/-- The mapping under `with`; nothing there counts as an empty one. -/
def readParams (place : String) (v : Value) : Except WorkflowError Entries :=
  if !v.isTruthy then .ok []
  else match v.view with
    | .map params => .ok params
    | _ => .error (.notMapping s!"{place}.with")

def Draft.add (room : Nat) (registry : Registry) (job place : String) (draft : Draft) (raw : Value) :
    Except Fault Draft :=
  match raw.view with
  | .map entries => do
    let uses := Entries.valueAt entries "uses"
    let run := Entries.valueAt entries "run"
    if uses.isTruthy == run.isTruthy then throw (.workflow (.usesOrRun place))
    if draft.deploy.isSome then throw (.workflow (.stepAfterDeploy place))
    let name ← Step.readName room entries
    let env ← (Entries.valueAt entries "env").asEnv room s!"{place}.env"
    let params ← lift (readParams place (Entries.valueAt entries "with"))
    if run.isTruthy then
      return { draft with steps := draft.steps ++
        [.shell name (← run.asText room) (Entries.valueAt entries "working-directory") env] }
    else
      draft.addAction room registry job place name (← uses.asText room) params env
  | _ => .error (.workflow (.notMapping place))

/-- Adds the steps from number `index` on. -/
def Draft.addAll (room : Nat) (registry : Registry) (job : String) :
    Nat → Draft → List Value → Except Fault Draft
  | _, draft, [] => .ok draft
  | index, draft, raw :: rest => do
    let draft ← draft.add room registry job s!"jobs.{job}.steps[{index}]" raw
    addAll room registry job (index + 1) draft rest

def readSteps (job : String) (v : Value) : Except WorkflowError (List Value) :=
  if !v.isTruthy then .ok []
  else match v.view with
    | .list items => .ok items
    | _ => .error (.stepsNotList job)

def readRunsOn (room : Nat) (v : Value) : Except Fault (Option String) :=
  if v.isNull then .ok none
  else do return some (", ".intercalate (← v.asTexts room "runs-on"))

def read (room : Nat) (registry : Registry) (id : String) (v : Value) : Except Fault Job :=
  match v.view with
  | .map raw => do
    let rawSteps ← lift (readSteps id (Entries.valueAt raw "steps"))
    let draft ← Draft.addAll room registry id 0 {} rawSteps
    let runsOn ← readRunsOn room (Entries.valueAt raw "runs-on")
    let needs ← (Entries.valueAt raw "needs").asTexts room s!"jobs.{id}.needs"
    let env ← (Entries.valueAt raw "env").asEnv room s!"jobs.{id}.env"
    return {
      name := id
      steps := draft.steps
      runsOn := runsOn
      toolchain := draft.toolchain
      deploy := draft.deploy
      needs := some needs
      env := env }
  | _ => .error (.workflow (.jobNotMapping id))

end Job

namespace Workflow

/-- The value under `on`. A bare `on` is read as true where that word is a truth value. -/
def triggersValue (data : Entries) : Value :=
  match Entries.get? data "on" with
  | some v => v
  | none => (Entries.find? data (.bool true)).getD .null

/-- The entries of a mapping that has some. -/
def readJobs (v : Value) : Except WorkflowError Entries :=
  match v.view with
  | .map [] => .error .noJobs
  | .map jobs => .ok jobs
  | _ => .error .noJobs

/-- Variables of the workflow hold for every job, and the job's own win over them. -/
def readJob (room : Nat) (registry : Registry) (shared : Env) (key : Scalar) (raw : Value) :
    Except Fault Job := do
  let job ← Job.read room registry (← key.asText room) raw
  return { job with env := shared.overlay job.env }

def read (room : Nat) (registry : Registry) (defaultName : String) (v : Value) : Except Fault Workflow :=
  match v.view with
  | .map data => do
    let triggers ← Rule.readAll room (triggersValue data)
    let rawJobs ← Job.lift (readJobs (Entries.valueAt data "jobs"))
    let shared ← (Entries.valueAt data "env").asEnv room "env"
    let jobs ← rawJobs.mapM fun (key, raw) => readJob room registry shared key raw
    return ⟨← (Entries.valueAt data "name").textOr room defaultName, jobs, triggers⟩
  | _ => .error (.workflow .rootNotMapping)

end Workflow

/-- What a workflow script defines under a name. -/
inductive Exported where
  | workflow (w : Workflow)
  | jobs (jobs : List Job)
  | function (result : Exported)
  /-- A function that fails when it is called. -/
  | failing (fault : Fault)
  | value (v : Value)
deriving Repr

namespace Exported

/-- A workflow, or jobs that make one with the default triggers. -/
def toWorkflow (name : String) : Exported → Except WorkflowError Workflow
  | .workflow w => .ok w
  | .jobs js => .ok ⟨name, js, Trigger.defaultRules⟩
  | .value (.list []) => .ok ⟨name, [], Trigger.defaultRules⟩
  | _ => .error .noDefinition

def find? (exported : List (String × Exported)) (name : String) : Option Exported :=
  (exported.find? fun e => e.1 = name).map Prod.snd

/-- A function named `workflow` comes before `WORKFLOW`, and that before `JOBS`. -/
def select (name : String) (exported : List (String × Exported)) : Except Fault Workflow :=
  match find? exported "workflow" with
  | some (.function result) => (result.toWorkflow name).mapError .workflow
  | some (.failing fault) => .error fault
  | _ =>
    match (find? exported "WORKFLOW").or (find? exported "JOBS") with
    | some e => (e.toWorkflow name).mapError .workflow
    | none => .error (.workflow .noDefinition)

end Exported
end LocalCI
