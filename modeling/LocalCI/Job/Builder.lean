import LocalCI.Attempt
import LocalCI.Job

/-! Declaring jobs and workflows in code: whole, or piece by piece with a builder. -/
namespace LocalCI

/-- The variables with their values taken as texts. -/
def Env.ofValues (room : Nat) (values : List (String × Value)) : Except Fault Env :=
  values.foldlM (fun env (name, v) => do return env.set name (← v.asText room)) {}

namespace Step

def sh (room : Nat) (name command : String) (cwd : Value) (env : List (String × Value)) :
    Except Fault Step := do
  return .shell name command cwd (← Env.ofValues room env)

def use (room : Nat) (registry : Registry) (name uses : String) (params : Entries)
    (env : List (String × Value)) : Except Fault Step := do
  let handler ← (registry.resolve uses).mapError .workflow
  return .action name uses handler params (← Env.ofValues room env)

/-- Gives a shell step without a working directory this one. -/
def inDirectory (dir : Value) : Step → Step
  | .shell name run (.scalar .null) env => .shell name run dir env
  | s => s

end Step

namespace Rule

/-- Without patterns every branch matches. -/
def on (event : String) (patterns : List String) : Rule :=
  ⟨event, if patterns.isEmpty then none else some patterns⟩

end Rule

namespace Job

/-- A job with its steps; `dir` is the working directory of the steps that have none. -/
def define (room : Nat) (name : String) (steps : List Step) (needs : List String)
    (env : List (String × Value)) (runsOn : Option String) (toolchain : Option Toolchain) (deploy : Option Deploy)
    (dir : Value) : Except Fault Job := do
  return {
    name := name
    steps := if dir.isNull then steps else steps.map (Step.inDirectory dir)
    runsOn := runsOn
    toolchain := toolchain
    deploy := deploy
    needs := some needs
    env := ← Env.ofValues room env }

end Job

def Workflow.define (name : String) (jobs : List Job) (rules : Option (List Rule)) : Workflow :=
  ⟨name, jobs, rules.getD Trigger.defaultRules⟩

/-- A job in the making. -/
structure JobBuilder where
  name : String
  needs : List String := []
  steps : List Step := []
  env : Env := {}
  runsOn : Option String := none
  toolchain : Option Toolchain := none
  deploy : Option Deploy := none
deriving Repr

namespace JobBuilder

/-- One call on a builder. -/
inductive Call where
  | dependsOn (names : List String)
  | runsOn (image : Option String)
  | defineStep (name run : String) (cwd : Value)
  | useAction (name uses : String) (params : Entries)
  | withToolchain (toolchain : Toolchain)
  | deployTo (deploy : Deploy)
  | withEnv (values : List (String × Value))
deriving Repr

def call (room : Nat) (registry : Registry) : Call → Attempt JobBuilder Unit
  | .dependsOn names => modify fun b => { b with needs := b.needs ++ names }
  | .runsOn image => modify fun b => { b with runsOn := image }
  | .defineStep name run cwd =>
    modify fun b => { b with steps := b.steps ++ [.shell name run cwd {}] }
  | .useAction name uses params => do
    let step ← Attempt.ofExcept (Step.use room registry name uses params [])
    modify fun b => { b with steps := b.steps ++ [step] }
  | .withToolchain t => modify fun b => { b with toolchain := some t }
  | .deployTo d => modify fun b => { b with deploy := some d }
  | .withEnv values => do
    let env ← Attempt.ofExcept (Env.ofValues room values)
    modify fun b => { b with env := b.env.overlay env }

/-- The builder after some calls, whether they were refused or not. -/
def after (room : Nat) (registry : Registry) (b : JobBuilder) (calls : List Call) : JobBuilder :=
  calls.foldl (fun b c => (call room registry c b).2) b

def build (b : JobBuilder) : Job where
  name := b.name
  steps := b.steps
  runsOn := b.runsOn
  toolchain := b.toolchain
  deploy := b.deploy
  needs := some b.needs
  env := b.env

end JobBuilder
end LocalCI
