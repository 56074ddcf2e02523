import LocalCI.Action
import LocalCI.Trigger

/-! Workflows as they are declared: jobs, their steps, and what they ask for. -/
namespace LocalCI

/-- The toolchain a job asks for. -/
structure Toolchain where
  name : String
  channel : String := "stable"
  override : Bool := false
  profile : Option String := none
deriving DecidableEq, Repr

/-- A folder to be published to a branch. -/
structure Deploy where
  folder : String
  branch : String
deriving DecidableEq, Repr

inductive Step where
  /-- A script for the shell. The working directory is kept as it was declared. -/
  | shell (name run : String) (cwd : Value) (env : Env)
  | action (name uses : String) (handler : Handler) (params : Entries) (env : Env)
  /-- A declared value that is no step. -/
  | other (value : Value)
deriving Repr

namespace Step

def name? : Step → Option String
  | .shell name _ _ _ => some name
  | .action name _ _ _ _ => some name
  | .other _ => none

def env : Step → Env
  | .shell _ _ _ env => env
  | .action _ _ _ _ env => env
  | .other _ => {}

/-- What a failed step is reported to have run. -/
def display : Step → String
  | .shell _ run _ _ => run
  | .action _ uses _ _ _ => s!"uses: {uses}"
  | .other _ => ""

end Step

/-- The context a step sees: its own variables win over those of the job. -/
def Context.forStep (c : Context) (s : Step) : Context := { c with env := c.env.overlay s.env }

structure Job where
  name : String
  steps : List Step := []
  runsOn : Option String := none
  toolchain : Option Toolchain := none
  deploy : Option Deploy := none
  needs : Option (List String) := some []
  env : Env := {}
deriving Repr

/-- The jobs this one waits for. -/
def Job.needed (j : Job) : List String := j.needs.getD []

structure Workflow where
  name : String := "workflow"
  jobs : List Job
  triggers : List Rule := []
deriving Repr

end LocalCI
