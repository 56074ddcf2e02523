import LocalCI.Checkout
import LocalCI.Text.Integer

/-! Running one step to its end. -/
namespace LocalCI

/-- A job's context on a machine. -/
structure Session where
  context : Context
  machine : Machine

/-- Attempts within a job. -/
abbrev JobAct := Attempt Session

namespace JobAct

def onMachine {α : Type} (x : Act α) : JobAct α :=
  Attempt.focus Session.machine (fun s m => { s with machine := m }) x

def context : JobAct Context := do return (← get).context

/-- Does something in a context of its own; what it does to that context is not seen afterwards. -/
def inContext {α : Type} (c : Context) (x : JobAct α) : JobAct α := fun s =>
  let (result, t) := x { s with context := c }
  (result, { t with context := s.context })

def print (lines : List Line) : JobAct Unit := onMachine (Act.print lines)

end JobAct

structure StepResult where
  step : String
  exitCode : Int
  out : String := ""
  err : String := ""
  /-- Whole milliseconds. -/
  duration : Nat := 0
deriving DecidableEq, Repr

def StepResult.failed (r : StepResult) : Bool := r.exitCode ≠ 0

/-- Carries a routine out within a job. -/
def Routine.run {α : Type} : Routine α → JobAct α
  | .done result => return result
  | .fail fault => throw fault
  | .wait micros next => do
    JobAct.onMachine (modify fun m => { m with clock := m.clock + micros })
    next.run
  | .look next => do
    let s ← get
    (next s.context s.machine.calls).run
  | .setContext c next => do
    modify fun s => { s with context := c }
    next.run
  | .setParams params next => do
    JobAct.onMachine (modify fun m => { m with params := params })
    next.run
  | .alter a next => do
    JobAct.onMachine (modify fun m => { m with alterations := m.alterations ++ [a] })
    next.run
  | .launch args cwd env next => do
    let ended ← JobAct.onMachine (Attempt.attempt (Act.launch args cwd env))
    (next ended).run
  | .changeFiles change next => do
    let files := (← get).machine.files
    JobAct.onMachine (modify fun m => { m with files := change m.files })
    (next files).run

/-- Gives the action at work a copy of the parameters its step declares. The copy has the same
collections in it, so what is done within one of them is done to the step as well. -/
def JobAct.handOver (declared : Entries) : JobAct Entries := do
  let given := (← get).machine.paramsNow declared
  onMachine (modify fun m => { m with params := given })
  return given

/-- An action other than checkout is recorded when it is called. -/
def Handler.run (handler : Handler) (params : Entries) : JobAct Reply := do
  let c ← JobAct.context
  let given ← JobAct.handOver params
  match handler with
  | .checkout => JobAct.onMachine (Checkout.run given c)
  | .custom label body =>
    JobAct.onMachine (modify (·.record (.action label given c.env c.workspace c.toolchain)))
    (body given).run

namespace Step

/-- How shell scripts are started: any failing line fails the script. -/
def shellCommand : List String := ["bash", "--noprofile", "--norc", "-eo", "pipefail", "-c"]

/-- The exit code of a step that could not be started. -/
def notRunnable : Int := 127

def unstarted (text : String) : Reply := ⟨.int notRunnable, some "", some text⟩

/-- The directory a shell step runs in, as it was declared. -/
def directory (workspace : Path) (cwd : Value) : Except Fault Path :=
  if !cwd.isTruthy then .ok workspace
  else match cwd with
    | .scalar (.text dir) => .ok (workspace.child dir)
    | v => .error (.notPath v.operandName)

def runShell (script : String) (cwd : Value) (c : Context) : Act Reply := do
  let dir ← Act.resolve (← Attempt.ofExcept (directory c.workspace cwd))
  let text := Location.text dir
  if !(← Act.pathIsDir (Path.ofLocation dir)) then
    return unstarted s!"working directory not found: {text}"
  tryCatch
    (do return (← Act.launch (shellCommand ++ [script]) (some text) (some c.env)).reply)
    fun f => if f.isMissing then return unstarted f.message else throw f

/-- An action that fails is a failed step; only what is no ordinary fault goes on. -/
def runAction (handler : Handler) (params : Entries) : JobAct Reply :=
  tryCatch (handler.run params) fun f =>
    if f.isOrdinary then return ⟨.int 1, some "", some (f.kind ++ ": " ++ f.message)⟩ else throw f

/-- Runs in the context of the step. -/
def perform : Step → JobAct Reply
  | .shell _ run cwd _ => do JobAct.onMachine (runShell run cwd (← JobAct.context))
  | .action _ _ handler params _ => runAction handler params
  | .other v => throw (.notStep v.typeName)

/-- The last `limit` characters; everything if the limit is not positive. -/
def tail (limit : Int) (text : Option String) : String :=
  let s := text.getD ""
  if 0 < limit then Text.lastChars limit.toNat s else s

/-- The whole number a reported exit code stands for. -/
def exitCode (code : Scalar) : Except Fault Int :=
  match code with
  | .int n => .ok n
  | .bool b => .ok (if b then 1 else 0)
  | .text s => (Text.integer s).mapError .noInteger
  | .real x => x.truncate?.elim (.error (.noExitCode code)) .ok
  | _ => .error (.noExitCode code)

def execute (limit : Int) (step : Step) : JobAct StepResult := do
  let started := (← get).machine.clock
  let c ← JobAct.context
  let reply ← JobAct.inContext (c.forStep step) step.perform
  let duration := ((← get).machine.clock - started) / 1000
  let code ← Attempt.ofExcept (exitCode reply.code)
  return ⟨step.name?.getD "", code, tail limit reply.out, tail limit reply.err, duration⟩

end Step
end LocalCI
