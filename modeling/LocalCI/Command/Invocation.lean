import LocalCI.Command.Help
import LocalCI.Command.Options
import LocalCI.Env
import LocalCI.Text.Alphanumeric
import LocalCI.Text.Lowercase

/-! Reading a command line. -/
namespace LocalCI.Command

structure RunOptions where
  workflow : Option String := none
  event : Option String := none
  branch : Option String := none
  workspace : Option String := none
  remote : Option String := none
  failFast : Bool := true
  deploy : Bool := true
deriving DecidableEq, Repr

structure PlanOptions where
  workflow : Option String := none
  workspace : String := "."
deriving DecidableEq, Repr

structure CheckOptions where
  event : String
  branch : String
  workflow : Option String := none
deriving DecidableEq, Repr

inductive Request where
  | run (o : RunOptions)
  | plan (o : PlanOptions)
  | check (o : CheckOptions)
deriving DecidableEq, Repr

/-- What a command line asks for. -/
inductive Invocation where
  | help (page : Page)
  | misused (page : Page) (error : UsageError)
  | request (debug : Bool) (r : Request)
deriving DecidableEq, Repr

def textOption (about : String) : OptionForm := ⟨"--" ++ about, about, .text⟩

def flagOption (about : String) : OptionForm := ⟨"--" ++ about, about, .flag true⟩

def noOption (about : String) : OptionForm := ⟨"--no-" ++ about, about, .flag false⟩

def programOptions : List OptionForm := [flagOption "debug", flagOption "help"]

def runOptions : List OptionForm :=
  ["workflow", "event", "branch", "workspace", "remote"].map textOption ++
  [flagOption "fail-fast", noOption "fail-fast", flagOption "deploy", noOption "deploy",
   flagOption "help"]

def planOptions : List OptionForm :=
  ["workflow", "workspace"].map textOption ++ [flagOption "help"]

def checkOptions : List OptionForm :=
  ["event", "branch", "workflow"].map textOption ++ [flagOption "help"]

/-- Fail-fast as the command line has it, else as the environment has it, else on. -/
def failFast (env : Env) (p : Parsed) : Except UsageError Bool :=
  match p.flag? "fail-fast", env.nonEmpty? "ACTRUN_FAIL_FAST" with
  | some on, _ => .ok on
  | none, none => .ok true
  | none, some raw =>
    match boolean? raw with
    | some on => .ok on
    | none => .error (.notBoolean "--fail-fast" raw)

def noExtra (p : Parsed) : Except UsageError Unit :=
  if p.rest.isEmpty then .ok () else .error (.extraArguments p.rest)

def required (p : Parsed) (about : String) : Except UsageError String :=
  match p.text? about with
  | some s => .ok s
  | none => .error (.missingOption ("--" ++ about))

def runRequest (env : Env) (p : Parsed) : Except UsageError Request := do
  let failFast ← failFast env p
  noExtra p
  return .run {
    workflow := p.text? "workflow"
    event := p.text? "event"
    branch := p.text? "branch"
    workspace := p.text? "workspace"
    remote := p.text? "remote"
    failFast := failFast
    deploy := (p.flag? "deploy").getD true }

def planRequest (p : Parsed) : Except UsageError Request := do
  noExtra p
  return .plan { workflow := p.text? "workflow", workspace := (p.text? "workspace").getD "." }

def checkRequest (p : Parsed) : Except UsageError Request := do
  let event ← required p "event"
  let branch ← required p "branch"
  noExtra p
  return .check { event := event, branch := branch, workflow := p.text? "workflow" }

/-- Reads the arguments of a command. Help comes before all else that its options ask for. -/
def readRequest (debug : Bool) (page : Page) (forms : List OptionForm) (args : List String)
    (make : Parsed → Except UsageError Request) : Invocation :=
  match parse forms true args with
  | .error e => .misused page e
  | .ok p =>
    if (p.flag? "help").isSome then .help page
    else match make p with
      | .error e => .misused page e
      | .ok r => .request debug r

/-- Whether an unknown command looks like an option: its first character is no letter or digit. -/
def looksLikeOption (name : String) : Bool :=
  match name.toList with
  | [] => false
  | c :: _ => !Text.isAlphanumeric c

def Invocation.read (env : Env) (args : List String) : Invocation :=
  if args.isEmpty then .help .program
  else match parse programOptions false args with
    | .error e => .misused .program e
    | .ok p =>
      let debug := (p.flag? "debug").isSome
      if (p.flag? "help").isSome then .help .program
      else match p.rest with
        | [] => .misused .program .missingCommand
        | "run" :: args => readRequest debug .run runOptions args (runRequest env)
        | "plan" :: args => readRequest debug .plan planOptions args planRequest
        | "check" :: args => readRequest debug .check checkOptions args checkRequest
        | name :: _ =>
          if looksLikeOption name then .help .program
          else .misused .program (.noSuchCommand name)

end LocalCI.Command
