import LocalCI.Machine

/-! Questions to git. -/
namespace LocalCI.Git

/-- Runs git and leaves it to the caller what a non-zero exit code means. -/
def run (args : List String) (cwd : Option String) (env : Option Env) : Act Finished :=
  Act.launch ("git" :: args) cwd env

/-- What git says, without the blanks around it; a non-zero exit code is a fault. -/
def ask (args : List String) (cwd : Option String) : Act String := do
  let done ← run args cwd none
  if done.code = 0 then return Text.strip done.out
  else throw (.commandFailed ("git" :: args) done.code done.err)

/-- Whether a fault is git's way to say no: it failed, or it was not there to be asked. -/
def isRefusal : Fault → Bool
  | .commandFailed _ _ _ => true
  | f => f.isMissing

def repositoryRoot (cwd : Option String) : Act Path := do
  return Path.ofString (← ask ["rev-parse", "--show-toplevel"] cwd)

def isRepository (cwd : Option String) : Act Bool :=
  tryCatch (do let _ ← repositoryRoot cwd; return true) fun f =>
    if isRefusal f then return false else throw f

/-- The branch that is checked out. -/
def currentBranch (cwd : Option String) : Act String := ask ["rev-parse", "--abbrev-ref", "HEAD"] cwd

def remoteUrl (name : String) (cwd : Option String) : Act String :=
  ask ["remote", "get-url", name] cwd

end LocalCI.Git
