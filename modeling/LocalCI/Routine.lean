import LocalCI.Context
import LocalCI.Fault
import LocalCI.FileTree.Basic

/-! Code from outside that a job runs: actions and installers. It can do no more than is listed here,
but what it does next may depend on all it has seen. -/
namespace LocalCI

/-- A program that ran to its end. -/
structure Finished where
  code : Int
  out : String
  err : Option String
deriving DecidableEq, Repr

/-- What an action reports when it is done. -/
structure Reply where
  code : Scalar
  out : Option String
  err : Option String
deriving DecidableEq, Repr

def Finished.reply (f : Finished) : Reply := ⟨.int f.code, some f.out, f.err⟩

/-- A record of something that was started. -/
inductive Call where
  | process (args : List String) (cwd : Option String) (env : Option Env)
      (tree : Option (List (List String × Node.Entry)))
  | action (label : String) (params : Entries) (env : Env) (workspace : Path)
      (toolchain : Option Installed)
deriving Repr

/-- A step of a workflow, by its job and its number there. -/
structure Place where
  job : String := ""
  number : Nat := 0
deriving DecidableEq, Repr

/-- A change within a collection that a step declares among its parameters. -/
structure Alteration where
  place : Place
  key : Scalar
  change : Value → Value

/-- The parameters after the change; a scalar cannot be changed. -/
def Alteration.apply (params : Entries) (a : Alteration) : Entries :=
  params.map fun (key, v) =>
    match v with
    | .scalar s => (key, .scalar s)
    | v => (key, if key.sameKey a.key then a.change v else v)

inductive Routine (α : Type) where
  | done (result : α)
  | fail (fault : Fault)
  | wait (micros : Nat) (next : Routine α)
  /-- Looks at the context it was given and at everything that was started before. -/
  | look (next : Context → List Call → Routine α)
  /-- Changes the context it was given. -/
  | setContext (c : Context) (next : Routine α)
  /-- Changes the parameters it was given: puts, replaces or drops some of them. -/
  | setParams (params : Entries) (next : Routine α)
  /-- Changes a collection that it found among parameters, where it stands. -/
  | alter (a : Alteration) (next : Routine α)
  /-- Starts a program and sees what becomes of it. -/
  | launch (args : List String) (cwd : Option String) (env : Option Env)
      (next : Except Fault Finished → Routine α)
  /-- Changes files; it sees what was there before. -/
  | changeFiles (change : Node → Node) (next : Node → Routine α)

namespace Routine

/-- Sets variables in the environment it was given, then ends. -/
def exporting {α : Type} (exports : Env) (result : α) : Routine α :=
  .look fun c _ => .setContext { c with env := c.env.overlay exports } (.done result)

end Routine
end LocalCI
