import LocalCI.Named

/-! Environment variables in the order in which they were first set. -/
namespace LocalCI

structure Env where
  vars : List (String × String) := []
deriving DecidableEq, Repr

namespace Env

def empty : Env := ⟨[]⟩

def get? (env : Env) (name : String) : Option String :=
  (env.vars.find? fun v => v.1 = name).map Prod.snd

def getD (env : Env) (name default : String) : String := (env.get? name).getD default

def set (env : Env) (name value : String) : Env := ⟨Named.put name value env.vars⟩

/-- The variables of `top` win over those of `env`. -/
def overlay (env top : Env) : Env := top.vars.foldl (fun e v => e.set v.1 v.2) env

/-- A variable that is set and not empty. -/
def nonEmpty? (env : Env) (name : String) : Option String := (env.get? name).filter (· ≠ "")

theorem get?_set (env : Env) (name value other : String) :
    (env.set name value).get? other = if name = other then some value else env.get? other :=
  Named.find?_put name other value env.vars

end Env
end LocalCI
