import LocalCI.Git

/-! The checkout action: the workspace, or a directory named in the parameters, holds the repository
at the wanted ref afterwards. -/
namespace LocalCI

namespace Checkout

/-- Clones the repository if the directory does not hold one; gives a reply if that fails. -/
def provide (repository : Value) (target : Location) (env : Env) : Act (Option Reply) := do
  let dir := Location.text target
  if ← Git.isRepository (some dir) then return none
  if !repository.isTruthy then
    return some ⟨.int 1, some "",
      some s!"{dir} is not a git repository and no 'repository' was given"⟩
  Act.makeDirs target
  let source ← Act.text repository
  let cloned ← Git.run ["clone", source, dir] none (some env)
  return if cloned.code = 0 then none else some cloned.reply

/-- Brings a directory to the wanted ref, after the repository is there. -/
def bring (params : Entries) (env : Env) (target : Location) : Act Reply := do
  match ← provide (Entries.valueAt params "repository") target env with
  | some reply => return reply
  | none =>
    let ref := Entries.valueAt params "ref"
    let args ← if ref.isTruthy then (["checkout", ·]) <$> Act.text ref else pure ["rev-parse", "HEAD"]
    return (← Git.run args (some (Location.text target)) (some env)).reply

def run (params : Entries) (c : Context) : Act Reply := do
  let path := Entries.valueAt params "path"
  let below ← if path.isTruthy then Act.text path else pure "."
  let target ← Act.resolve (c.workspace.child below)
  bring params c.env target

end Checkout
end LocalCI
