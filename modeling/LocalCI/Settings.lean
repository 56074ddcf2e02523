import LocalCI.Env
import LocalCI.Fault
import LocalCI.Text.Integer

/-! Settings read from the environment. The tool's own variables win over those of the hosting
service. -/
namespace LocalCI

structure Settings where
  workspace : String
  remote : String
  token : Option String
  eventName : Option String
  ref : Option String
  baseRef : Option String
  outputLimit : Int
  authorName : String
  authorEmail : String
deriving DecidableEq, Repr

namespace Settings

def defaultOutputLimit : Int := 4000

def defaultAuthorName : String := "actrun"

def defaultAuthorEmail : String := "actrun@users.noreply.github.com"

/-- A whole number that is not negative; the default if the variable is unset or blank. -/
def naturalSetting (env : Env) (name : String) (default : Int) : Except ConfigError Int :=
  match env.get? name with
  | none => .ok default
  | some raw =>
    if Text.isBlankText raw then .ok default
    else match Text.integer raw with
      | .error _ => .error (.notInteger name raw)
      | .ok n => if n < 0 then .error (.negative name n) else .ok n

/-- The first of two variables that is not empty. -/
def either? (env : Env) (own hosted : String) : Option String :=
  (env.nonEmpty? own).or (env.nonEmpty? hosted)

def ofEnv (env : Env) : Except ConfigError Settings := do
  let limit ← naturalSetting env "ACTRUN_OUTPUT_LIMIT" defaultOutputLimit
  return {
    workspace := (either? env "ACTRUN_WORKSPACE" "GITHUB_WORKSPACE").getD "."
    remote := env.getD "ACTRUN_REMOTE" "origin"
    token := either? env "ACTRUN_TOKEN" "GITHUB_TOKEN"
    eventName := either? env "ACTRUN_EVENT" "GITHUB_EVENT_NAME"
    ref := either? env "ACTRUN_BRANCH" "GITHUB_REF"
    baseRef := env.nonEmpty? "GITHUB_BASE_REF"
    outputLimit := limit
    authorName := env.getD "ACTRUN_AUTHOR_NAME" defaultAuthorName
    authorEmail := env.getD "ACTRUN_AUTHOR_EMAIL" defaultAuthorEmail }

end Settings
end LocalCI
