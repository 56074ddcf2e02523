import LocalCI.Env
import LocalCI.Glob
import LocalCI.Text.Search
import LocalCI.Value

/-! Which events start a run. A workflow lists rules, and any rule that matches is enough. -/
namespace LocalCI

/-- Matches one kind of event, on every branch or on those that fit one of some patterns. -/
structure Rule where
  event : String
  branches : Option (List String) := none
deriving DecidableEq, Repr

structure Event where
  kind : String
  branch : String
deriving DecidableEq, Repr

namespace Trigger

def push : String := "push"

def pullRequest : String := "pull_request"

def knownKinds : List String := [push, pullRequest]

def defaultBranch : String := "master"

/-- Pull requests against any branch, and pushes to the default branch. -/
def defaultRules : List Rule := [⟨pullRequest, none⟩, ⟨push, some [defaultBranch]⟩]

/-- The branch a ref names: one leading `refs/heads/` or `heads/` is taken off. -/
def branchOf (ref : String) : String :=
  match Text.after? "refs/heads/" ref with
  | some branch => branch
  | none => (Text.after? "heads/" ref).getD ref

end Trigger

open Trigger

def Rule.accepts (rule : Rule) (kind branch : String) : Bool :=
  rule.event == kind &&
  match rule.branches with
  | none => true
  | some patterns => patterns.any (globMatches · (branchOf branch))

namespace Trigger

/-- Whether an event starts a run; without rules the default ones hold. Kinds that are not known
never start one. -/
def starts (rules : Option (List Rule)) (kind branch : String) : Bool :=
  knownKinds.contains kind && (rules.getD defaultRules).any (·.accepts kind branch)

/-- As `starts`, for an event given as data: kind and branch have to be texts. -/
def startsOn (rules : Option (List Rule)) : Value → Value → Bool
  | .scalar (.text kind), .scalar (.text branch) => starts rules kind branch
  | _, _ => false

/-- The event that a hosting service describes in its variables. A pull request refers to the branch
it targets. -/
def eventOf? (env : Env) : Option Event :=
  (env.nonEmpty? "GITHUB_EVENT_NAME").map fun kind =>
    let ref := env.getD "GITHUB_REF" ""
    let branch :=
      if kind = pullRequest then (env.nonEmpty? "GITHUB_BASE_REF").getD ref else ref
    ⟨kind, branchOf branch⟩

/-- A workflow that lists no rules is triggered by the default ones. -/
def listed (rules : List Rule) : Option (List Rule) := if rules.isEmpty then none else some rules

end Trigger
end LocalCI
