import LocalCI.Git
import LocalCI.Settings

/-! The event a run answers: as given, else as the hosting service says, and with nothing known a
push of the branch that is checked out. -/
namespace LocalCI.Event

def startKind (given : Option String) (s : Settings) : String :=
  ((given.filter (· ≠ "")).or (s.eventName.filter (· ≠ ""))).getD Trigger.push

/-- The branch that is given, even if it is empty, or that the settings name; a pull request is about
the branch it is meant for. -/
def startBranch? (given : Option String) (kind : String) (s : Settings) : Option String :=
  match given with
  | some b => some b
  | none =>
    if kind = Trigger.pullRequest then (s.baseRef.filter (· ≠ "")).or s.ref else s.ref

/-- The checked out branch; none outside a repository. -/
def checkedOut (workspace : Location) : Act String :=
  tryCatch (Git.currentBranch (some (Location.text workspace))) fun f =>
    if Git.isRefusal f then return "" else throw f

def start (kind branch : Option String) (s : Settings) (workspace : Location) : Act Event := do
  let kind := startKind kind s
  match startBranch? branch kind s with
  | some b => return ⟨kind, Trigger.branchOf b⟩
  | none => return ⟨kind, Trigger.branchOf (← checkedOut workspace)⟩

end LocalCI.Event
