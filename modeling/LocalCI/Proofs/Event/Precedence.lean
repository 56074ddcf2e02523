import LocalCI.Proofs.Attempt
import LocalCI.StartEvent

/-! Which variables decide the event a run is for. The tool's own variables win over those of the
hosting service and no program is asked, with one exception: the branch of a pull request is the one
the service names as its target, if it names one. -/
namespace LocalCI

open Attempt

namespace Env

def isOwn (name : String) : Bool := Text.startsWith name "ACTRUN_"

/-- The environments differ at most in variables that are not the tool's own. -/
def SameOwn (env other : Env) : Prop := ∀ name, isOwn name = true → env.get? name = other.get? name

variable {env other : Env} {name : String}

theorem ne_empty_of_nonEmpty? {value : String} (set : env.nonEmpty? name = some value) :
    value ≠ "" := by
  obtain ⟨_, filled⟩ := Option.filter_eq_some_iff.mp set
  simpa using filled

theorem SameOwn.nonEmpty? (same : env.SameOwn other) (own : isOwn name = true) :
    other.nonEmpty? name = env.nonEmpty? name := by
  rw [Env.nonEmpty?, Env.nonEmpty?, same name own]

/-- A variable of the hosting service can be set without touching the tool's own. -/
theorem sameOwn_set (hosted : isOwn name = false) (value : String) :
    env.SameOwn (env.set name value) := by
  intro asked own
  have different : name ≠ asked := by
    rintro rfl
    rw [hosted] at own
    cases own
  rw [get?_set, if_neg different]

end Env

namespace Settings

variable {env other : Env} {s : Settings}

theorem naturalSetting_congr {name : String} (same : env.get? name = other.get? name)
    (default : Int) : naturalSetting env name default = naturalSetting other name default := by
  simp only [naturalSetting, same]

theorem ne_empty_of_either? {own hosted value : String} (named : either? env own hosted = some value) :
    value ≠ "" := by
  rcases Option.or_eq_some_iff.mp named with first | ⟨_, second⟩
  · exact Env.ne_empty_of_nonEmpty? first
  · exact Env.ne_empty_of_nonEmpty? second

/-- What the settings that are about events are read from. -/
theorem ofEnv_eq_ok (read : ofEnv env = .ok s) :
    s.eventName = either? env "ACTRUN_EVENT" "GITHUB_EVENT_NAME" ∧
    s.ref = either? env "ACTRUN_BRANCH" "GITHUB_REF" ∧
    s.baseRef = env.nonEmpty? "GITHUB_BASE_REF" := by
  unfold ofEnv at read
  cases limit : naturalSetting env "ACTRUN_OUTPUT_LIMIT" defaultOutputLimit with
  | error e =>
    rw [limit] at read
    cases read
  | ok n =>
    rw [limit] at read
    cases read
    exact ⟨rfl, rfl, rfl⟩

/-- Whether settings can be read at all hangs on the tool's own variables. -/
theorem ofEnv_of_sameOwn (same : env.SameOwn other) (read : ofEnv env = .ok s) :
    ∃ t, ofEnv other = .ok t := by
  have limits := naturalSetting_congr (same "ACTRUN_OUTPUT_LIMIT" (by decide)) defaultOutputLimit
  unfold ofEnv at read ⊢
  rw [← limits]
  cases limit : naturalSetting env "ACTRUN_OUTPUT_LIMIT" defaultOutputLimit with
  | error e =>
    rw [limit] at read
    cases read
  | ok n => exact ⟨_, rfl⟩

end Settings

namespace Event

variable {env other : Env} {s : Settings} {kind branch : String}

/-- Where the branch is known, nothing is asked. -/
theorem start_of_branch {given named : Option String}
    (known : startBranch? named (startKind given s) s = some branch) (workspace : Location) :
    start given named s workspace = pure ⟨startKind given s, Trigger.branchOf branch⟩ := by
  simp only [start, known]

/-- The branch that the hosting service names for a pull request. -/
def hostedBase? (env : Env) (kind : String) : Option String :=
  if kind = Trigger.pullRequest then env.nonEmpty? "GITHUB_BASE_REF" else none

/-- The branch that the variables name for an event of a kind. -/
def namedBranch? (env : Env) (kind : String) : Option String :=
  (hostedBase? env kind).or (Settings.either? env "ACTRUN_BRANCH" "GITHUB_REF")

/-- An event whose kind and branch are named by variables is the one they name. -/
theorem start_of_env (kindNamed : Settings.either? env "ACTRUN_EVENT" "GITHUB_EVENT_NAME" = some kind)
    (branchNamed : namedBranch? env kind = some branch) (read : Settings.ofEnv env = .ok s)
    (workspace : Location) :
    start none none s workspace = pure ⟨kind, Trigger.branchOf branch⟩ := by
  obtain ⟨eventName, ref, baseRef⟩ := Settings.ofEnv_eq_ok read
  have asked : startKind none s = kind := by
    have filled := Settings.ne_empty_of_either? kindNamed
    simp [startKind, eventName, kindNamed, Option.filter, filled]
  have base : s.baseRef.filter (· ≠ "") = env.nonEmpty? "GITHUB_BASE_REF" := by
    rw [baseRef, Env.nonEmpty?, Option.filter_filter]
    simp
  have known : startBranch? none (startKind none s) s = some branch := by
    rw [asked, ← branchNamed, namedBranch?, hostedBase?, startBranch?]
    split
    · rw [base, ref]
    · rw [ref, Option.none_or]
  rw [start_of_branch known, asked]

theorem start_of_own (named : env.nonEmpty? "ACTRUN_EVENT" = some kind)
    (given : env.nonEmpty? "ACTRUN_BRANCH" = some branch) (read : Settings.ofEnv env = .ok s)
    (workspace : Location) :
    start none none s workspace =
      pure ⟨kind, Trigger.branchOf ((hostedBase? env kind).getD branch)⟩ := by
  have kindNamed : Settings.either? env "ACTRUN_EVENT" "GITHUB_EVENT_NAME" = some kind := by
    rw [Settings.either?, named, Option.some_or]
  have branchNamed : namedBranch? env kind = some ((hostedBase? env kind).getD branch) := by
    rw [namedBranch?, Settings.either?, given, Option.some_or]
    cases hostedBase? env kind <;> rfl
  exact start_of_env kindNamed branchNamed read workspace

/-- The tool's own variables decide the event, whatever the hosting service has set, and no program is
started. Only the branch of a pull request can be another one, and only where the service names it. -/
theorem start_own_wins (same : env.SameOwn other)
    (named : env.nonEmpty? "ACTRUN_EVENT" = some kind)
    (given : env.nonEmpty? "ACTRUN_BRANCH" = some branch) (read : Settings.ofEnv env = .ok s)
    (workspace : Location) :
    ∃ t, Settings.ofEnv other = .ok t ∧
      start none none s workspace =
        pure ⟨kind, Trigger.branchOf ((hostedBase? env kind).getD branch)⟩ ∧
      start none none t workspace =
        pure ⟨kind, Trigger.branchOf ((hostedBase? other kind).getD branch)⟩ ∧
      (kind ≠ Trigger.pullRequest ∨
          env.nonEmpty? "GITHUB_BASE_REF" = none ∧ other.nonEmpty? "GITHUB_BASE_REF" = none →
        start none none s workspace = pure ⟨kind, Trigger.branchOf branch⟩ ∧
        start none none t workspace = pure ⟨kind, Trigger.branchOf branch⟩) := by
  obtain ⟨t, readOther⟩ := Settings.ofEnv_of_sameOwn same read
  have first := start_of_own named given read workspace
  have second := start_of_own ((same.nonEmpty? (by decide)).trans named)
    ((same.nonEmpty? (by decide)).trans given) readOther workspace
  refine ⟨t, readOther, first, second, fun unhosted => ?_⟩
  have bases : hostedBase? env kind = none ∧ hostedBase? other kind = none := by
    unfold hostedBase?
    rcases unhosted with different | unset
    · simp [different]
    · simp [unset]
  rw [first, second, bases.1, bases.2]
  exact ⟨rfl, rfl⟩

/-- A push that the user asked for, where the service tells of a pull request. -/
def ownPush : Env := ⟨[("ACTRUN_EVENT", "push"), ("ACTRUN_BRANCH", "refs/heads/main")]⟩

theorem start_own_wins_push :
    let hosted := (ownPush.set "GITHUB_EVENT_NAME" "pull_request").set "GITHUB_BASE_REF" "develop"
    ∃ s t, Settings.ofEnv ownPush = .ok s ∧ Settings.ofEnv hosted = .ok t ∧
      start none none s [] = pure ⟨"push", "main"⟩ ∧ start none none t [] = pure ⟨"push", "main"⟩ := by
  intro hosted
  have same : ownPush.SameOwn hosted := fun name own =>
    (Env.sameOwn_set (by decide) _ name own).trans (Env.sameOwn_set (by decide) _ name own)
  have named : ownPush.nonEmpty? "ACTRUN_EVENT" = some "push" := rfl
  have given : ownPush.nonEmpty? "ACTRUN_BRANCH" = some "refs/heads/main" := rfl
  obtain ⟨t, readHosted, _, _, wins⟩ := start_own_wins same named given rfl []
  exact ⟨_, t, rfl, readHosted, wins (Or.inl (by decide))⟩

/-- A pull request of the user's own is taken to be about the branch that the service names. -/
def ownPullRequest : Env := ⟨[("ACTRUN_EVENT", "pull_request"), ("ACTRUN_BRANCH", "main")]⟩

theorem start_own_loses :
    let hosted := ownPullRequest.set "GITHUB_BASE_REF" "develop"
    ownPullRequest.SameOwn hosted ∧
    ∃ s t, Settings.ofEnv ownPullRequest = .ok s ∧ Settings.ofEnv hosted = .ok t ∧
      start none none s [] = pure ⟨"pull_request", "main"⟩ ∧
      start none none t [] = pure ⟨"pull_request", "develop"⟩ := by
  intro hosted
  obtain ⟨s, read⟩ : ∃ s, Settings.ofEnv ownPullRequest = .ok s := ⟨_, rfl⟩
  obtain ⟨t, readHosted⟩ : ∃ t, Settings.ofEnv hosted = .ok t := ⟨_, rfl⟩
  have kind : ownPullRequest.nonEmpty? "ACTRUN_EVENT" = some "pull_request" := rfl
  have kindHosted : hosted.nonEmpty? "ACTRUN_EVENT" = some "pull_request" := rfl
  have branch : ownPullRequest.nonEmpty? "ACTRUN_BRANCH" = some "main" := rfl
  have branchHosted : hosted.nonEmpty? "ACTRUN_BRANCH" = some "main" := rfl
  have base : hostedBase? hosted "pull_request" = some "develop" := rfl
  refine ⟨Env.sameOwn_set (by decide) _, s, t, read, readHosted, start_of_own kind branch read [], ?_⟩
  rw [start_of_own kindHosted branchHosted readHosted [], base]
  rfl

end Event
end LocalCI
