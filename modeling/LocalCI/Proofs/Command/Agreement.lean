import LocalCI.Command
import LocalCI.Proofs.Attempt
import LocalCI.Proofs.Event.Triggers

/-! Asking whether an event starts a run, and running for it. Both take the ref off a branch, and a run
takes it off once more before its rules look at the branch, so the two agree where nothing is left to
take off or where no rule looks. -/
namespace LocalCI

open Attempt

namespace Trigger

/-- To take the ref off the branch once more makes no difference to the rules for the kind. -/
def Settled (rules : Option (List Rule)) (kind branch : String) : Prop :=
  isRef (branchOf branch) = false ∨
    ∀ rule ∈ rules.getD defaultRules, rule.event = kind → rule.branches = none

theorem accepts_branchOf {rule : Rule} {kind branch : String}
    (settled : isRef (branchOf branch) = false ∨ (rule.event = kind → rule.branches = none)) :
    rule.accepts kind (branchOf branch) = rule.accepts kind branch := by
  rcases settled with plain | blind
  · simp only [Rule.accepts, branchOf_of_not_isRef plain]
  · by_cases same : rule.event = kind
    · simp [Rule.accepts, blind same]
    · have other : (rule.event == kind) = false := by simpa using same
      simp [Rule.accepts, other]

theorem starts_branchOf {rules : Option (List Rule)} {kind branch : String}
    (settled : Settled rules kind branch) :
    starts rules kind (branchOf branch) = starts rules kind branch := by
  have same : ∀ rule ∈ rules.getD defaultRules,
      rule.accepts kind (branchOf branch) = rule.accepts kind branch := fun rule member =>
    accepts_branchOf (settled.imp_right fun blind => blind rule member)
  have any : (rules.getD defaultRules).any (·.accepts kind (branchOf branch)) =
      (rules.getD defaultRules).any (·.accepts kind branch) := by
    rw [Bool.eq_iff_iff, List.any_eq_true, List.any_eq_true]
    constructor
    · rintro ⟨rule, member, accepted⟩
      exact ⟨rule, member, (same rule member).symm.trans accepted⟩
    · rintro ⟨rule, member, accepted⟩
      exact ⟨rule, member, (same rule member).trans accepted⟩
  rw [starts, starts, any]

end Trigger

/-- A kind and a branch that are given make the event, and nothing else is asked. -/
theorem Event.start_given {kind branch : String} (named : kind ≠ "") (s : Settings)
    (workspace : Location) :
    start (some kind) (some branch) s workspace = pure ⟨kind, Trigger.branchOf branch⟩ := by
  have given : startKind (some kind) s = kind := by simp [startKind, Option.filter, named]
  simp only [start, startBranch?, given]

namespace Command

variable {registry : Registry} {file kind branch : String} {m n : Machine} {w : Workflow}

theorem checkRules_of_load (given : file ≠ "")
    (loaded : Workflow.load registry (Path.ofString file) m = (.ok w, n)) :
    checkRules registry (some file) m = (.ok (Trigger.listed w.triggers), n) := by
  have kept : (some file).filter (· ≠ "") = some file := by simp [Option.filter, given]
  simp only [checkRules, kept]
  rw [bind_of_ok loaded]
  rfl

theorem check_of_load (given : file ≠ "")
    (loaded : Workflow.load registry (Path.ofString file) m = (.ok w, n)) :
    check registry ⟨kind, branch, some file⟩ m =
      (if Trigger.starts (Trigger.listed w.triggers) kind branch then
        leave [.out s!"run: {kind} on '{branch}' matches"] 0
      else leave [.out s!"skip: {kind} on '{branch}' matches no trigger"] 1) n := by
  have rules : Attempt.attempt (checkRules registry (some file)) m =
      (.ok (.ok (Trigger.listed w.triggers)), n) := by
    rw [attempt_apply, checkRules_of_load given loaded]
  unfold check
  rw [bind_of_ok rules]

/-- A run of the loaded workflow is a run of it for the event that was given. -/
theorem runFile_of_load (debug : Bool) {o : RunOptions} {s : Settings} {workspace : Location}
    {path : Path} {event : Event} (loaded : Workflow.load registry path m = (.ok w, n))
    (started : Event.start o.event o.branch s workspace n = (.ok event, n)) :
    ∃ runner : Location → Runner, runFile registry debug o s workspace path m =
      (do
        let repository ← Act.resolve (Path.ofLocation workspace)
        return exitCode (← (runner repository).run w event) : Act Int) n := by
  unfold runFile
  rw [bind_of_ok loaded, bind_of_ok started]
  exact ⟨_, rfl⟩

/-- Whether a check of a loadable workflow says that it would run is whether the event that a run with
the same options is for would start it, if the branch is settled. -/
theorem check_agrees_with_run (debug : Bool) (o : RunOptions) (s : Settings) (workspace : Location)
    (loaded : Workflow.load registry (Path.ofString file) m = (.ok w, n)) (given : file ≠ "")
    (named : kind ≠ "") (options : o.event = some kind ∧ o.branch = some branch)
    (settled : Trigger.Settled (Trigger.listed w.triggers) kind branch) :
    ∃ (event : Event) (runner : Location → Runner),
      Event.start o.event o.branch s workspace n = (.ok event, n) ∧
      runFile registry debug o s workspace (Path.ofString file) m =
        (do
          let repository ← Act.resolve (Path.ofLocation workspace)
          return exitCode (← (runner repository).run w event) : Act Int) n ∧
      check registry ⟨kind, branch, some file⟩ m =
        (if Trigger.starts (Trigger.listed w.triggers) event.kind event.branch then
          leave [.out s!"run: {kind} on '{branch}' matches"] 0
        else leave [.out s!"skip: {kind} on '{branch}' matches no trigger"] 1) n := by
  have started : Event.start o.event o.branch s workspace n =
      (.ok ⟨kind, Trigger.branchOf branch⟩, n) := by
    rw [options.1, options.2, Event.start_given named]
    rfl
  obtain ⟨runner, ran⟩ := runFile_of_load debug loaded started
  refine ⟨_, runner, started, ran, ?_⟩
  rw [check_of_load given loaded, Trigger.starts_branchOf settled]

/-- A file whose workflow is for pushes to `main`. -/
def pushMachine : Machine where
  files := .dir [("ci.yml", .file (.text
    "on:\n  push:\n    branches: [main]\njobs:\n  build:\n    steps:\n      - run: make\n"))]
  cwd := []
  temp := []

theorem load_push :
    (Workflow.load .builtin (Path.ofString "ci.yml") pushMachine).1.toOption.map Workflow.triggers =
      some [⟨"push", some ["main"]⟩] := by
  decide +kernel

/-- Nothing is known but what is asked for. -/
def bareSettings : Settings where
  workspace := "."
  remote := "origin"
  token := none
  eventName := none
  ref := none
  baseRef := none
  outputLimit := Settings.defaultOutputLimit
  authorName := Settings.defaultAuthorName
  authorEmail := Settings.defaultAuthorEmail

/-- A push to `main` that is given as a ref. -/
theorem check_agrees_with_run_ref :
    let o : RunOptions := { event := some "push", branch := some "refs/heads/main" }
    ∃ (w : Workflow) (loaded : Machine) (event : Event) (runner : Location → Runner),
      Workflow.load .builtin (Path.ofString "ci.yml") pushMachine = (.ok w, loaded) ∧
      Event.start o.event o.branch bareSettings [] loaded = (.ok event, loaded) ∧
      runFile .builtin false o bareSettings [] (Path.ofString "ci.yml") pushMachine =
        (do
          let repository ← Act.resolve (Path.ofLocation [])
          return exitCode (← (runner repository).run w event) : Act Int) loaded ∧
      Trigger.starts (Trigger.listed w.triggers) event.kind event.branch = true ∧
      check .builtin ⟨"push", "refs/heads/main", some "ci.yml"⟩ pushMachine =
        leave [.out "run: push on 'refs/heads/main' matches"] 0 loaded := by
  intro o
  obtain ⟨w, n, loaded, triggers⟩ := exists_ok_of_seen load_push
  obtain ⟨event, runner, started, ran, checked⟩ :=
    check_agrees_with_run false o bareSettings [] loaded (by decide) (by decide) ⟨rfl, rfl⟩
      (Or.inl (by decide +kernel))
  have same : event = ⟨"push", "main"⟩ := by
    have given : Event.start o.event o.branch bareSettings [] = pure ⟨"push", "main"⟩ :=
      Event.start_given (by decide) bareSettings []
    rw [given] at started
    cases started
    rfl
  subst same
  have starts : Trigger.starts (Trigger.listed w.triggers) "push" "main" = true := by
    rw [triggers]
    decide +kernel
  rw [if_pos starts] at checked
  exact ⟨w, n, _, runner, loaded, started, ran, starts, checked⟩

/-- A branch whose own name starts like a ref: the check says no, and a run for the event goes ahead. -/
theorem check_differs_from_run :
    (check .builtin ⟨"push", "refs/heads/heads/main", some "ci.yml"⟩ pushMachine).1.toOption = some 1 ∧
    Event.start (some "push") (some "refs/heads/heads/main") bareSettings [] pushMachine =
      (.ok ⟨"push", "heads/main"⟩, pushMachine) ∧
    (Workflow.load .builtin (Path.ofString "ci.yml") pushMachine).1.toOption.map Workflow.triggers =
      some [⟨"push", some ["main"]⟩] ∧
    Trigger.starts (Trigger.listed [⟨"push", some ["main"]⟩]) "push" "heads/main" = true := by
  refine ⟨by decide +kernel, ?_, load_push, by decide +kernel⟩
  rw [Event.start_given (by decide)]
  rfl

end Command

end LocalCI
