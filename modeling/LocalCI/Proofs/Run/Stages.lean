import LocalCI.Proofs.Session

/-! The stages of a run: for every job that is executed, providing its toolchain, each step that is
started, and what follows the steps. Stages are seen from outside and need no run to come to an end.
Together they account for every call on record. -/
namespace LocalCI

open Attempt JobAct

/-- What is seen once the attempt has succeeded; nothing if it fails. -/
def Attempt.onOk {σ α β : Type} (x : Attempt σ α) (s : σ) (seen : α → σ → List β) : List β :=
  match x s with
  | (.ok a, t) => seen a t
  | (.error _, _) => []

theorem Attempt.mem_onOk {σ α β : Type} {x : Attempt σ α} {s : σ} {seen : α → σ → List β} {b : β} :
    b ∈ x.onOk s seen ↔ ∃ a t, x s = (.ok a, t) ∧ b ∈ seen a t := by
  unfold onOk
  constructor
  · intro member
    split at member
    next a t done => exact ⟨a, t, done, member⟩
    next => cases member
  · rintro ⟨a, t, done, member⟩
    rw [done]
    exact member

theorem Attempt.onOk_nil {σ α β : Type} (x : Attempt σ α) (s : σ) :
    x.onOk s (fun _ _ => []) = ([] : List β) := by
  unfold onOk
  split <;> rfl

namespace Runner

inductive Part where
  | toolchain
  | step (s : Step)
  | deployment

/-- A stretch of the execution of a job. -/
structure Stage where
  job : Job
  part : Part
  /-- The session when the job began. -/
  given : Session
  before : Session
  after : Session

/-- What was started during the stage. -/
def Stage.calls (x : Stage) : List Call :=
  x.after.machine.calls.drop x.before.machine.calls.length

/-- A step is started once it has been announced. -/
def stepStage (r : Runner) (j : Job) (given : Session) (place : Place) (step : Step) (s : Session) :
    List Stage :=
  (announce place step).onOk s fun _ t => [⟨j, .step step, given, t, (step.execute r.outputLimit t).2⟩]

def stepStages (r : Runner) (j : Job) (given : Session) : List Step → Session → List Stage
  | [], _ => []
  | step :: rest, s =>
    let place : Place := ⟨j.name, j.steps.length - (rest.length + 1)⟩
    r.stepStage j given place step s ++
    (r.runStep place step).onOk s fun result t =>
      if result.failed then [] else r.stepStages j given rest t

def buildStages (r : Runner) (j : Job) (toolchain : Option Installed) (given s : Session) :
    List Stage :=
  r.stepStages j given j.steps s ++
  (r.runSteps j j.steps).onOk s fun ended t =>
    [⟨j, .deployment, given, t, (r.conclude j toolchain ended.1 ended.2 t).2⟩]

/-- The stages of a job that runs in the context of the session. -/
def jobStages (r : Runner) (j : Job) (s : Session) : List Stage :=
  (JobAct.print (Report.jobStarted j.name j.runsOn)).onOk s fun _ given =>
    [⟨j, .toolchain, given, given, (r.provideToolchain j given).2⟩] ++
    (r.provideToolchain j).onOk given fun provided t =>
      match provided with
      | .error _ => []
      | .ok toolchain => r.buildStages j toolchain given t

def executeStages (r : Runner) (j : Job) (m : Machine) : List Stage :=
  (Act.resolve (Path.ofLocation r.workspace)).onOk m fun workspace n =>
    r.jobStages j ⟨r.contextFor workspace n.env j, n⟩

/-- A job that is passed over has no stages. -/
def turnStages (r : Runner) (p : Progress) (j : Job) (m : Machine) : List Stage :=
  if p.buildFailed && r.failFast then []
  else if p.blocked.contains j.name then []
  else r.executeStages j m

def jobsStages (r : Runner) (g : Graph) : Progress → List Job → Machine → List Stage
  | _, [], _ => []
  | p, j :: rest, m =>
    r.turnStages p j m ++ (r.runJob g p j).onOk m fun q n => r.jobsStages g q rest n

def runStages (r : Runner) (w : Workflow) (event : Event) (m : Machine) : List Stage :=
  if !Trigger.starts (Trigger.listed w.triggers) event.kind event.branch then []
  else
    (Act.ofWorkflow (Graph.ofJobs w.jobs)).onOk m fun g m =>
    (Act.ofWorkflow g.order).onOk m fun ordered m =>
    newRunId.onOk m fun id m =>
    (Act.print (Report.runStarted w.name event ordered.length id)).onOk m fun _ m =>
      r.jobsStages g {} ordered m

/-- The machine after requests that follow each other. A request that fails does not keep the next
from being made. -/
def runAll (r : Runner) : List (Workflow × Event) → Machine → Machine
  | [], m => m
  | request :: rest, m => r.runAll rest (r.run request.1 request.2 m).2

def allStages (r : Runner) : List (Workflow × Event) → Machine → List Stage
  | [], _ => []
  | request :: rest, m =>
    r.runStages request.1 request.2 m ++ r.allStages rest (r.run request.1 request.2 m).2

section Accounts

variable {σ α β : Type} {record : σ → List Call} {x : Attempt σ α} {f : α → Attempt σ β} {s : σ}
  {seen : List Stage} {more : α → σ → List Stage}

/-- The stages account for what the attempt adds to the record. -/
def Accounts (record : σ → List Call) (x : Attempt σ α) (s : σ) (seen : List Stage) : Prop :=
  record (x s).2 = record s ++ seen.flatMap Stage.calls

/-- Nothing is added to the record. -/
abbrev Quiet (record : σ → List Call) (x : Attempt σ α) : Prop :=
  Follows (fun s t => record t = record s) x

instance {γ : Type} {seen : σ → γ} : IsPreorder σ (fun s t => seen t = seen s) where
  refl _ := rfl
  trans _ _ _ first second := second.trans first

theorem Quiet.accounts (quiet : Quiet record x) : Accounts record x s [] := by
  unfold Accounts
  rw [quiet s, List.flatMap_nil, List.append_nil]

theorem Accounts.bind (first : Accounts record x s seen)
    (rest : ∀ a t, Accounts record (f a) t (more a t)) :
    Accounts record (x >>= f) s (seen ++ x.onOk s more) := by
  unfold Accounts at *
  rw [bind_apply, List.flatMap_append, ← List.append_assoc, ← first, onOk]
  cases x s with
  | mk outcome t =>
    cases outcome with
    | ok a => exact rest a t
    | error e => simp

theorem Accounts.bind_quiet (first : Accounts record x s seen) (rest : ∀ a, Quiet record (f a)) :
    Accounts record (x >>= f) s seen := by
  have both := first.bind fun a _ => (rest a).accounts
  rwa [onOk_nil, List.append_nil] at both

theorem Quiet.bind_accounts (first : Quiet record x)
    (rest : ∀ a t, Accounts record (f a) t (more a t)) :
    Accounts record (x >>= f) s (x.onOk s more) := first.accounts.bind rest

end Accounts

def sessionCalls (s : Session) : List Call := s.machine.calls

theorem print_quiet (lines : List Line) : Quiet sessionCalls (JobAct.print lines) := fun s =>
  (print_keeps (M := Machine.Adds fun _ => False) lines s).machine.calls_eq

theorem announce_quiet (place : Place) (step : Step) : Quiet sessionCalls (announce place step) := fun s =>
  (announce_keeps (M := Machine.Adds fun _ => False) place step s).machine.calls_eq

theorem act_quiet {α : Type} {x : Act α} (quiet : Follows (Machine.Adds fun _ => False) x) :
    Quiet Machine.calls x := fun m => (quiet m).calls_eq

/-- An attempt accounts for its calls by itself. -/
theorem stage_accounts {α : Type} {x : JobAct α} (adds : Follows (Session.Moves (Machine.Adds Call.Any)) x)
    (j : Job)
    (part : Part) (given s : Session) :
    Accounts sessionCalls x s [⟨j, part, given, s, (x s).2⟩] := by
  obtain ⟨_, _, made, calls, _⟩ := adds s
  simp [Accounts, sessionCalls, Stage.calls, calls]

variable (r : Runner) (j : Job)

theorem runStep_accounts (given s : Session) (place : Place) (step : Step) :
    Accounts sessionCalls (r.runStep place step) s (r.stepStage j given place step s) := by
  refine (announce_quiet place step).bind_accounts fun _ t => ?_
  refine Accounts.bind_quiet ?_ fun _ => .bind (print_quiet _) fun _ => .pure _
  exact stage_accounts (Session.moves_of_keeps (Step.execute_keeps step.alters_any _)) ..

theorem runSteps_accounts (given s : Session) (steps : List Step) :
    Accounts sessionCalls (r.runSteps j steps) s (r.stepStages j given steps s) := by
  induction steps generalizing s with
  | nil => exact Quiet.accounts (.pure _)
  | cons step rest ih =>
    refine (r.runStep_accounts j given s _ step).bind fun result t => ?_
    by_cases failed : result.failed = true
    · rw [if_pos failed, if_pos failed]
      exact Quiet.accounts (.pure _)
    · rw [if_neg failed, if_neg failed]
      exact (ih t).bind_quiet fun _ => .pure _

theorem build_accounts (toolchain : Option Installed) (given s : Session) :
    Accounts sessionCalls (r.build j toolchain) s (r.buildStages j toolchain given s) := by
  refine (r.runSteps_accounts j given s j.steps).bind fun ended t => ?_
  exact stage_accounts (Session.moves_of_keeps (r.conclude_keeps j toolchain _ _)) ..

theorem executeIn_accounts (s : Session) :
    Accounts sessionCalls (r.executeIn j) s (r.jobStages j s) := by
  refine (print_quiet _).bind_accounts fun _ given => ?_
  have providing := stage_accounts (provideToolchain_moves r.alters_any j) j .toolchain given given
  refine providing.bind fun provided t => ?_
  cases provided with
  | error e => exact Quiet.accounts (.pure _)
  | ok toolchain => exact r.build_accounts j toolchain given t

theorem execute_accounts (m : Machine) :
    Accounts Machine.calls (r.execute j) m (r.executeStages j m) := by
  refine (act_quiet (Act.resolve_conducts _)).bind_accounts fun workspace n => ?_
  exact r.executeIn_accounts j ⟨r.contextFor workspace n.env j, n⟩

theorem runJob_accounts (g : Graph) (p : Progress) (m : Machine) :
    Accounts Machine.calls (r.runJob g p j) m (r.turnStages p j m) := by
  have passed : ∀ reason, Quiet Machine.calls (do
      Act.print (Report.jobSkipped j.name reason)
      return p.skip j.name) := fun reason =>
    .bind (act_quiet (Act.print_adds _)) fun _ => .pure _
  unfold runJob turnStages
  split
  · exact (passed _).accounts
  · split
    · exact (passed _).accounts
    · exact (r.execute_accounts j m).bind_quiet fun _ => .pure _

theorem runJobs_accounts (g : Graph) (p : Progress) (jobs : List Job) (m : Machine) :
    Accounts Machine.calls (r.runJobs g p jobs) m (r.jobsStages g p jobs m) := by
  induction jobs generalizing p m with
  | nil => exact Quiet.accounts (.pure _)
  | cons j rest ih => exact (r.runJob_accounts j g p m).bind fun q n => ih q n

theorem run_accounts (w : Workflow) (event : Event) (m : Machine) :
    Accounts Machine.calls (r.run w event) m (r.runStages w event m) := by
  unfold run runStages
  split
  · exact Quiet.accounts (.bind (act_quiet (Act.print_adds _)) fun _ => .pure _)
  · refine Quiet.bind_accounts (.ofExcept _) fun g m => ?_
    refine Quiet.bind_accounts (.ofExcept _) fun ordered m => ?_
    refine Quiet.bind_accounts (act_quiet newRunId_moves) fun id m => ?_
    refine Quiet.bind_accounts (act_quiet (Act.print_adds _)) fun _ m => ?_
    refine (r.runJobs_accounts g {} ordered m).bind_quiet fun p => ?_
    exact .bind (act_quiet (Act.print_adds _)) fun _ => .pure _

/-- Everything on record after a sequence of requests was started in one of their stages. -/
theorem runAll_calls (requests : List (Workflow × Event)) (m : Machine) :
    (r.runAll requests m).calls = m.calls ++ (r.allStages requests m).flatMap Stage.calls := by
  induction requests generalizing m with
  | nil => simp [runAll, allStages]
  | cons request rest ih =>
    have here := r.run_accounts request.1 request.2 m
    rw [runAll, ih, allStages, List.flatMap_append, ← List.append_assoc, ← here]

end Runner
end LocalCI
