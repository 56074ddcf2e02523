import LocalCI.Proofs.Job.Order
import LocalCI.Proofs.Run.Stages

/-! Steps are isolated from each other. A step is started with the variables its job has after the
job's own provisioning, under the variables of the step, whatever actions do to the contexts they are
given. Of its parameters an action gets a copy, so it may put, replace and drop what it likes. The copy
has the same collections in it: an action that changes one of them where it stands changes what its
step declares, and only such a change is seen by a later run of that step. -/
namespace LocalCI

open Attempt JobAct

namespace Env

/-- The value that was given to a variable last. -/
def latest? (env : Env) (name : String) : Option String :=
  (env.vars.reverse.find? fun v => v.1 = name).map Prod.snd

theorem get?_overlay (env top : Env) (name : String) :
    (env.overlay top).get? name = (top.latest? name).or (env.get? name) := by
  obtain ⟨settings⟩ := top
  unfold overlay latest?
  induction settings generalizing env with
  | nil => rfl
  | cons v rest ih =>
    rw [List.foldl_cons, ih, get?_set, List.reverse_cons, List.find?_append]
    by_cases same : v.1 = name
    · cases rest.reverse.find? fun v => v.1 = name <;> simp [same]
    · simp [same]

/-- The environment has the variables on top, and below them those it was made from. -/
structure Overlays (top below env : Env) : Prop where
  eq : env = below.overlay top
  values : ∀ name, env.get? name = (top.latest? name).or (below.get? name)

theorem overlay_overlays (below top : Env) : Overlays top below (below.overlay top) :=
  ⟨rfl, get?_overlay below top⟩

end Env

namespace Step

/-- How a step is started in a context. A script gets the variables of the context; an action gets the
context, and the parameters of the step as they are by now. -/
def Started (c : Context) (before after : Machine) : Step → Prop
  | .shell _ run cwd _ =>
    after = (runShell run cwd c before).2 ∧
    (after.calls = before.calls ∨ ∃ dir tree, after.calls = before.calls ++
      [.process (shellCommand ++ [run]) (some dir) (some c.env) tree])
  | .action _ _ .checkout params _ =>
    let given := before.paramsNow params
    after = (Checkout.run given c { before with params := given }).2 ∧
    before.Adds (Call.Inherits c.env) after
  | .action _ _ (.custom label body) params _ =>
    let given := before.paramsNow params
    let call := .action label given c.env c.workspace c.toolchain
    after = ((body given).run ⟨c, { before with params := given }.record call⟩).2.machine ∧
    ∃ more, after.calls = before.calls ++ call :: more
  | .other _ => after = before

/-- A script is started at most once, with the variables of the context. -/
theorem runShell_calls (script : String) (cwd : Value) (c : Context) (m : Machine) :
    (runShell script cwd c m).2.calls = m.calls ∨
    ∃ dir tree, (runShell script cwd c m).2.calls = m.calls ++
      [.process (shellCommand ++ [script]) (some dir) (some c.env) tree] := by
  let Goal (n : Machine) : Prop := n.calls = m.calls ∨ ∃ dir tree, n.calls = m.calls ++
    [.process (shellCommand ++ [script]) (some dir) (some c.env) tree]
  have stays : Goal m := Or.inl rfl
  refine of_still_bind (P := Goal) (.ofExcept _) stays fun path => ?_
  refine of_still_bind (P := Goal) (.bind .get fun _ => .ofExcept _) stays fun dir => ?_
  refine of_still_bind (P := Goal) (.bind .get fun _ => .ofExcept _) stays fun present => ?_
  split
  · exact stays
  · rw [snd_tryCatch_still, snd_bind_still fun _ => .pure _]
    · rcases Act.launch_cases (shellCommand ++ [script]) (some (Location.text dir)) (some c.env) m
        with same | added
      · rw [same]
        exact stays
      · rw [added]
        exact Or.inr ⟨_, _, rfl⟩
    · intro f
      split
      · exact .pure _
      · exact .throw _

theorem runAction_snd (handler : Handler) (params : Entries) (s : Session) :
    (runAction handler params s).2 = (handler.run params s).2 := by
  refine snd_tryCatch_still fun f => ?_
  split
  · exact .pure _
  · exact .throw _

theorem perform_started (step : Step) (c : Context) (m : Machine) :
    step.Started c m (step.perform ⟨c, m⟩).2.machine := by
  cases step with
  | shell name run cwd env => exact ⟨rfl, runShell_calls run cwd c m⟩
  | action name uses handler params env =>
    rw [perform, runAction_snd]
    cases handler with
    | checkout =>
      have adds := Checkout.run_adds (m.paramsNow params) c { m with params := m.paramsNow params }
      exact ⟨rfl, adds.env, adds.accounts, adds.calls⟩
    | custom label body =>
      let given := m.paramsNow params
      let call := Call.action label given c.env c.workspace c.toolchain
      have ran : ({ m with params := given }.record call).Adds Call.Any
          ((body given).run ⟨c, { m with params := given }.record call⟩).2.machine :=
        Routine.run_moves (body given).alters_any _
      obtain ⟨_, _, more, calls, _⟩ := ran
      refine ⟨rfl, more, calls.trans ?_⟩
      rw [Machine.record, List.append_assoc, List.singleton_append]
  | other v => rfl

/-- All a step does is what it performs in its own context, which is then given up. -/
theorem execute_snd (limit : Int) (step : Step) (s : Session) :
    (step.execute limit s).2 =
      ⟨s.context, (step.perform ⟨s.context.forStep step, s.machine⟩).2.machine⟩ := by
  unfold execute
  rw [bind_of_ok (get_apply s), bind_of_ok (rfl : JobAct.context s = (.ok s.context, s)),
    snd_bind_still]
  · rfl
  · exact fun _ => .bind .get fun _ => .bind (.ofExcept _) fun _ => .pure _

end Step

namespace Runner

variable {r : Runner} {j : Job} {x : Stage} {step : Step}

/-- The context of a job after its own provisioning. -/
def provisioned (r : Runner) (j : Job) (s : Session) : Context :=
  match j.toolchain with
  | none => s.context
  | some t => (provision r.installers t s).2.context

theorem provideToolchain_context (r : Runner) (j : Job) (s : Session) :
    (r.provideToolchain j s).2.context = r.provisioned j s := by
  have printed : ∀ {α : Type} (lines : List Line) (a : α), Follows (Session.Keeps (Machine.Adds Call.Any)) (do
      JobAct.print lines
      return a) := fun lines a => .bind (print_keeps lines) fun _ => .pure a
  unfold provideToolchain provisioned
  cases j.toolchain with
  | none => rfl
  | some t =>
    dsimp only
    rw [bind_of_ok (attempt_apply (provision r.installers t) s)]
    cases (provision r.installers t s).1 with
    | ok installed => exact (printed _ _ _).context
    | error f =>
      cases f with
      | provision e => exact (printed _ _ _).context
      | _ => rfl

/-- A job that runs in a given context changes it by provisioning only. -/
theorem executeIn_context {s given : Session} {announced : Except Fault Unit}
    (opened : JobAct.print (Report.jobStarted j.name j.runsOn) s = (announced, given)) :
    given.context = s.context ∧ (r.executeIn j s).2.context =
      if announced.isOk then r.provisioned j given else s.context := by
  have kept := ((print_keeps (M := Machine.Adds Call.Any) _).ended opened).context
  refine ⟨kept, ?_⟩
  unfold executeIn
  rw [bind_apply, opened]
  cases announced with
  | error f => exact kept
  | ok =>
    change _ = r.provisioned j given
    rw [← r.provideToolchain_context j given]
    dsimp only
    rw [bind_apply]
    cases r.provideToolchain j given with
    | mk outcome t =>
      cases outcome with
      | error f => rfl
      | ok provided =>
        cases provided with
        | error e => rfl
        | ok toolchain =>
          exact (build_keeps (M := Machine.Adds Call.Any) j.alters_any toolchain t).context

/-- The step of the stage was executed in its own place, in the context its job had after provisioning. -/
structure Begun (r : Runner) (x : Stage) (step : Step) : Prop where
  place : ∃ number, x.before.machine.place = ⟨x.job.name, number⟩ ∧ x.job.steps[number]? = some step
  context : x.before.context = r.provisioned x.job x.given
  executed : x.after = (step.execute r.outputLimit x.before).2

/-- The second machine is one that executing some of the jobs can lead to: between the two there is only
what the tool does by itself and what these jobs and the installers do. -/
def Reaches (r : Runner) (jobs : List Job) (m n : Machine) : Prop :=
  ∀ (Q : Alteration → Prop) (M : Machine → Machine → Prop) [Machine.Moves Q M],
    r.Alters Q → (∀ j ∈ jobs, j.Alters Q) → M m n

section Reaches

variable {jobs more : List Job} {k m n : Machine}

theorem Reaches.refl (m : Machine) : r.Reaches jobs m m := fun _ M _ _ _ => refl_of M m

theorem Reaches.trans (first : r.Reaches jobs k m) (second : r.Reaches jobs m n) : r.Reaches jobs k n :=
  fun Q M _ others own => trans_of M (first Q M others own) (second Q M others own)

theorem Reaches.mono (reaches : r.Reaches jobs m n) (fewer : jobs ⊆ more) : r.Reaches more m n :=
  fun Q M _ others own => reaches Q M others fun j member => own j (fewer member)

theorem Reaches.env (reaches : r.Reaches jobs m n) : n.env = m.env :=
  (reaches Alteration.Any (Machine.Adds Call.Any) r.alters_any fun j _ => j.alters_any).env

end Reaches

theorem announce_place {place : Place} {s t : Session}
    (announced : announce place step s = (.ok (), t)) : t.machine.place = place := by
  obtain ⟨name, _, _, turning⟩ := bind_eq_ok.mp announced
  obtain ⟨_, u, turned, told⟩ := bind_eq_ok.mp turning
  cases turned
  have printing : Follows (fun m n : Machine => n.place = m.place) (Act.print (Report.step name)) :=
    Act.print_conducts (fun _ _ => rfl) _
  exact (onMachine_moves printing).ended told

/-- Steps are started from where those before them led to, each in its place. -/
theorem mem_stepStages {given s : Session} {before steps : List Step} (whole : j.steps = before ++ steps)
    (seen : x ∈ r.stepStages j given steps s) :
    ∃ step number t, x = ⟨j, .step step, given, t, (step.execute r.outputLimit t).2⟩ ∧
      t.context = s.context ∧ t.machine.place = ⟨j.name, number⟩ ∧ j.steps[number]? = some step ∧
      r.Reaches [j] s.machine t.machine := by
  induction steps generalizing s before with
  | nil => cases seen
  | cons step rest ih =>
    have number : j.steps.length - (rest.length + 1) = before.length := by simp [whole]
    rcases List.mem_append.mp seen with here | later
    · obtain ⟨_, t, announced, same⟩ := mem_onOk.mp here
      have kept := (announce_keeps (M := Machine.Adds Call.Any) _ step).ended announced
      refine ⟨step, before.length, t, List.mem_singleton.mp same, kept.context, ?_, by simp [whole], ?_⟩
      · rw [announce_place announced, number]
      · exact fun _ M _ _ _ => ((announce_keeps (M := M) _ step).ended announced).machine
    · obtain ⟨result, t, ran, member⟩ := mem_onOk.mp later
      have kept := (runStep_keeps (M := Machine.Adds Call.Any) step.alters_any _).ended ran
      by_cases failed : result.failed = true
      · rw [if_pos failed] at member
        cases member
      · rw [if_neg failed] at member
        have rewhole : j.steps = (before ++ [step]) ++ rest := by simp [whole]
        obtain ⟨step', number', u, same, context, place, found, reached⟩ := ih rewhole member
        refine ⟨step', number', u, same, context.trans kept.context, place, found, ?_⟩
        refine Reaches.trans (fun Q M _ _ own => ?_) reached
        have mine : step.Alters Q := own j (List.mem_singleton_self j) step (by simp [whole])
        exact ((runStep_keeps (M := M) mine _).ended ran).machine

theorem mem_jobStages {s : Session} (seen : x ∈ r.jobStages j s) (part : x.part = .step step) :
    x.job = j ∧ x.given.context = s.context ∧ Begun r x step ∧
      r.Reaches [j] s.machine x.before.machine := by
  obtain ⟨_, given, opened, seen⟩ := mem_onOk.mp seen
  have kept := ((print_keeps (M := Machine.Adds Call.Any) _).ended opened).context
  rcases List.mem_append.mp seen with here | later
  · rw [List.mem_singleton.mp here] at part
    cases part
  · obtain ⟨provided, t, providing, member⟩ := mem_onOk.mp later
    cases provided with
    | error e => cases member
    | ok toolchain =>
      rcases List.mem_append.mp member with stepping | ending
      · obtain ⟨step', number, u, rfl, context, place, found, reached⟩ :=
          mem_stepStages (List.nil_append j.steps).symm stepping
        cases part
        have changed := r.provideToolchain_context j given
        rw [providing] at changed
        refine ⟨rfl, kept, ⟨⟨number, place, found⟩, context.trans changed, rfl⟩, ?_⟩
        refine Reaches.trans (fun Q M _ others _ => ?_) reached
        have printing := (print_moves (M := M) _).ended opened
        exact trans_of M printing ((provideToolchain_moves (M := M) others j).ended providing)
      · obtain ⟨_, _, _, same⟩ := mem_onOk.mp ending
        rw [List.mem_singleton.mp same] at part
        cases part

/-- Nothing but the job's own provisioning stands between the base variables and the step. -/
structure Isolated (r : Runner) (machineEnv : Env) (x : Stage) (step : Step) : Prop
    extends Begun r x step where
  /-- Provisioning starts from the base variables, with those of the job on top. -/
  base : Env.Overlays x.job.env (r.baseEnv.getD machineEnv) x.given.context.env
  kept : x.after.context = x.before.context
  /-- The step is started with what provisioning left, its own variables on top. -/
  started : ∃ env, Env.Overlays step.env (r.provisioned x.job x.given).env env ∧
    step.Started { r.provisioned x.job x.given with env := env } x.before.machine x.after.machine

theorem Begun.isolated {machineEnv : Env} (begun : Begun r x step)
    (base : x.given.context.env = (r.baseEnv.getD machineEnv).overlay x.job.env) :
    Isolated r machineEnv x step where
  toBegun := begun
  base := by
    rw [base]
    exact Env.overlay_overlays _ _
  kept := by rw [begun.executed, Step.execute_snd]
  started := by
    refine ⟨_, Env.overlay_overlays _ _, ?_⟩
    rw [begun.executed, Step.execute_snd, begun.context]
    exact step.perform_started _ _

section Runs

variable {m : Machine}

theorem executeStages_isolated (part : x.part = .step step) (seen : x ∈ r.executeStages j m) :
    x.job = j ∧ Isolated r m.env x step ∧ r.Reaches [j] m x.before.machine := by
  obtain ⟨workspace, n, resolved, seen⟩ := mem_onOk.mp seen
  obtain rfl : m = n := Follows.ended (R := Eq) (Act.resolve_conducts _) resolved
  obtain ⟨rfl, given, begun, reached⟩ := mem_jobStages seen part
  refine ⟨rfl, begun.isolated ?_, reached⟩
  rw [given, contextFor]

/-- Every stage of a run is one of a job of it, executed where the jobs before it led to. -/
theorem mem_jobsStages {g : Graph} {p : Progress} {jobs : List Job}
    (seen : x ∈ r.jobsStages g p jobs m) :
    ∃ j ∈ jobs, ∃ n, x ∈ r.executeStages j n ∧ r.Reaches jobs m n := by
  induction jobs generalizing p m with
  | nil => cases seen
  | cons j rest ih =>
    rcases List.mem_append.mp seen with here | later
    · unfold turnStages at here
      split at here
      · cases here
      · split at here
        · cases here
        · exact ⟨j, List.mem_cons_self, m, here, .refl m⟩
    · obtain ⟨q, k, ran, member⟩ := mem_onOk.mp later
      obtain ⟨j', known, n, seen, reached⟩ := ih member
      have moved : r.Reaches (j :: rest) m k := fun _ _ _ others own =>
        (runJob_moves others (own j List.mem_cons_self) g p).ended ran
      exact ⟨j', List.mem_cons_of_mem _ known, n, seen,
        moved.trans (reached.mono (List.subset_cons_self _ _))⟩

theorem mem_runStages {w : Workflow} {event : Event} (seen : x ∈ r.runStages w event m) :
    ∃ j ∈ w.jobs, ∃ n, x ∈ r.executeStages j n ∧ r.Reaches w.jobs m n := by
  unfold runStages at seen
  split at seen
  · cases seen
  · obtain ⟨g, _, made, seen⟩ := mem_onOk.mp seen
    obtain ⟨ordered, _, placed, seen⟩ := mem_onOk.mp seen
    obtain ⟨id, started, named, seen⟩ := mem_onOk.mp seen
    obtain ⟨_, first, opened, listed⟩ := mem_onOk.mp seen
    obtain ⟨accepted, rfl⟩ := Act.ofWorkflow_eq_ok.mp made
    obtain ⟨order, rfl⟩ := Act.ofWorkflow_eq_ok.mp placed
    obtain ⟨_, rfl⟩ := Graph.order_eq_ok.mp order
    obtain ⟨j, known, n, seen, reached⟩ := mem_jobsStages listed
    have among : g.placed ⊆ w.jobs := fun j member =>
      Graph.ofJobs_jobs accepted ▸ Graph.placed_subset member
    have begun : r.Reaches w.jobs m first := fun _ M _ _ _ =>
      trans_of M (newRunId_moves.ended named) ((Act.print_moves _).ended opened)
    exact ⟨j, among known, n, seen, begun.trans (reached.mono among)⟩

/-- All jobs that the requests may run. -/
def jobsOf (requests : List (Workflow × Event)) : List Job := requests.flatMap fun request => request.1.jobs

theorem mem_allStages {requests : List (Workflow × Event)} (seen : x ∈ r.allStages requests m) :
    ∃ j ∈ jobsOf requests, ∃ n, x ∈ r.executeStages j n ∧ r.Reaches (jobsOf requests) m n := by
  induction requests generalizing m with
  | nil => cases seen
  | cons request rest ih =>
    have first : request.1.jobs ⊆ jobsOf (request :: rest) := List.subset_append_left _ _
    have others : jobsOf rest ⊆ jobsOf (request :: rest) := List.subset_append_right _ _
    rcases List.mem_append.mp seen with here | later
    · obtain ⟨j, known, n, seen, reached⟩ := mem_runStages here
      exact ⟨j, first known, n, seen, reached.mono first⟩
    · obtain ⟨j, known, n, seen, reached⟩ := ih later
      have moved : r.Reaches (jobsOf (request :: rest)) m (r.run request.1 request.2 m).2 :=
        fun _ _ _ installers own => run_moves installers (fun j member => own j (first member)) _ m
      exact ⟨j, others known, n, seen, moved.trans (reached.mono others)⟩

theorem allStages_isolated {requests : List (Workflow × Event)} (part : x.part = .step step)
    (seen : x ∈ r.allStages requests m) :
    x.job ∈ jobsOf requests ∧ Isolated r m.env x step ∧
      r.Reaches (jobsOf requests) m x.before.machine := by
  obtain ⟨j, known, n, seen, reached⟩ := mem_allStages seen
  obtain ⟨rfl, isolated, started⟩ := executeStages_isolated part seen
  rw [reached.env] at isolated
  exact ⟨known, isolated, reached.trans (started.mono (by simpa using known))⟩

end Runs

section Params

/-- What was altered of the parameters of one step is the same in both. -/
def Unaltered (place : Place) (m n : Machine) : Prop :=
  (n.alterations.filter fun a => a.place = place) = m.alterations.filter fun a => a.place = place

instance {place : Place} : IsPreorder Machine (Unaltered place) where
  refl _ := rfl
  trans _ _ _ first second := second.trans first

instance {place : Place} : Machine.Moves (fun a => a.place ≠ place) (Unaltered place) where
  of_same _ _ _ same := congrArg _ same
  launch args cwd env m := by
    rcases Act.launch_cases args cwd env m with same | added
    · rw [same]
      rfl
    · rw [added]
      rfl
  record _ _ := rfl
  alter m a other := by simp [Unaltered, List.filter_append, other]

/-- No job and no installer ever changes, where it stands, a collection that the step at the place
declares. -/
def Spares (r : Runner) (jobs : List Job) (place : Place) : Prop :=
  r.Alters (fun a => a.place ≠ place) ∧ ∀ j ∈ jobs, j.Alters fun a => a.place ≠ place

/-- Then the parameters are what the step declares. -/
theorem Reaches.paramsNow {jobs : List Job} {m n : Machine} (reaches : r.Reaches jobs m n)
    (fresh : ∀ a ∈ m.alterations, a.place ≠ n.place) (spares : r.Spares jobs n.place)
    (declared : Entries) : n.paramsNow declared = declared := by
  have same : Unaltered n.place m n := reaches _ (Unaltered n.place) spares.1 spares.2
  have none : (m.alterations.filter fun a => a.place = n.place) = [] :=
    List.filter_eq_nil_iff.mpr fun a member => by simpa using fresh a member
  rw [Machine.paramsNow, same, none]
  rfl

end Params

/-- An action that sets variables, one of them its job's, and drops its parameters, before a script and
another job. -/
def exporting : Workflow where
  jobs := [
    { name := "build"
      env := ⟨[("MODE", "fast")]⟩
      steps := [
        .action "setup" "tools/setup@v1"
          (.scripted "setup" { exports := ⟨[("MODE", "slow"), ("TOKEN", "x")]⟩ })
          [(.text "level", .text "3")] ⟨[("LEVEL", "3")]⟩,
        .shell "compile" "make" .null ⟨[("TOKEN", "own")]⟩] },
    { name := "test", steps := [.shell "unit" "make test" .null {}], needs := some ["build"] }]

def plainRunner : Runner where
  workspace := []
  baseEnv := some ⟨[("PATH", "/bin")]⟩

def emptyMachine : Machine where
  files := .dir []
  cwd := []
  temp := []

/-- The variables that a call was made with, and its parameters if it is one of an action. -/
def seenBy : Call → Option Env × List (String × String)
  | .process _ _ env _ => (env, [])
  | .action _ params env _ _ => (some env, params.map fun e => (e.1.toText, e.2.toText))

theorem exporting_spares (event other : Event) (place : Place) :
    plainRunner.Spares (jobsOf [(exporting, event), (exporting, other)]) place := by
  simp [Spares, Runner.Alters, Job.Alters, Step.Alters, Handler.Alters, Handler.scripted, Script.routine,
    Routine.exporting, Routine.Alters, Installer.Alters, plainRunner, Installers.builtin, jobsOf, exporting]

/-- An action that empties a list which its step declares. -/
def untagging : Workflow where
  jobs := [
    { name := "build"
      steps := [.action "untag" "tools/untag@v1"
        (.custom "untag" fun _ => .alter ⟨⟨"build", 0⟩, .text "tags", fun _ => .list []⟩
          (.done ⟨.int 0, some "", some ""⟩))
        [(.text "tags", .list [.text "nightly"])] {}] }]

-- The second run gets what the first has left of the list.
example :
    let requests := [(untagging, ⟨"push", "master"⟩), (untagging, ⟨"push", "master"⟩)]
    (plainRunner.runAll requests emptyMachine).calls.map (fun call => (seenBy call).2) =
      [[("tags", "['nightly']")], [("tags", "[]")]] := by
  decide +kernel

end Runner
end LocalCI
