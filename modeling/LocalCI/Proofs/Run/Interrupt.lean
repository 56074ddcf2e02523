import LocalCI.Proofs.Interrupt
import LocalCI.Proofs.Run.Stages

/-! Breaking off a run. Some of its stages hand over to code from outside, which may do with an
interrupt what it likes; in all others the programs decide. A run is broken off just when one of its
stages is. -/
namespace LocalCI

open Attempt

namespace Runner

/-- The code from outside that provides the toolchain of a job. -/
def installer? (r : Runner) (j : Job) : Option (Routine Installed) :=
  j.toolchain.bind fun t =>
    match r.installers.find? (Text.lower t.name) with
    | some (.custom body) => some (body t)
    | _ => none

/-- Whether the code from outside that a stage hands over to is broken off; none if it does not hand
over. -/
def Stage.outside? (r : Runner) (x : Stage) : Option Bool :=
  match x.part with
  | .toolchain => (r.installer? x.job).map fun routine => brokenOff (routine.run x.before).1
  | .step step =>
    match step with
    | .action _ _ (.custom label body) params _ =>
      let s := { x.before with context := x.before.context.forStep step }
      some (brokenOff ((Handler.custom label body).run params s).1)
    | _ => none
  | .deployment => none

/-- The user breaks off during the stage. -/
def Stage.isBroken (r : Runner) (x : Stage) : Bool :=
  (x.outside? r).getD ((x.before.machine.taken x.after.machine).any Answer.breaksOff)

section Reflects

variable {σ α β : Type} {r : Runner} {x : Attempt σ α} {f : α → Attempt σ β} {s : σ}
  {seen : List Stage} {more : α → σ → List Stage}

/-- The attempt is broken off just when one of its stages is. -/
def Reflects (r : Runner) (x : Attempt σ α) (s : σ) (seen : List Stage) : Prop :=
  brokenOff (x s).1 = seen.any (Stage.isBroken r)

theorem Reflects.of_unbroken (unbroken : Unbroken x) : Reflects r x s [] := unbroken s

theorem Reflects.bind (first : Reflects r x s seen) (rest : ∀ a t, Reflects r (f a) t (more a t)) :
    Reflects r (x >>= f) s (seen ++ x.onOk s more) := by
  unfold Reflects at *
  rw [bind_apply, List.any_append, ← first, onOk]
  cases x s with
  | mk outcome t =>
    cases outcome with
    | ok a => exact rest a t
    | error e => simp

theorem Reflects.bind_unbroken (first : Reflects r x s seen) (rest : ∀ a, Unbroken (f a)) :
    Reflects r (x >>= f) s seen := by
  have both := first.bind fun a t => .of_unbroken (rest a)
  rwa [onOk_nil, List.append_nil] at both

theorem Reflects.unbroken_bind (first : Unbroken x)
    (rest : ∀ a t, Reflects r (f a) t (more a t)) :
    Reflects r (x >>= f) s (x.onOk s more) := (Reflects.of_unbroken first).bind rest

end Reflects

variable (r : Runner) (j : Job)

theorem announce_calm (place : Place) (step : Step) : Calm Session.answers (announce place step) := by
  refine .bind (Calm.ofExcept ?_) fun _ =>
    .bind (JobAct.onMachine_calm (.modify fun _ => ⟨rfl, rfl⟩)) fun _ => JobAct.print_calm _
  cases step with
  | other v => exact .error rfl
  | _ => exact .ok _

/-- Where the tool does everything itself, the stage is as attentive as the attempt. -/
theorem stage_reflects {α : Type} {x : JobAct α} {part : Part} {given s : Session}
    (heeds : Attentive Session.answers x)
    (inside : Stage.outside? r ⟨j, part, given, s, (x s).2⟩ = none) :
    Reflects r x s [⟨j, part, given, s, (x s).2⟩] := by
  obtain ⟨taken, same, broken⟩ := heeds s
  have heeded : taken.any Answer.breaksOff = brokenOff (x s).1 := broken
  have during : s.machine.taken (x s).2.machine = taken := Machine.taken_eq same
  simp [Reflects, Stage.isBroken, inside, during, heeded]

theorem execute_reflects (given s : Session) (step : Step) :
    Reflects r (step.execute r.outputLimit) s
      [⟨j, .step step, given, s, (step.execute r.outputLimit s).2⟩] := by
  cases step with
  | shell name script cwd env =>
    refine r.stage_reflects j (Step.execute_attentive ?_ _) rfl
    refine .bind JobAct.context_conducts fun c => ?_
    exact JobAct.onMachine_attentive (Step.runShell_attentive script cwd c)
  | other v => exact r.stage_reflects j (Step.execute_attentive (Calm.throw rfl).attentive _) rfl
  | action name uses handler params env =>
    cases handler with
    | checkout =>
      refine r.stage_reflects j (Step.execute_attentive ?_ _) rfl
      refine (Step.runAction_echoes _ _).attentive (.bind JobAct.context_conducts fun c => ?_)
      exact .bind (JobAct.handOver_calm _).attentive fun given =>
        JobAct.onMachine_attentive (Checkout.run_attentive given c)
    | custom label body =>
      rw [Reflects, (Step.execute_echoes _ _ _).2]
      simp only [Stage.isBroken, Stage.outside?, List.any_cons, List.any_nil, Option.getD_some,
        Bool.or_false]
      exact (Step.runAction_echoes (.custom label body) params _).2

theorem provideToolchain_echoes {t : Toolchain} (asked : j.toolchain = some t) :
    Echoes Session.answers (provision r.installers t) (r.provideToolchain j) := by
  unfold provideToolchain
  rw [asked]
  refine .attempt_bind (fun _ => rfl) fun ended mild => ?_
  cases ended with
  | ok installed => exact .bind (JobAct.print_calm _) fun _ => .pure _
  | error f =>
    cases f with
    | provision e => exact .bind (JobAct.print_calm _) fun _ => .pure _
    | _ => exact .throw mild

theorem provideToolchain_reflects (given : Session) :
    Reflects r (r.provideToolchain j) given
      [⟨j, .toolchain, given, given, (r.provideToolchain j given).2⟩] := by
  cases asked : j.toolchain with
  | none =>
    refine r.stage_reflects j ?_ (by simp [Stage.outside?, installer?, asked])
    unfold provideToolchain
    rw [asked]
    exact .pure _
  | some t =>
    have inside : Attentive Session.answers (provision r.installers t) → r.installer? j = none →
        Reflects r (r.provideToolchain j) given
          [⟨j, .toolchain, given, given, (r.provideToolchain j given).2⟩] := fun heeds none =>
      r.stage_reflects j ((r.provideToolchain_echoes j asked).attentive heeds)
        (by simp [Stage.outside?, none])
    cases found : r.installers.find? (Text.lower t.name) with
    | none =>
      refine inside ?_ (by simp [installer?, asked, found])
      unfold provision
      rw [found]
      exact .throw rfl
    | some installer =>
      cases installer with
      | rust =>
        refine inside ?_ (by simp [installer?, asked, found])
        exact (provision_echoes found).attentive (Provision.installRust_attentive t)
      | custom body =>
        have own : r.installer? j = some (body t) := by simp [installer?, asked, found]
        rw [Reflects, (r.provideToolchain_echoes j asked given).2, (provision_echoes found given).2]
        simp [Stage.isBroken, Stage.outside?, own, Provision.install]

theorem choosePublisher_attentive : Attentive Session.answers r.choosePublisher := by
  unfold choosePublisher
  split
  · exact .pure _
  · refine .bind JobAct.context_conducts fun c => ?_
    exact .bind (JobAct.onMachine_attentive (Act.resolve_conducts _)) fun _ => .pure _

theorem deployJob_attentive (d : Deploy) (result : JobResult) :
    Attentive Session.answers (r.deployJob j d result) := by
  refine .bind r.choosePublisher_attentive fun publisher => ?_
  have publishing := JobAct.onMachine_attentive (publisher.publish_attentive d)
  refine Echoes.attentive (.attempt_bind (fun _ => rfl) fun ended mild => ?_) publishing
  cases ended with
  | ok published => exact .bind (JobAct.print_calm _) fun _ => .pure _
  | error f =>
    cases f with
    | publish e => exact .bind (JobAct.print_calm _) fun _ => .pure _
    | _ => exact .throw mild

theorem conclude_attentive (toolchain : Option Installed) (results : List StepResult)
    (error : Option StepError) :
    Attentive Session.answers (r.conclude j toolchain results error) := by
  unfold conclude
  split
  · exact .pure _
  · split
    · split
      · exact r.deployJob_attentive j _ _
      · exact .pure _
    · exact .pure _

theorem runStep_reflects (given s : Session) (place : Place) (step : Step) :
    Reflects r (r.runStep place step) s (r.stepStage j given place step s) := by
  refine .unbroken_bind (announce_calm place step).unbroken fun _ t => ?_
  exact (r.execute_reflects j given t step).bind_unbroken fun _ =>
    Calm.unbroken (.bind (JobAct.print_calm _) fun _ => .pure _)

theorem runSteps_reflects (given s : Session) (steps : List Step) :
    Reflects r (r.runSteps j steps) s (r.stepStages j given steps s) := by
  induction steps generalizing s with
  | nil => rfl
  | cons step rest ih =>
    refine (r.runStep_reflects j given s _ step).bind fun result t => ?_
    by_cases failed : result.failed = true
    · rw [if_pos failed, if_pos failed]
      rfl
    · rw [if_neg failed, if_neg failed]
      exact (ih t).bind_unbroken fun _ _ => rfl

theorem build_reflects (toolchain : Option Installed) (given s : Session) :
    Reflects r (r.build j toolchain) s (r.buildStages j toolchain given s) := by
  refine (r.runSteps_reflects j given s j.steps).bind fun ended t => ?_
  exact r.stage_reflects j (r.conclude_attentive j toolchain _ _) rfl

theorem executeIn_reflects (s : Session) : Reflects r (r.executeIn j) s (r.jobStages j s) := by
  refine .unbroken_bind (JobAct.print_calm _).unbroken fun _ given => ?_
  refine (r.provideToolchain_reflects j given).bind fun provided t => ?_
  cases provided with
  | error e => rfl
  | ok toolchain => exact r.build_reflects j toolchain given t

theorem job_reflects (m : Machine) : Reflects r (r.execute j) m (r.executeStages j m) := by
  have placing : Calm Machine.answers (Act.resolve (Path.ofLocation r.workspace)) :=
    Act.resolve_conducts _
  refine .unbroken_bind placing.unbroken fun workspace n => ?_
  exact r.executeIn_reflects j ⟨r.contextFor workspace n.env j, n⟩

theorem runJob_reflects (g : Graph) (p : Progress) (m : Machine) :
    Reflects r (r.runJob g p j) m (r.turnStages p j m) := by
  have passed : ∀ reason, Calm Machine.answers (do
      Act.print (Report.jobSkipped j.name reason)
      return p.skip j.name) := fun reason =>
    .bind (Act.print_calm _) fun _ => .pure _
  unfold runJob turnStages
  split
  · exact .of_unbroken (passed _).unbroken
  · split
    · exact .of_unbroken (passed _).unbroken
    · exact (r.job_reflects j m).bind_unbroken fun _ _ => rfl

theorem runJobs_reflects (g : Graph) (p : Progress) (jobs : List Job) (m : Machine) :
    Reflects r (r.runJobs g p jobs) m (r.jobsStages g p jobs m) := by
  induction jobs generalizing p m with
  | nil => rfl
  | cons j rest ih => exact (r.runJob_reflects j g p m).bind fun q n => ih q n

/-- A run is broken off just when one of its stages is. -/
theorem run_reflects (w : Workflow) (event : Event) (m : Machine) :
    Reflects r (r.run w event) m (r.runStages w event m) := by
  unfold run runStages
  split
  · exact .of_unbroken (Calm.unbroken (.bind (Act.print_calm _) fun _ => .pure _))
  · have calm {α : Type} (made : Except WorkflowError α) : Calm Machine.answers (Act.ofWorkflow made) :=
      Act.ofWorkflow_conducts made
    refine .unbroken_bind (calm _).unbroken fun g m => .unbroken_bind (calm _).unbroken fun ordered m => ?_
    refine .unbroken_bind (fun _ => rfl) fun id m => ?_
    refine .unbroken_bind (Act.print_calm _).unbroken fun _ m => ?_
    exact (r.runJobs_reflects g {} ordered m).bind_unbroken fun _ =>
      Calm.unbroken (.bind (Act.print_calm _) fun _ => .pure _)

end Runner
end LocalCI
