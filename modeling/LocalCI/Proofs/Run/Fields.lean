import LocalCI.Proofs.Fields
import LocalCI.Proofs.Job.Order
import LocalCI.Proofs.Run.Interrupt

/-! Runs that fail with a fault which is not the tool's own. Such a fault comes from a field that is not what
it is declared to be, or from code from outside. A workflow that is well-formed fails for a bad field only if
code from outside does. -/
namespace LocalCI

open Attempt

namespace Runner

variable (r : Runner) (j : Job)

/-- Code from outside that provides the toolchain of the job ends with the fault. -/
def Raises (f : Fault) : Prop := ∃ routine s, r.installer? j = some routine ∧ (routine.run s).1 = .error f

/-- What makes a job fail with a fault that is not the tool's own. -/
def Causes (f : Fault) : Prop := (∃ step ∈ j.steps, step.Causes f) ∨ r.Raises j f

theorem provision_explains {t : Toolchain} (asked : j.toolchain = some t) :
    Explains (r.Raises j) (provision r.installers t) := by
  unfold provision
  cases found : r.installers.find? (Text.lower t.name) with
  | none => exact .throw nofun
  | some installer =>
    refine .bind ?_ fun _ => .bind (.modify _) fun _ => .pure _
    cases installer with
    | rust => exact Provision.installRust_explains t
    | custom body =>
      refine .of_refuses fun s f failed _ _ => ?_
      exact ⟨body t, s, by simp [installer?, asked, found], failed⟩

theorem provideToolchain_explains : Explains (r.Raises j) (r.provideToolchain j) := by
  unfold provideToolchain
  cases asked : j.toolchain with
  | none => exact .pure _
  | some t =>
    refine .attempt_bind (r.provision_explains j asked) fun ended explained => ?_
    cases ended with
    | ok installed => exact .bind (JobAct.print_explains _) fun _ => .pure _
    | error f =>
      cases f with
      | provision e => exact .bind (JobAct.print_explains _) fun _ => .pure _
      | _ => exact .throw (explained _ rfl)

theorem runStep_explains (place : Place) (step : Step) : Explains step.Causes (r.runStep place step) := by
  refine .bind (.bind (.ofExcept ?_) fun _ => ?_) fun _ => ?_
  · cases step with
    | other v => exact .error fun _ _ => Or.inl List.mem_cons_self
    | _ => exact .ok _
  · exact .bind (.focus (.modify _)) fun _ => JobAct.print_explains _
  · exact .bind (step.execute_explains _) fun _ => .bind (JobAct.print_explains _) fun _ => .pure _

theorem runSteps_explains (steps : List Step) :
    Explains (fun f => ∃ step ∈ steps, step.Causes f) (r.runSteps j steps) := by
  induction steps with
  | nil => exact .pure _
  | cons step rest ih =>
    refine .bind ((r.runStep_explains _ step).weaken fun f found => ⟨step, List.mem_cons_self, found⟩) ?_
    intro result
    split
    · exact .pure _
    · refine .bind (ih.weaken ?_) fun _ => .pure _
      rintro f ⟨other, member, found⟩
      exact ⟨other, List.mem_cons_of_mem _ member, found⟩

theorem deployJob_explains {P : Fault → Prop} (d : Deploy) (result : JobResult) :
    Explains P (r.deployJob j d result) := by
  refine .bind ?_ fun publisher => ?_
  · unfold choosePublisher
    split
    · exact .pure _
    · exact .bind JobAct.context_conducts fun c => .bind (.focus (Act.resolve_conducts _)) fun _ => .pure _
  · refine .attempt_bind (Fails.focus (publisher.publish_explains (P := P) d)) fun ended explained => ?_
    cases ended with
    | ok published => exact .bind (JobAct.print_explains _) fun _ => .pure _
    | error f =>
      cases f with
      | publish e => exact .bind (JobAct.print_explains _) fun _ => .pure _
      | _ => exact .throw (explained _ rfl)

theorem conclude_explains {P : Fault → Prop} (toolchain : Option Installed) (results : List StepResult)
    (error : Option StepError) : Explains P (r.conclude j toolchain results error) := by
  unfold conclude
  split
  · exact .pure _
  · split
    · split
      · exact r.deployJob_explains j _ _
      · exact .pure _
    · exact .pure _

theorem executeIn_explains : Explains (r.Causes j) (r.executeIn j) := by
  refine .bind (JobAct.print_explains _) fun _ => ?_
  refine .bind ((r.provideToolchain_explains j).weaken fun _ => Or.inr) fun provided => ?_
  cases provided with
  | error e => exact .pure _
  | ok toolchain =>
    exact .bind ((r.runSteps_explains j j.steps).weaken fun _ => Or.inl) fun _ =>
      r.conclude_explains j toolchain _ _

theorem execute_explains : Explains (r.Causes j) (r.execute j) := by
  refine .bind (Act.resolve_conducts _) fun workspace => .bind .get fun m => ?_
  exact fun n => r.executeIn_explains j ⟨_, n⟩

theorem runJob_explains (g : Graph) (p : Progress) : Explains (r.Causes j) (r.runJob g p j) := by
  unfold runJob
  split
  · exact .bind (Act.print_explains _) fun _ => .pure _
  · split
    · exact .bind (Act.print_explains _) fun _ => .pure _
    · exact .bind (r.execute_explains j) fun _ => .pure _

theorem runJobs_explains (g : Graph) (p : Progress) (jobs : List Job) :
    Explains (fun f => ∃ j ∈ jobs, r.Causes j f) (r.runJobs g p jobs) := by
  induction jobs generalizing p with
  | nil => exact .pure _
  | cons j rest ih =>
    refine .bind ((r.runJob_explains j g p).weaken fun f cause => ⟨j, List.mem_cons_self, cause⟩) ?_
    refine fun q => (ih q).weaken ?_
    rintro f ⟨other, member, cause⟩
    exact ⟨other, List.mem_cons_of_mem _ member, cause⟩

/-- A run fails with a fault that is not the tool's own only if the user breaks off or one of the jobs has a
cause for it. -/
theorem run_explains (w : Workflow) (event : Event) :
    Explains (fun f => ∃ j ∈ w.jobs, r.Causes j f) (r.run w event) := by
  unfold run
  split
  · exact .bind (Act.print_explains _) fun _ => .pure _
  · refine Act.ofWorkflow_bind_explains fun g made => ?_
    refine Act.ofWorkflow_bind_explains fun ordered placed => ?_
    refine .bind (.bind .get fun _ => .bind (.modify _) fun _ => .pure _) fun id => ?_
    refine .bind (Act.print_explains _) fun _ => ?_
    refine .bind ((r.runJobs_explains g {} ordered).weaken ?_) fun p =>
      .bind (Act.print_explains _) fun _ => .pure _
    rintro f ⟨j, member, cause⟩
    obtain ⟨_, rfl⟩ := Graph.order_eq_ok.mp placed
    rw [← Graph.ofJobs_jobs made]
    exact ⟨j, Graph.placed_subset member, cause⟩

/-- No action makes a run fail for a bad field: it would keep the fault to itself. -/
theorem run_badField {w : Workflow} (event : Event) (m : Machine) {f : Fault}
    (failed : (r.run w event m).1 = .error f) (bad : f.isBadField = true) :
    ∃ j ∈ w.jobs, (∃ step ∈ j.steps, f ∈ step.fieldFaults) ∨ r.Raises j f := by
  have explained := (r.run_explains w event).refuses m f failed
  obtain ⟨j, member, ⟨step, listed, cause⟩ | raised⟩ := explained.of_isBadField bad
  · refine ⟨j, member, Or.inl ⟨step, listed, cause.resolve_right fun loud => ?_⟩⟩
    rw [Fault.isOrdinary_of_isBadField bad] at loud
    cases loud.1
  · exact ⟨j, member, Or.inr raised⟩

/-- Well-formed workflows fail for a bad field only where code from outside does. -/
theorem run_of_isWellFormed {w : Workflow} (formed : w.isWellFormed = true) (event : Event) (m : Machine)
    {f : Fault} (failed : (r.run w event m).1 = .error f) (bad : f.isBadField = true) :
    ∃ j ∈ w.jobs, r.Raises j f := by
  obtain ⟨j, member, ⟨step, listed, found⟩ | raised⟩ := r.run_badField event m failed bad
  · have job := List.all_eq_true.mp formed j member
    simp only [Job.isWellFormed, Bool.and_eq_true, List.all_eq_true] at job
    rw [Step.fieldFaults_of_isWellFormed (job.1.1.1 step listed)] at found
    cases found
  · exact ⟨j, member, raised⟩

end Runner

namespace Workflow

variable {room : Nat} {registry : Registry} {defaultName : String} {v : Value} {w : Workflow}

/-- Whatever is read as a step is a script or an action. -/
theorem ne_other_of_read (loaded : read room registry defaultName v = .ok w) :
    ∀ job ∈ w.jobs, ∀ step ∈ job.steps, ∀ u, step ≠ .other u := by
  have mirrored : ∀ {raw : Value} {step : Step}, step.Mirrors room registry raw → ∀ u, step ≠ .other u := by
    rintro raw _ (_ | _) <;> nofun
  refine (forall_iff_of_forall₂ (P := fun _ => True) (read_jobs loaded) fun _ job kept => ?_).mpr
    fun _ _ => trivial
  exact iff_of_true ((forall_iff_of_forall₂ (P := fun _ => True) kept.1.steps fun _ _ mirrors =>
    iff_of_true (mirrored mirrors) trivial).mpr fun _ _ => trivial) trivial

/-- The directory of a script is no text, which is found out when the script is run. -/
def Misplaces (job : Job) (f : Fault) : Prop :=
  ∃ name run cwd env, .shell name run cwd env ∈ job.steps ∧ cwd.isTruthy = true ∧
    cwd.isOptionalText = false ∧ f = .notPath cwd.operandName

theorem misplaces_of_fieldFaults {job : Job} {step : Step} {f : Fault} (listed : step ∈ job.steps)
    (found : f ∈ step.fieldFaults) (known : ∀ u, step ≠ .other u) : Misplaces job f := by
  cases step with
  | shell name run cwd env =>
    simp only [Step.fieldFaults] at found
    split at found
    next misplaced =>
      rw [Bool.and_eq_true, Bool.not_eq_true'] at misplaced
      exact ⟨name, run, cwd, env, listed, misplaced.1, misplaced.2, List.mem_singleton.mp found⟩
    next => cases found
  | action name uses handler params env => cases found
  | other u => exact absurd rfl (known u)

/-- A workflow that is read is well-formed just when what is taken as it is written has its type. A run of
it fails for a bad field only where code from outside does, or else because of the directory of a script,
and then not everything has its type. -/
theorem read_wellFormed_iff (loaded : read room registry defaultName v = .ok w) :
    (w.isWellFormed = true ↔ Typed v) ∧
    ∀ (r : Runner) (event : Event) (m n : Machine) (f : Fault),
      r.run w event m = (.error f, n) → f.isBadField = true →
      (∃ job ∈ w.jobs, r.Raises job f) ∨ (¬ Typed v ∧ ∃ job ∈ w.jobs, Misplaces job f) := by
  refine ⟨isWellFormed_iff loaded, fun r event m n f failed bad => ?_⟩
  have failed := congrArg Prod.fst failed
  by_cases formed : w.isWellFormed = true
  · exact Or.inl (r.run_of_isWellFormed formed event m failed bad)
  · obtain ⟨job, member, ⟨step, listed, found⟩ | raised⟩ := r.run_badField event m failed bad
    · have known := ne_other_of_read loaded job member step listed
      refine Or.inr ⟨fun typed => formed ((isWellFormed_iff loaded).mpr typed), job, member, ?_⟩
      exact misplaces_of_fieldFaults listed found known
    · exact Or.inl ⟨job, member, raised⟩

/-- A workflow of one job with these steps. -/
def oneJob (steps : List (List (String × Value))) : Value :=
  let map (entries : List (String × Value)) : Value := .map (entries.map fun e => (.text e.1, e.2))
  map [("on", .text "push"), ("jobs", map [("build", map [("steps", .list (steps.map map))])])]

/-- A workflow of one script that runs in this directory. -/
def makeIn (directory : Value) : Value :=
  oneJob [[("run", .text "make"), ("working-directory", directory)]]

/-- No toolchain is asked for and the directory is a text, so nothing is left to fail for a bad field. -/
theorem read_wellFormed_iff_source :
    ∃ w, read 900 .builtin "ci" (makeIn (.text "src")) = .ok w ∧ Typed (makeIn (.text "src")) ∧
      ∀ (event : Event) (m n : Machine) (f : Fault),
        Runner.run { workspace := ["ws"] } w event m = (.error f, n) → f.isBadField = false := by
  have seen : (read 900 .builtin "ci" (makeIn (.text "src"))).toOption.map (fun w =>
      (w.isWellFormed, w.jobs.map Job.toolchain)) = some (true, [none]) := by decide +kernel
  obtain ⟨w, loaded, seen⟩ := Option.map_eq_some_iff.mp seen
  obtain ⟨formed, toolchains⟩ := Prod.mk.inj seen
  obtain ⟨typed, explained⟩ := read_wellFormed_iff (eq_ok_of_toOption loaded)
  refine ⟨w, eq_ok_of_toOption loaded, typed.mp formed, fun event m n f failed => ?_⟩
  refine Bool.eq_false_iff.mpr fun bad => ?_
  rcases explained _ event m n f failed bad with ⟨job, member, _, _, installs, _⟩ | ⟨untyped, _⟩
  · have none : job.toolchain = none := by
      simpa [toolchains] using List.mem_map_of_mem (f := Job.toolchain) member
    rw [Runner.installer?, none] at installs
    cases installs
  · exact untyped (typed.mp formed)

/-- The type of the directory that a run could not use. -/
def misplaced? (outcome : Except Fault (Option WorkflowRun)) : Option String :=
  match outcome with
  | .error (.notPath typeName) => some typeName
  | _ => none

theorem eq_of_misplaced? {outcome : Except Fault (Option WorkflowRun)} {typeName : String}
    (misplaced : misplaced? outcome = some typeName) : outcome = .error (.notPath typeName) := by
  unfold misplaced? at misplaced
  split at misplaced
  next => cases misplaced; rfl
  next => cases misplaced

/-- A directory that is a number is read, and the run of its script fails. A toolchain without a channel is
read as well. -/
theorem read_misplaced :
    (∃ w, read 900 .builtin "ci" (makeIn (.scalar (.int 5))) = .ok w ∧ w.isWellFormed = false ∧
      (Runner.run { workspace := ["ws"] } w ⟨"push", "main"⟩ (Step.bench []).machine).1 =
        .error (.notPath "int")) ∧
    ∃ w, read 900 .builtin "ci" (oneJob [[("uses", .text "dtolnay/rust-toolchain@")]]) = .ok w ∧
      w.jobs.map (fun job => job.toolchain.map Toolchain.channel) = [some ""] := by
  constructor
  · have seen : (read 900 .builtin "ci" (makeIn (.scalar (.int 5)))).toOption.map (fun w =>
        (w.isWellFormed, misplaced?
          (Runner.run { workspace := ["ws"] } w ⟨"push", "main"⟩ (Step.bench []).machine).1)) =
        some (false, some "int") := by decide +kernel
    obtain ⟨w, loaded, seen⟩ := Option.map_eq_some_iff.mp seen
    obtain ⟨formed, misplaced⟩ := Prod.mk.inj seen
    exact ⟨w, eq_ok_of_toOption loaded, formed, eq_of_misplaced? misplaced⟩
  · have seen : (read 900 .builtin "ci" (oneJob [[("uses", .text "dtolnay/rust-toolchain@")]])).toOption.map
        (fun w => w.jobs.map fun job => job.toolchain.map Toolchain.channel) = some [some ""] := by
      decide +kernel
    obtain ⟨w, loaded, channels⟩ := Option.map_eq_some_iff.mp seen
    exact ⟨w, eq_ok_of_toOption loaded, channels⟩

end Workflow
end LocalCI
