import LocalCI.Proofs.Attempt
import LocalCI.Run
import Mathlib.Data.List.Forall2

/-! How a job can end: without its toolchain, at a failing step, or with all steps passed and then
published or not. Every result of a job is one of these, and each comes with what was done for the job
on the way, from its first line to its last. -/
namespace LocalCI

open Attempt

theorem Step.execute_ok {step : Step} {limit : Int} {s t : Session} {result : StepResult}
    (done : step.execute limit s = (.ok result, t)) : result.step = step.name?.getD "" := by
  obtain ⟨_, _, _, done⟩ := bind_eq_ok.mp done
  obtain ⟨_, _, _, done⟩ := bind_eq_ok.mp done
  obtain ⟨_, _, _, done⟩ := bind_eq_ok.mp done
  obtain ⟨_, _, _, done⟩ := bind_eq_ok.mp done
  obtain ⟨_, _, _, done⟩ := bind_eq_ok.mp done
  cases done
  rfl

namespace Runner

variable {r : Runner} {j : Job} {s t u : Session}

section Deeds

/-- Something done for a job, with what came of it. -/
inductive Deed where
  | provisioned (toolchain : Toolchain) (outcome : Except Fault Installed)
  | stepped (step : Step) (result : StepResult)
  | published (publisher : Publisher) (deploy : Deploy) (outcome : Except Fault Published)

/-- The deed takes the session from `s` to `t`. -/
def Deed.Takes (r : Runner) (s t : Session) : Deed → Prop
  | .provisioned toolchain outcome => provision r.installers toolchain s = (outcome, t)
  | .stepped step result => step.execute r.outputLimit s = (.ok result, t)
  | .published publisher deploy outcome =>
    r.choosePublisher s = (.ok publisher, s) ∧
    JobAct.onMachine (publisher.publish deploy) s = (outcome, t)

/-- The deeds are all that is done between two sessions; lines that are printed on the way, and a note
whose turn it is, do not count. -/
inductive Does (r : Runner) : Session → List Deed → Session → Prop where
  | nothing (s : Session) : Does r s [] s
  | printing {s t u lines deeds} : JobAct.print lines s = (.ok (), t) → Does r t deeds u →
      Does r s deeds u
  | turning {s u deeds} (place : Place) :
      Does r { s with machine := { s.machine with place := place } } deeds u → Does r s deeds u
  | next {s t u deed deeds} : Deed.Takes r s t deed → Does r t deeds u → Does r s (deed :: deeds) u

theorem Does.append {first second : List Deed} (begun : Does r s first t) (rest : Does r t second u) :
    Does r s (first ++ second) u := by
  induction begun with
  | nothing => exact rest
  | printing printed _ ih => exact .printing printed (ih rest)
  | turning place _ ih => exact .turning place (ih rest)
  | next taken _ ih => exact .next taken (ih rest)

/-- A deed that is reported when it is done. -/
theorem Does.reported {deed : Deed} {lines : List Line} (taken : deed.Takes r s t)
    (printed : JobAct.print lines t = (.ok (), u)) : Does r s [deed] u :=
  .next taken (.printing printed (.nothing u))

end Deeds

section Steps

theorem stepName_ok {step : Step} {name : String} (named : stepName step = .ok name) :
    step.name? = some name := by
  cases step with
  | shell given run cwd env =>
    cases named
    rfl
  | action given uses handler params env =>
    cases named
    rfl
  | other v => cases named

theorem runStep_ok {place : Place} {step : Step} {result : StepResult}
    (done : r.runStep place step s = (.ok result, t)) :
    step.name? = some result.step ∧ Does r s [.stepped step result] t := by
  obtain ⟨_, _, announced, done⟩ := bind_eq_ok.mp done
  obtain ⟨name, _, looked, announced⟩ := bind_eq_ok.mp announced
  obtain ⟨_, _, turned, told⟩ := bind_eq_ok.mp announced
  obtain ⟨result', _, executed, done⟩ := bind_eq_ok.mp done
  obtain ⟨_, _, printed, done⟩ := bind_eq_ok.mp done
  cases done
  cases turned
  obtain ⟨found, rfl⟩ := ofExcept_eq_ok.mp looked
  have named := stepName_ok found
  constructor
  · rw [Step.execute_ok executed, named, Option.getD_some]
  · exact .turning place (.printing told (.reported executed printed))

/-- Steps run in order until one fails. -/
inductive StepsEnd (j : Job) : List Step → List StepResult → Option StepError → Prop where
  | done : StepsEnd j [] [] none
  | failed {step rest result} : step.name? = some result.step → result.failed = true →
      StepsEnd j (step :: rest) [result] (some (stepError j step result))
  | passed {step rest result results error} : step.name? = some result.step →
      result.failed = false → StepsEnd j rest results error →
      StepsEnd j (step :: rest) (result :: results) error

theorem runSteps_ends {steps : List Step} {results : List StepResult} {error : Option StepError}
    (done : r.runSteps j steps s = (.ok (results, error), t)) :
    StepsEnd j steps results error ∧ Does r s (List.zipWith Deed.stepped steps results) t := by
  induction steps generalizing s results with
  | nil =>
    cases done
    exact ⟨.done, .nothing _⟩
  | cons step rest ih =>
    obtain ⟨result, _, ran, done⟩ := bind_eq_ok.mp done
    obtain ⟨named, does⟩ := runStep_ok ran
    by_cases failed : result.failed = true
    · rw [if_pos failed] at done
      cases done
      exact ⟨.failed named failed, by simpa using does⟩
    · rw [if_neg failed] at done
      obtain ⟨⟨more, error'⟩, _, following, done⟩ := bind_eq_ok.mp done
      cases done
      obtain ⟨ends, others⟩ := ih following
      exact ⟨.passed named (by simpa using failed) ends, does.append others⟩

/-- The step went well, and this is its result. -/
abbrev Passes (step : Step) (result : StepResult) : Prop :=
  step.name? = some result.step ∧ result.exitCode = 0

/-- Without an error each step has its result, in the same order. -/
theorem StepsEnd.passes {steps : List Step} {results : List StepResult}
    (ends : StepsEnd j steps results none) : List.Forall₂ Passes steps results := by
  generalize outcome : (none : Option StepError) = error at ends
  induction ends with
  | done => exact .nil
  | failed => cases outcome
  | passed named passed _ ih =>
    exact .cons ⟨named, by simpa [StepResult.failed] using passed⟩ (ih outcome)

end Steps

section Toolchain

/-- The toolchain that a job gets, and the deed that gets it. -/
inductive Provides (j : Job) : Option Installed → List Deed → Prop where
  | unasked : j.toolchain = none → Provides j none []
  | installed {asked} (i) : j.toolchain = some asked →
      Provides j (some i) [.provisioned asked (.ok i)]

theorem Provides.isSome {provided : Option Installed} {deeds : List Deed}
    (provides : Provides j provided deeds) : provided.isSome = j.toolchain.isSome := by
  cases provides with
  | unasked unasked => simp [unasked]
  | installed i asked => simp [asked]

theorem provideToolchain_ok {outcome : Except ProvisionError (Option Installed)}
    (done : r.provideToolchain j s = (.ok outcome, t)) :
    (∃ provided deeds, outcome = .ok provided ∧ Provides j provided deeds ∧ Does r s deeds t) ∨
    ∃ asked e, outcome = .error e ∧ j.toolchain = some asked ∧
      Does r s [.provisioned asked (.error (.provision e))] t := by
  unfold provideToolchain at done
  cases asked : j.toolchain with
  | none =>
    rw [asked] at done
    cases done
    exact Or.inl ⟨none, [], rfl, .unasked asked, .nothing s⟩
  | some toolchain =>
    rw [asked] at done
    obtain ⟨ended, last, provisioning, done⟩ := bind_eq_ok.mp done
    have taken : (Deed.provisioned toolchain ended).Takes r s last := attempt_eq_ok.mp provisioning
    cases ended with
    | ok installed =>
      obtain ⟨_, _, printed, done⟩ := bind_eq_ok.mp done
      cases done
      exact Or.inl ⟨_, _, rfl, .installed installed asked, .reported taken printed⟩
    | error f =>
      cases f with
      | provision e =>
        obtain ⟨_, _, printed, done⟩ := bind_eq_ok.mp done
        cases done
        exact Or.inr ⟨toolchain, e, rfl, rfl, .reported taken printed⟩
      | _ => cases done

end Toolchain

section Deployment

theorem choosePublisher_ok {p : Publisher} (chosen : r.choosePublisher s = (.ok p, t)) : s = t := by
  unfold choosePublisher at chosen
  cases given : r.publisher with
  | some q =>
    rw [given] at chosen
    cases chosen
    rfl
  | none =>
    rw [given] at chosen
    obtain ⟨_, _, found, chosen⟩ := bind_eq_ok.mp chosen
    obtain ⟨_, _, resolved, chosen⟩ := bind_eq_ok.mp chosen
    cases chosen
    cases found
    exact (Prod.mk.inj resolved).2

theorem deployJob_ok {d : Deploy} {result final : JobResult}
    (done : r.deployJob j d result s = (.ok final, t)) :
    (∃ p q, final = { result with published := some q } ∧ Does r s [.published p d (.ok q)] t) ∨
    ∃ p e, final = { result with publishError := some e } ∧
      Does r s [.published p d (.error (.publish e))] t := by
  obtain ⟨publisher, _, chosen, publishes⟩ := bind_eq_ok.mp done
  obtain rfl := choosePublisher_ok chosen
  obtain ⟨ended, last, publishing, reports⟩ := bind_eq_ok.mp publishes
  have taken : (Deed.published publisher d ended).Takes r s last :=
    ⟨chosen, attempt_eq_ok.mp publishing⟩
  cases ended with
  | ok q =>
    obtain ⟨_, _, printed, done⟩ := bind_eq_ok.mp reports
    cases done
    exact Or.inl ⟨publisher, q, rfl, .reported taken printed⟩
  | error f =>
    cases f with
    | publish e =>
      obtain ⟨_, _, printed, done⟩ := bind_eq_ok.mp reports
      cases done
      exact Or.inr ⟨publisher, e, rfl, .reported taken printed⟩
    | _ => cases reports

end Deployment

/-- The ways a job can go, each with its deeds and its result. -/
inductive JobCourse (r : Runner) (j : Job) : List Deed → JobResult → Prop where
  | unprovided {asked} (e) : j.toolchain = some asked →
      JobCourse r j [.provisioned asked (.error (.provision e))]
        { job := j.name, status := .failed, error := some (.provision e) }
  | stepFailed {toolchain provided results e} : Provides j toolchain provided →
      StepsEnd j j.steps results (some e) →
      JobCourse r j (provided ++ List.zipWith Deed.stepped j.steps results)
        { job := j.name, status := .failed, steps := results, error := some (.step e)
          toolchain := toolchain }
  | built {toolchain provided results} : Provides j toolchain provided →
      StepsEnd j j.steps results none → (j.deploy.isSome && r.deploy) = false →
      JobCourse r j (provided ++ List.zipWith Deed.stepped j.steps results)
        { job := j.name, status := .success, steps := results, toolchain := toolchain }
  | published {toolchain provided results d} (p q) : Provides j toolchain provided →
      StepsEnd j j.steps results none → j.deploy = some d → r.deploy = true →
      JobCourse r j (provided ++ List.zipWith Deed.stepped j.steps results ++ [.published p d (.ok q)])
        { job := j.name, status := .success, steps := results, toolchain := toolchain
          published := some q }
  | unpublished {toolchain provided results d} (p e) : Provides j toolchain provided →
      StepsEnd j j.steps results none → j.deploy = some d → r.deploy = true →
      JobCourse r j (provided ++ List.zipWith Deed.stepped j.steps results ++
          [.published p d (.error (.publish e))])
        { job := j.name, status := .success, steps := results, toolchain := toolchain
          publishError := some e }

theorem conclude_course {toolchain : Option Installed} {provided : List Deed}
    {results : List StepResult} {error : Option StepError} {result : JobResult}
    (provides : Provides j toolchain provided) (ends : StepsEnd j j.steps results error)
    (earlier : Does r s (provided ++ List.zipWith Deed.stepped j.steps results) t)
    (done : r.conclude j toolchain results error t = (.ok result, u)) :
    ∃ deeds, JobCourse r j deeds result ∧ Does r s deeds u := by
  unfold conclude at done
  cases error with
  | some e =>
    cases done
    exact ⟨_, .stepFailed provides ends, earlier⟩
  | none =>
    cases deploy : j.deploy with
    | none =>
      simp only [deploy] at done
      cases done
      exact ⟨_, .built provides ends (by simp [deploy]), earlier⟩
    | some d =>
      simp only [deploy] at done
      by_cases enabled : r.deploy = true
      · rw [if_pos enabled] at done
        rcases deployJob_ok done with ⟨p, q, rfl, does⟩ | ⟨p, e, rfl, does⟩
        · exact ⟨_, .published p q provides ends deploy enabled, earlier.append does⟩
        · exact ⟨_, .unpublished p e provides ends deploy enabled, earlier.append does⟩
      · rw [if_neg enabled] at done
        cases done
        exact ⟨_, .built provides ends (by simp [enabled]), earlier⟩

/-- Every result of a job comes from one of the ways it can go, and nothing else is done. -/
theorem executeIn_course {result : JobResult} (done : r.executeIn j s = (.ok result, t)) :
    ∃ deeds, JobCourse r j deeds result ∧ Does r s deeds t := by
  obtain ⟨_, _, started, done⟩ := bind_eq_ok.mp done
  obtain ⟨outcome, _, providing, done⟩ := bind_eq_ok.mp done
  rcases provideToolchain_ok providing with ⟨toolchain, provided, rfl, provides, does⟩ |
    ⟨asked, e, rfl, known, does⟩
  · obtain ⟨ended, _, ran, done⟩ := bind_eq_ok.mp done
    obtain ⟨ends, steps⟩ := runSteps_ends ran
    exact conclude_course provides ends (.printing started (does.append steps)) done
  · cases done
    exact ⟨_, .unprovided e known, .printing started does⟩

theorem execute_course {m n : Machine} {result : JobResult}
    (done : r.execute j m = (.ok result, n)) :
    ∃ workspace deeds last, m.resolve (Path.ofLocation r.workspace) = .ok workspace ∧
      JobCourse r j deeds result ∧ last.machine = n ∧
      Does r ⟨r.contextFor workspace m.env j, m⟩ deeds last := by
  obtain ⟨workspace, _, resolving, done⟩ := bind_eq_ok.mp done
  obtain ⟨resolved, rfl⟩ := Prod.mk.inj resolving
  obtain ⟨_, _, looked, done⟩ := bind_eq_ok.mp done
  cases looked
  obtain ⟨outcome, machine⟩ := Prod.mk.inj done
  obtain ⟨deeds, course, does⟩ := executeIn_course (Prod.ext outcome rfl)
  exact ⟨workspace, deeds, _, resolved, course, machine, does⟩

/-- The result is one that a job can end with. -/
def JobEnd (r : Runner) (j : Job) (result : JobResult) : Prop := ∃ deeds, JobCourse r j deeds result

theorem execute_ends {m n : Machine} {result : JobResult}
    (done : r.execute j m = (.ok result, n)) : JobEnd r j result := by
  obtain ⟨_, deeds, _, _, course, _⟩ := execute_course done
  exact ⟨deeds, course⟩

theorem JobEnd.ne_skipped {result : JobResult} (ends : JobEnd r j result) :
    result.status ≠ .skipped := by
  obtain ⟨_, course⟩ := ends
  cases course <;> simp

/-- A failed publish does not fail the job. -/
theorem JobEnd.success_of_publishError {result : JobResult} (ends : JobEnd r j result)
    (unpublished : result.publishError.isSome = true) : result.status = .success := by
  obtain ⟨_, course⟩ := ends
  cases course with
  | unprovided | stepFailed => simp at unpublished
  | built | published | unpublished => rfl

end Runner
end LocalCI
