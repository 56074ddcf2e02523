import LocalCI.Proofs.Run.Outcome

/-! The shape of a job's result. Its fields are filled in along four ways to leave a job, and they hang
together on each of them: which steps ran, how they ended, what the job is said to have failed of, and
whether its publisher was called. -/
namespace LocalCI.Runner

variable {r : Runner} {j : Job} {deeds : List Deed} {result : JobResult}

section Steps

variable {steps : List Step} {results : List StepResult}

/-- A failing step is the last to run: those before it passed. -/
theorem StepsEnd.splits {e : StepError} (ends : StepsEnd j steps results (some e)) :
    ∃ before step after passed last, steps = before ++ step :: after ∧ results = passed ++ [last] ∧
      List.Forall₂ Passes before passed ∧
      step.name? = some last.step ∧ last.exitCode ≠ 0 ∧ e = stepError j step last := by
  generalize outcome : some e = error at ends
  induction ends with
  | done => cases outcome
  | @failed step rest last named failed =>
    cases outcome
    have code : last.exitCode ≠ 0 := by simpa [StepResult.failed] using failed
    exact ⟨[], step, rest, [], last, rfl, rfl, .nil, named, code, rfl⟩
  | @passed step rest result results error named passed _ ih =>
    obtain ⟨before, failing, after, earlier, last, rfl, rfl, passes, told, code, carried⟩ := ih outcome
    have zero : result.exitCode = 0 := by simpa [StepResult.failed] using passed
    exact ⟨step :: before, failing, after, result :: earlier, last, rfl, rfl,
      .cons ⟨named, zero⟩ passes, told, code, carried⟩

/-- Steps that passed are named by their results. -/
theorem names_eq_of_passes (passes : List.Forall₂ Passes steps results) :
    (results.map fun x => some x.step) = steps.map Step.name? := by
  induction passes with
  | nil => rfl
  | cons first _ ih => rw [List.map_cons, List.map_cons, ih, first.1]

theorem exitCode_of_passes (passes : List.Forall₂ Passes steps results) :
    ∀ x ∈ results, x.exitCode = 0 := by
  induction passes with
  | nil => simp
  | cons first _ ih => exact List.forall_mem_cons.mpr ⟨first.2, ih⟩

variable {error : Option StepError}

theorem StepsEnd.names (ends : StepsEnd j steps results error) :
    (results.map fun x => some x.step) <+: steps.map Step.name? := by
  cases error with
  | none =>
    have same := names_eq_of_passes ends.passes
    exact same ▸ List.prefix_rfl
  | some e =>
    obtain ⟨before, step, after, passed, last, rfl, rfl, passes, named, _⟩ := ends.splits
    rw [List.map_append, names_eq_of_passes passes, List.map_append]
    apply (List.prefix_append_right_inj _).mpr
    simp [named]

theorem StepsEnd.passed_dropLast (ends : StepsEnd j steps results error) :
    ∀ x ∈ results.dropLast, x.exitCode = 0 := by
  cases error with
  | none => exact fun x member => exitCode_of_passes ends.passes x (List.dropLast_subset _ member)
  | some e =>
    obtain ⟨_, _, _, passed, last, _, rfl, passes, _⟩ := ends.splits
    rw [List.dropLast_concat]
    exact exitCode_of_passes passes

/-- Without an error the last step passed too. -/
theorem StepsEnd.passed_last (ends : StepsEnd j steps results none) {last : StepResult}
    (final : results.getLast? = some last) : last.exitCode = 0 :=
  exitCode_of_passes ends.passes last (List.mem_of_getLast? final)

/-- The error is that of the last step to run, which is the one whose place its result has. -/
theorem StepsEnd.failed_last {e : StepError} (ends : StepsEnd j steps results (some e)) :
    ∃ step last, results.getLast? = some last ∧ last.exitCode ≠ 0 ∧
      steps[results.length - 1]? = some step ∧ e = stepError j step last := by
  obtain ⟨before, step, after, passed, last, rfl, rfl, passes, _, code, carried⟩ := ends.splits
  refine ⟨step, last, List.getLast?_concat, code, ?_, carried⟩
  rw [List.length_append, List.length_singleton, Nat.add_sub_cancel, ← passes.length_eq]
  simp

end Steps

namespace Deed

def provision? : Deed → Option (Toolchain × Except Fault Installed)
  | .provisioned toolchain outcome => some (toolchain, outcome)
  | _ => none

def step? : Deed → Option (Step × StepResult)
  | .stepped step result => some (step, result)
  | _ => none

def publish? : Deed → Option (Publisher × Deploy × Except Fault Published)
  | .published publisher deploy outcome => some (publisher, deploy, outcome)
  | _ => none

variable (steps : List Step) (results : List StepResult)

theorem filterMap_zipWith_stepped {α : Type} (view : Deed → Option α) :
    (List.zipWith stepped steps results).filterMap view =
      (steps.zip results).filterMap fun x => view (stepped x.1 x.2) := by
  rw [← List.map_uncurry_zip_eq_zipWith, List.filterMap_map]
  rfl

@[simp] theorem filterMap_step?_stepped :
    (List.zipWith stepped steps results).filterMap step? = steps.zip results := by
  rw [filterMap_zipWith_stepped]
  exact List.filterMap_some

@[simp] theorem filterMap_provision?_stepped :
    (List.zipWith stepped steps results).filterMap provision? = [] := by
  simp [filterMap_zipWith_stepped, provision?]

@[simp] theorem filterMap_publish?_stepped :
    (List.zipWith stepped steps results).filterMap publish? = [] := by
  simp [filterMap_zipWith_stepped, publish?]

end Deed

/-- The toolchain could not be had, and this is why. -/
def Unprovided (deeds : List Deed) (e : ProvisionError) : Prop :=
  ∃ asked, deeds.filterMap Deed.provision? = [(asked, .error (.provision e))]

/-- The job stopped at a step that failed. -/
def Stops (result : JobResult) (last : StepResult) : Prop :=
  result.steps.getLast? = some last ∧ last.exitCode ≠ 0

/-- The job has something to publish, and may. -/
def Publishes (r : Runner) (j : Job) (result : JobResult) (d : Deploy) : Prop :=
  result.status = .success ∧ j.deploy = some d ∧ r.deploy = true

/-- What came of publishing is in the result, be it the publication or the error. -/
def Keeps (result : JobResult) (outcome : Except Fault Published) : Prop :=
  (∃ q, outcome = .ok q ∧ result.published = some q ∧ result.publishError = none) ∨
  ∃ e, outcome = .error (.publish e) ∧ result.published = none ∧ result.publishError = some e

/-- The calls to a publisher are those the job should make. -/
structure Publication (r : Runner) (j : Job) (result : JobResult)
    (calls : List (Publisher × Deploy × Except Fault Published)) : Prop where
  once : ∀ d, Publishes r j result d → ∃ p outcome, calls = [(p, d, outcome)] ∧ Keeps result outcome
  never : (¬ ∃ d, Publishes r j result d) →
    calls = [] ∧ result.published = none ∧ result.publishError = none

/-- How the parts of a result hang together, and what they say of the deeds. -/
structure Shape (r : Runner) (j : Job) (deeds : List Deed) (result : JobResult) : Prop where
  /-- A toolchain that is asked for is provided once. -/
  provisioned : (deeds.filterMap Deed.provision?).map Prod.fst = j.toolchain.toList
  /-- The steps that ran are the first of the job. -/
  ran : deeds.filterMap Deed.step? = j.steps.zip result.steps
  names : (result.steps.map fun x => some x.step) <+: j.steps.map Step.name?
  passed : ∀ x ∈ result.steps.dropLast, x.exitCode = 0
  failed_iff : result.status = .failed ↔
    (∃ e, Unprovided deeds e) ∨ ∃ last, Stops result last
  unprovided : ∀ e, Unprovided deeds e →
    result.error = some (.provision e) ∧ result.steps = [] ∧ result.toolchain = none
  stopped : ∀ last, Stops result last →
    ∃ step, j.steps[result.steps.length - 1]? = some step ∧
      result.error = some (.step {
        job := j.name, step := last.step, command := step.display
        exitCode := last.exitCode, out := last.out, err := last.err })
  succeeded : result.status ≠ .failed →
    result.status = .success ∧ result.error = none ∧ result.steps.length = j.steps.length
  publication : Publication r j result (deeds.filterMap Deed.publish?)

section Toolchain

variable {toolchain : Option Installed} {provided : List Deed}

theorem Provides.filterMap_step? (provides : Provides j toolchain provided) :
    provided.filterMap Deed.step? = [] := by
  cases provides <;> rfl

theorem Provides.filterMap_publish? (provides : Provides j toolchain provided) :
    provided.filterMap Deed.publish? = [] := by
  cases provides <;> rfl

theorem Provides.asks (provides : Provides j toolchain provided) :
    (provided.filterMap Deed.provision?).map Prod.fst = j.toolchain.toList := by
  cases provides with
  | unasked unasked => rw [unasked]; rfl
  | installed i asked => rw [asked]; rfl

theorem Provides.not_unprovided (provides : Provides j toolchain provided)
    (same : deeds.filterMap Deed.provision? = provided.filterMap Deed.provision?)
    (e : ProvisionError) : ¬ Unprovided deeds e := by
  rintro ⟨asked, refused⟩
  rw [same] at refused
  cases provides <;> simp [Deed.provision?] at refused

end Toolchain

section Publication

theorem Publication.of_idle (idle : ∀ d, ¬ Publishes r j result d) (published : result.published = none)
    (publishError : result.publishError = none) : Publication r j result [] where
  once d publishes := absurd publishes (idle d)
  never _ := ⟨rfl, published, publishError⟩

theorem Publication.of_call {p : Publisher} {d : Deploy} {outcome : Except Fault Published}
    (publishes : Publishes r j result d) (keeps : Keeps result outcome) :
    Publication r j result [(p, d, outcome)] where
  once d' publishes' := by
    -- A job has one deployment at most.
    obtain rfl : d = d' := Option.some.inj (publishes.2.1.symm.trans publishes'.2.1)
    exact ⟨p, outcome, rfl, keeps⟩
  never idle := absurd ⟨d, publishes⟩ idle

end Publication

section Course

variable {toolchain : Option Installed} {provided : List Deed}

theorem shape_of_unprovided {asked : Toolchain} (e : ProvisionError)
    (known : j.toolchain = some asked) :
    Shape r j [.provisioned asked (.error (.provision e))]
      { job := j.name, status := .failed, error := some (.provision e) } where
  provisioned := by simp [Deed.provision?, known]
  ran := by simp [Deed.step?]
  names := List.nil_prefix
  passed := by simp
  failed_iff := by simp [Unprovided, Deed.provision?]
  unprovided := by
    rintro e' ⟨asked', refused⟩
    cases refused
    exact ⟨rfl, rfl, rfl⟩
  stopped := by
    rintro last ⟨final, _⟩
    cases final
  succeeded other := absurd rfl other
  publication := .of_idle (by simp [Publishes]) rfl rfl

theorem shape_of_stepFailed {results : List StepResult} {e : StepError}
    (provides : Provides j toolchain provided) (ends : StepsEnd j j.steps results (some e)) :
    Shape r j (provided ++ List.zipWith Deed.stepped j.steps results)
      { job := j.name, status := .failed, steps := results, error := some (.step e)
        toolchain := toolchain } := by
  obtain ⟨step, last, final, code, place, rfl⟩ := ends.failed_last
  exact {
    provisioned := by simpa using provides.asks
    ran := by simp [provides.filterMap_step?]
    names := ends.names
    passed := ends.passed_dropLast
    failed_iff := iff_of_true rfl (Or.inr ⟨last, final, code⟩)
    unprovided := fun e unprovided => absurd unprovided (provides.not_unprovided (by simp) e)
    stopped := by
      rintro last' ⟨final', _⟩
      obtain rfl : last = last' := Option.some.inj (final.symm.trans final')
      exact ⟨step, place, rfl⟩
    succeeded := fun other => absurd rfl other
    publication := by
      simp only [List.filterMap_append, provides.filterMap_publish?, Deed.filterMap_publish?_stepped]
      exact .of_idle (by simp [Publishes]) rfl rfl }

/-- When all steps passed, what is left to say is whether the job was published. -/
theorem shape_of_passed {results : List StepResult} {last : List Deed}
    (provides : Provides j toolchain provided) (ends : StepsEnd j j.steps results none)
    (steps : result.steps = results) (status : result.status = .success)
    (error : result.error = none) (noProvision : last.filterMap Deed.provision? = [])
    (noStep : last.filterMap Deed.step? = [])
    (publication : Publication r j result (last.filterMap Deed.publish?)) :
    Shape r j (provided ++ List.zipWith Deed.stepped j.steps results ++ last) result := by
  subst steps
  have granted : ∀ e,
      ¬ Unprovided (provided ++ List.zipWith Deed.stepped j.steps result.steps ++ last) e :=
    provides.not_unprovided (by simp [noProvision])
  have goesOn : ∀ x, ¬ Stops result x := fun x ⟨final, code⟩ => code (ends.passed_last final)
  exact {
    provisioned := by simpa [noProvision] using provides.asks
    ran := by simp [provides.filterMap_step?, noStep]
    names := ends.names
    passed := ends.passed_dropLast
    failed_iff := by simp only [status, granted, goesOn, exists_false, or_false, reduceCtorEq]
    unprovided := fun e unprovided => absurd unprovided (granted e)
    stopped := fun x stops => absurd stops (goesOn x)
    succeeded := fun _ => ⟨status, error, ends.passes.length_eq.symm⟩
    publication := by simpa [provides.filterMap_publish?] using publication }

theorem JobCourse.shape (course : JobCourse r j deeds result) : Shape r j deeds result := by
  cases course with
  | unprovided e asked => exact shape_of_unprovided e asked
  | stepFailed provides ends => exact shape_of_stepFailed provides ends
  | @built toolchain provided results provides ends off =>
    rw [← List.append_nil (provided ++ _)]
    apply shape_of_passed provides ends rfl rfl rfl rfl rfl
    refine .of_idle ?_ rfl rfl
    rintro d ⟨_, deploy, enabled⟩
    simp [deploy, enabled] at off
  | published p q provides ends deploy enabled =>
    apply shape_of_passed provides ends rfl rfl rfl rfl rfl
    exact .of_call ⟨rfl, deploy, enabled⟩ (Or.inl ⟨q, rfl, rfl, rfl⟩)
  | unpublished p e provides ends deploy enabled =>
    apply shape_of_passed provides ends rfl rfl rfl rfl rfl
    exact .of_call ⟨rfl, deploy, enabled⟩ (Or.inr ⟨e, rfl, rfl, rfl⟩)

end Course

/-- Whenever a job returns, in a context that is given or in its own, the deeds that take it from its
first line to its last and the result it returns have one shape. -/
theorem execute_shapes (r : Runner) (j : Job) :
    (∀ s t result, r.executeIn j s = (.ok result, t) →
      ∃ deeds, Does r s deeds t ∧ Shape r j deeds result) ∧
    (∀ m n result, r.execute j m = (.ok result, n) →
      ∃ workspace deeds last, m.resolve (Path.ofLocation r.workspace) = .ok workspace ∧
        Does r ⟨r.contextFor workspace m.env j, m⟩ deeds last ∧ last.machine = n ∧
        Shape r j deeds result) := by
  constructor
  · intro s t result done
    obtain ⟨deeds, course, does⟩ := executeIn_course done
    exact ⟨deeds, does, course.shape⟩
  · intro m n result done
    obtain ⟨workspace, deeds, last, resolved, course, ended, does⟩ := execute_course done
    exact ⟨workspace, deeds, last, resolved, does, ended, course.shape⟩

def distJob : Job where
  name := "dist"
  steps := [.shell "compile" "make" .null {}, .shell "test" "make test" .null {},
    .shell "pack" "make dist" .null {}]
  deploy := some ⟨"dist", "pages"⟩

def distRunner : Runner where
  workspace := []

def secondFails : Machine where
  files := .dir []
  cwd := []
  temp := []
  answers := [{}, { code := 3, out := "1 failed" }]

/-- With a failing test nothing is packed or published. With answers that all are good, the job is
built but the folder to publish is not there. -/
theorem execute_shapes_distJob :
    (∃ result n, distRunner.execute distJob secondFails = (.ok result, n) ∧
      (result.status, result.steps.map fun x => (x.step, x.exitCode)) =
        (.failed, [("compile", 0), ("test", 3)]) ∧
      ∃ workspace deeds last, secondFails.resolve (Path.ofLocation []) = .ok workspace ∧
        Does distRunner ⟨distRunner.contextFor workspace secondFails.env distJob, secondFails⟩
          deeds last ∧
        last.machine = n ∧ Shape distRunner distJob deeds result) ∧
    ∃ result t, distRunner.executeIn distJob
        ⟨{ workspace := Path.ofLocation [] }, { secondFails with answers := [] }⟩ = (.ok result, t) ∧
      (result.status, result.published.isSome, result.publishError.isSome) =
        (.success, false, true) ∧
      ∃ deeds, Does distRunner
          ⟨{ workspace := Path.ofLocation [] }, { secondFails with answers := [] }⟩ deeds t ∧
        Shape distRunner distJob deeds result := by
  have failed : ((distRunner.execute distJob secondFails).1.toOption.map fun result =>
      (result.status, result.steps.map fun x => (x.step, x.exitCode))) =
      some (.failed, [("compile", 0), ("test", 3)]) := by
    decide +kernel
  have built : ((distRunner.executeIn distJob
      ⟨{ workspace := Path.ofLocation [] }, { secondFails with answers := [] }⟩).1.toOption.map
        fun result => (result.status, result.published.isSome, result.publishError.isSome)) =
      some (.success, false, true) := by
    decide +kernel
  obtain ⟨result, n, ended, seen⟩ := Attempt.exists_ok_of_seen failed
  obtain ⟨result', t, ended', seen'⟩ := Attempt.exists_ok_of_seen built
  obtain ⟨given, own⟩ := execute_shapes distRunner distJob
  exact ⟨⟨result, n, ended, seen, own _ n result ended⟩,
    result', t, ended', seen', given _ t result' ended'⟩

end LocalCI.Runner
