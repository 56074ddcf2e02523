import LocalCI.Proofs.Run.Schedule

/-! The status of a run sums up its jobs: it is success just when every job did all it was asked to. -/
namespace LocalCI

/-- The result under the name of a job. -/
def WorkflowRun.resultOf? (run : WorkflowRun) (name : String) : Option JobResult :=
  (run.results.find? fun e => e.1 = name).map Prod.snd

namespace Runner

open LocalCI.Graph

variable {r : Runner} {w : Workflow} {g : Graph} {event : Event} {m n : Machine} {run : WorkflowRun}
  {turns : List Turn} {p : Progress} {j : Job} {result : JobResult}

/-- The job did all it was asked to. -/
structure Complete (r : Runner) (j : Job) (result : JobResult) : Prop where
  status : result.status = .success
  /-- One result for each step, in the same order, all with exit code zero. -/
  steps : List.Forall₂ (fun step result => step.name? = some result.step ∧ result.exitCode = 0)
    j.steps result.steps
  toolchain : result.toolchain.isSome = true ↔ j.toolchain.isSome = true
  publishError : result.publishError = none
  published : result.published.isSome = true ↔ j.deploy.isSome = true ∧ r.deploy = true

theorem JobEnd.complete (ends : JobEnd r j result) (success : result.status = .success)
    (clean : result.publishError = none) : Complete r j result := by
  obtain ⟨_, course⟩ := ends
  cases course with
  | unprovided e => cases success
  | stepFailed provides ends => cases success
  | built provides ends off =>
    refine ⟨rfl, ends.passes, by simp [provides.isSome], rfl, ?_⟩
    simpa using off
  | published p q provides ends deploy enabled =>
    exact ⟨rfl, ends.passes, by simp [provides.isSome], rfl, by simp [deploy, enabled]⟩
  | unpublished p e => cases clean

theorem Progress.status_eq_success :
    p.status = .success ↔ p.buildFailed = false ∧ p.deployFailed = false := by
  cases build : p.buildFailed <;> cases deploy : p.deployFailed <;> simp [Progress.status, build, deploy]

namespace Consists

theorem resultOf? (consists : Consists r w g m n run turns p) {t : Turn} (member : t ∈ turns) :
    run.resultOf? t.job.name = some t.result := by
  have distinct : (run.results.map Prod.fst).Nodup := by
    simpa [consists.results, names, Function.comp_def, Turn.entry] using consists.distinct
  have entry : t.entry ∈ run.results := consists.results ▸ List.mem_map_of_mem member
  exact congrArg (Option.map Prod.snd) (find?_of_distinct distinct entry)

theorem exists_turn (consists : Consists r w g m n run turns p) (member : j ∈ w.jobs) :
    ∃ t ∈ turns, t.job = j :=
  List.mem_map.mp (consists.mem_jobs.mpr member)

/-- In a successful run every job was executed to its end. -/
theorem complete_of_success (consists : Consists r w g m n run turns p)
    (success : run.status = .success) {t : Turn} (member : t ∈ turns) :
    Complete r t.job t.result := by
  obtain ⟨built, deployed⟩ := Progress.status_eq_success.mp (consists.status ▸ success)
  have noneFailed : ¬ ∃ u ∈ turns, u.result.status = .failed := by
    rw [← consists.tracks.buildFailed, built]
    simp
  have noneUnpublished :
      ¬ ∃ u ∈ turns, u.result.status = .success ∧ u.result.publishError.isSome = true := by
    rw [← consists.tracks.deployFailed, deployed]
    simp
  have notSkipped : t.result.status ≠ .skipped := fun skipped =>
    noneFailed (consists.failed_of_skipped member skipped)
  have status : t.result.status = .success := by
    cases ended : t.result.status with
    | success => rfl
    | failed => exact absurd ⟨t, member, ended⟩ noneFailed
    | skipped => exact absurd ended notSkipped
  have clean : t.result.publishError = none := by
    rw [← Option.not_isSome_iff_eq_none]
    exact fun unpublished => noneUnpublished ⟨t, member, status, unpublished⟩
  obtain ⟨first, last, taken, _⟩ := consists.turns
  have executed := (Turn.executed_iff (taken.lawful t member)).mpr notSkipped
  exact (execute_ends executed).complete status clean

theorem success_of_complete (consists : Consists r w g m n run turns p)
    (complete : ∀ t ∈ turns, Complete r t.job t.result) : run.status = .success := by
  rw [consists.status, Progress.status_eq_success, ← Bool.not_eq_true, ← Bool.not_eq_true,
    consists.tracks.buildFailed, consists.tracks.deployFailed]
  constructor
  · rintro ⟨t, member, failed⟩
    rw [(complete t member).status] at failed
    cases failed
  · rintro ⟨t, member, _, unpublished⟩
    rw [(complete t member).publishError] at unpublished
    cases unpublished

theorem success_iff_complete (consists : Consists r w g m n run turns p) :
    run.status = .success ↔
      ∀ j ∈ w.jobs, ∃ result, run.resultOf? j.name = some result ∧ Complete r j result := by
  constructor
  · intro success j member
    obtain ⟨t, taken, rfl⟩ := consists.exists_turn member
    exact ⟨t.result, consists.resultOf? taken, consists.complete_of_success success taken⟩
  · intro all
    refine consists.success_of_complete fun t member => ?_
    have known : t.job ∈ w.jobs := consists.mem_jobs.mp (List.mem_map_of_mem member)
    obtain ⟨result, found, complete⟩ := all t.job known
    rw [consists.resultOf? member] at found
    cases found
    exact complete

end Consists

/-- The status of a run is success or failed, and success just when every job has a result that is
complete; the exit code says the same. -/
theorem run_success_iff_complete (ran : r.run w event m = (.ok (some run), n)) :
    (run.status = .success ∨ run.status = .failed) ∧
    (run.status = .success ↔
      ∀ j ∈ w.jobs, ∃ result, run.resultOf? j.name = some result ∧ Complete r j result) ∧
    (run.status = .success → ∀ e ∈ run.results, e.2.status ≠ .skipped) ∧
    (exitCode (some run) = 0 ↔
      ∀ j ∈ w.jobs, ∃ result, run.resultOf? j.name = some result ∧ Complete r j result) := by
  obtain ⟨g, turns, p, consists⟩ := run_consists_of_some ran
  have success := consists.success_iff_complete
  refine ⟨?_, success, ?_, ?_⟩
  · rw [consists.status, Progress.status]
    split
    · exact Or.inr rfl
    · exact Or.inl rfl
  · intro succeeded e member
    rw [consists.results] at member
    obtain ⟨t, taken, rfl⟩ := List.mem_map.mp member
    have status := (consists.complete_of_success succeeded taken).status
    simp [Turn.entry, status]
  · rw [← success]
    by_cases succeeded : run.status = .success
    · simp [exitCode, RunStatus.exitCode, succeeded]
    · simp [exitCode, RunStatus.exitCode, succeeded]

def documented : Workflow where
  jobs := [{
    name := "docs"
    steps := [.shell "compile" "make" .null {}, .shell "write" "make docs" .null {}]
    toolchain := some { name := "rust", channel := "nightly" }
    deploy := some ⟨"docs", "pages"⟩ }]

def pagesRunner : Runner where
  workspace := []
  publisher := some { repository := [], remote := "https://github.com/acme/site.git" }

def docsMachine : Machine where
  files := .dir [("docs", .dir [("index", .file (.text "hello"))]), ("tmp", .dir [])]
  cwd := []
  temp := ["tmp"]
  env := ⟨[("HOME", "/home")]⟩

/-- A toolchain, two steps and a deployment, all of which go well. -/
theorem run_success_iff_complete_documented :
    ∃ run n, pagesRunner.run documented ⟨"push", "master"⟩ docsMachine = (.ok (some run), n) ∧
      run.status = .success ∧ exitCode (some run) = 0 ∧
      ∀ j ∈ documented.jobs, ∃ result, run.resultOf? j.name = some result ∧
        Complete pagesRunner j result := by
  have status : ((pagesRunner.run documented ⟨"push", "master"⟩ docsMachine).1.toOption.map
      fun result => result.map WorkflowRun.status) = some (some .success) := by
    decide +kernel
  cases ran : pagesRunner.run documented ⟨"push", "master"⟩ docsMachine with
  | mk outcome n =>
    rw [ran] at status
    cases outcome with
    | error f => simp [Except.toOption] at status
    | ok result =>
      cases result with
      | none => simp [Except.toOption] at status
      | some run =>
        have success : run.status = .success := by simpa [Except.toOption] using status
        obtain ⟨_, complete, _, code⟩ := run_success_iff_complete ran
        exact ⟨run, n, rfl, success, code.mpr (complete.mp success), complete.mp success⟩

end Runner
end LocalCI
