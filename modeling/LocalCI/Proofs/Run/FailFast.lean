import LocalCI.Proofs.Run.Status

/-! Stopping at the first failure only cuts work off. Up to the first failed job both ways to run a
workflow take the same turns. From there on one passes every job over and the other goes on, so that
what was shared is kept and the record of calls can only grow. -/
namespace LocalCI

open Attempt

/-- Two attempts that start alike and both succeed part only after what they share. -/
theorem Attempt.bind_eq_ok_both {σ α β γ : Type} {x : Attempt σ α} {f : α → Attempt σ β}
    {h : α → Attempt σ γ} {s t u : σ} {b : β} {c : γ} (first : (x >>= f) s = (.ok b, t))
    (second : (x >>= h) s = (.ok c, u)) :
    ∃ a v, x s = (.ok a, v) ∧ f a v = (.ok b, t) ∧ h a v = (.ok c, u) := by
  obtain ⟨a, v, shared, first⟩ := bind_eq_ok.mp first
  obtain ⟨a', v', again, second⟩ := bind_eq_ok.mp second
  cases shared.symm.trans again
  exact ⟨a, v, shared, first, second⟩

namespace Runner

variable {r : Runner} {g : Graph} {p q : Progress} {j : Job} {jobs : List Job} {m n k : Machine}
  {w : Workflow} {event : Event}

/-- The runner as it is, with or without stopping at the first failure. -/
def stopping (r : Runner) (stops : Bool) : Runner := { r with failFast := stops }

section Same

variable (r) (stops : Bool)

theorem runSteps_stopping (steps : List Step) :
    (r.stopping stops).runSteps j steps = r.runSteps j steps := by
  induction steps with
  | nil => rfl
  | cons s rest ih =>
    simp only [runSteps, ih]
    rfl

/-- Executing a job does not depend on what is done about failures. -/
theorem execute_stopping : (r.stopping stops).execute j = r.execute j := by
  have build : (r.stopping stops).build j = r.build j := by
    funext toolchain
    simp only [Runner.build, runSteps_stopping]
    rfl
  have executeIn : (r.stopping stops).executeIn j = r.executeIn j := by
    simp only [Runner.executeIn, build]
    rfl
  simp only [Runner.execute, executeIn]
  rfl

/-- Nor does the turn of a job as long as none has failed. -/
theorem runJob_stopping (clear : p.buildFailed = false) :
    (r.stopping stops).runJob g p j = r.runJob g p j := by
  simp only [runJob, clear, Bool.false_and, execute_stopping]

end Same

theorem Progress.buildFailed_add (result : JobResult) (name : String) :
    (p.add g name result).buildFailed = true ↔
      p.buildFailed = true ∨ result.status ≠ .success := by
  unfold Progress.add
  by_cases success : result.status = .success
  · simp only [success, ne_eq, not_true_eq_false, if_false, or_false]
    split <;> rfl
  · simp [success]

theorem Progress.results_add (result : JobResult) (name : String) :
    (p.add g name result).results = p.results ++ [(name, result)] := by
  unfold Progress.add
  dsimp only
  split
  · rfl
  · split <;> rfl

/-- A turn adds a result, and one that puts an end to success adds a failed one. -/
theorem runJob_adds_result (ran : r.runJob g p j m = (.ok q, n)) :
    ∃ result, q.results = p.results ++ [(j.name, result)] ∧
      (q.buildFailed = true ↔ p.buildFailed = true ∨ result.status = .failed) := by
  rcases runJob_cases ran with ⟨_, rfl, _⟩ | ⟨_, result, executed, rfl⟩
  · exact ⟨_, rfl, by simp [Progress.skip]⟩
  · refine ⟨result, Progress.results_add result _, ?_⟩
    rw [Progress.buildFailed_add]
    have ends := (execute_ends executed).ne_skipped
    cases status : result.status with
    | success => simp
    | failed => simp
    | skipped => exact absurd status ends

theorem runJobs_grows (ran : r.runJobs g p jobs m = (.ok q, n)) :
    p.results <+: q.results ∧ (p.buildFailed = true → q.buildFailed = true) := by
  induction jobs generalizing p m with
  | nil =>
    cases ran
    exact ⟨List.prefix_rfl, id⟩
  | cons j rest ih =>
    obtain ⟨_, _, first, ran⟩ := bind_eq_ok.mp ran
    obtain ⟨result, results, failed⟩ := runJob_adds_result first
    obtain ⟨more, stays⟩ := ih ran
    rw [results] at more
    exact ⟨(List.prefix_append _ _).trans more, fun already => stays (failed.mpr (Or.inl already))⟩

/-- Once a job has failed, a runner that stops passes over all that is left and starts nothing. -/
theorem runJobs_stopped (stops : r.failFast = true) (failed : p.buildFailed = true)
    (ran : r.runJobs g p jobs m = (.ok q, n)) :
    n.calls = m.calls ∧
      ∃ rest, q.results = p.results ++ rest ∧ ∀ e ∈ rest, e.2.status = .skipped := by
  induction jobs generalizing p m with
  | nil =>
    cases ran
    exact ⟨rfl, [], by simp, by simp⟩
  | cons j jobs ih =>
    obtain ⟨_, _, first, ran⟩ := bind_eq_ok.mp ran
    rcases runJob_cases first with ⟨_, rfl, _, printed⟩ | ⟨free, _⟩
    · have still : (p.skip j.name).buildFailed = true := failed
      obtain ⟨quiet, rest, results, skipped⟩ := ih still ran
      refine ⟨quiet.trans ((Act.print_adds _).ended printed).calls_eq,
        (j.name, { job := j.name, status := .skipped }) :: rest, ?_, ?_⟩
      · rw [results, Progress.skip, List.append_assoc, List.singleton_append]
      · exact List.forall_mem_cons.mpr ⟨rfl, skipped⟩
    · exact absurd (Or.inl ⟨failed, stops⟩) free

/-- Where two runs stand that were parted by a failed job: the first has passed over everything since,
the second may have done more. -/
structure Parted (p q : Progress) (m n : Machine) : Prop where
  calls : m.calls <+: n.calls
  failed : p.buildFailed = true ∧ q.buildFailed = true
  results : ∃ shared skipped more, p.results = shared ++ skipped ∧ q.results = shared ++ more ∧
    (∃ e ∈ shared, e.2.status = .failed) ∧ ∀ e ∈ skipped, e.2.status = .skipped

theorem Parted.exists_failed (parted : Parted p q m n) :
    (∃ e ∈ p.results, e.2.status = .failed) ∧ ∃ e ∈ q.results, e.2.status = .failed := by
  obtain ⟨shared, skipped, more, first, second, ⟨e, member, failed⟩, _⟩ := parted.results
  rw [first, second]
  exact ⟨⟨e, List.mem_append_left _ member, failed⟩, ⟨e, List.mem_append_left _ member, failed⟩⟩

theorem Parted.status (parted : Parted p q m n) : p.status = q.status := by
  simp [Progress.status, parted.failed]

theorem Parted.find?_of_executed (parted : Parted p q m n) {pick : String × JobResult → Bool}
    {e : String × JobResult} (found : p.results.find? pick = some e)
    (executed : e.2.status ≠ .skipped) : q.results.find? pick = some e := by
  obtain ⟨shared, skipped, more, first, second, _, passed⟩ := parted.results
  rw [first, List.find?_append] at found
  rw [second, List.find?_append]
  cases early : shared.find? pick with
  | some other =>
    rw [early] at found
    exact found
  | none =>
    rw [early, Option.none_or] at found
    exact absurd (passed e (List.mem_of_find?_eq_some found)) executed

/-- The turn that parts two runs is that of a failed job, which they still share. -/
theorem parted_of_failed {fast slow : Progress} (clear : p.buildFailed = false)
    (turn : r.runJob g p j m = (.ok q, n)) (failed : q.buildFailed = true) {a b : Machine}
    (stopped : (r.stopping true).runJobs g q jobs n = (.ok fast, a))
    (wentOn : (r.stopping false).runJobs g q jobs n = (.ok slow, b)) : Parted fast slow a b := by
  obtain ⟨result, results, cause⟩ := runJob_adds_result turn
  have own : result.status = .failed := (cause.mp failed).resolve_left (by simp [clear])
  obtain ⟨quiet, skipped, fastResults, passed⟩ := runJobs_stopped rfl failed stopped
  obtain ⟨⟨more, slowResults⟩, slowFailed⟩ := runJobs_grows wentOn
  have moved : n.Adds Call.Any b :=
    (runJobs_moves (r.stopping false).alters_any (fun j _ => j.alters_any) g q).ended wentOn
  obtain ⟨_, _, made, calls, _⟩ := moved
  refine ⟨?_, ⟨(runJobs_grows stopped).2 failed, slowFailed failed⟩, q.results, skipped, more,
    fastResults, slowResults.symm, ⟨(j.name, result), ?_, own⟩, passed⟩
  · rw [quiet, calls]
    exact List.prefix_append _ _
  · simp [results]

/-- Two runs of the same jobs from the same state go in step until a job fails. -/
theorem runJobs_in_step {fast slow : Progress} {a b : Machine} (clear : p.buildFailed = false)
    (stopped : (r.stopping true).runJobs g p jobs m = (.ok fast, a))
    (wentOn : (r.stopping false).runJobs g p jobs m = (.ok slow, b)) :
    (fast = slow ∧ a = b) ∨ Parted fast slow a b := by
  induction jobs generalizing p m with
  | nil =>
    cases stopped
    cases wentOn
    exact Or.inl ⟨rfl, rfl⟩
  | cons j rest ih =>
    simp only [runJobs, runJob_stopping r _ clear] at stopped wentOn
    obtain ⟨q, n, turn, stopped, wentOn⟩ := bind_eq_ok_both stopped wentOn
    cases failed : q.buildFailed with
    | false => exact ih failed stopped wentOn
    | true => exact Or.inr (parted_of_failed clear turn failed stopped wentOn)

/-- What a run that stopped at the first failure is to the same run that went on. -/
structure Curtails (fast slow : WorkflowRun) (m n : Machine) : Prop where
  calls : m.calls <+: n.calls
  executed : ∀ name result, fast.resultOf? name = some result → result.status ≠ .skipped →
    slow.resultOf? name = some result
  status : fast.status = slow.status
  unharmed : (∀ e ∈ fast.results, e.2.status ≠ .failed) ∨
    (∀ e ∈ slow.results, e.2.status ≠ .failed) → fast = slow ∧ m = n

theorem Curtails.refl (run : WorkflowRun) (m : Machine) : Curtails run run m m where
  calls := List.prefix_rfl
  executed := fun _ _ found _ => found
  status := rfl
  unharmed := fun _ => ⟨rfl, rfl⟩

/-- Progress that was parted makes runs of which one curtails the other, once both are reported. -/
theorem Parted.curtails {fast slow : Progress} {a b : Machine} (parted : Parted fast slow a b)
    {id : String} {ordered : List Job} (quiet : m.calls = a.calls) (silent : n.calls = b.calls) :
    Curtails ⟨id, event, ordered, fast.status, fast.results⟩
      ⟨id, event, ordered, slow.status, slow.results⟩ m n where
  calls := by
    rw [quiet, silent]
    exact parted.calls
  executed := by
    intro name result found executed
    obtain ⟨e, listed, rfl⟩ := Option.map_eq_some_iff.mp found
    exact congrArg (Option.map Prod.snd) (parted.find?_of_executed listed executed)
  status := parted.status
  unharmed := by
    obtain ⟨⟨e, member, failed⟩, ⟨e', member', failed'⟩⟩ := parted.exists_failed
    rintro (clean | clean)
    · exact absurd failed (clean e member)
    · exact absurd failed' (clean e' member')

/-- Stopping at the first failure only cuts work off: if a workflow is run both ways from one machine,
either no rule matches, or the record of the run that stops is the beginning of the other's, what it
executed has the same results there, and both end with the same status. -/
theorem run_stopping_curtails {fast slow : Option WorkflowRun}
    (stopped : (r.stopping true).run w event m = (.ok fast, n))
    (wentOn : (r.stopping false).run w event m = (.ok slow, k)) :
    (fast = none ∧ slow = none ∧ n = k) ∨
      ∃ a b, fast = some a ∧ slow = some b ∧ Curtails a b n k := by
  unfold Runner.run at stopped wentOn
  split at stopped
  next idle =>
    rw [if_pos idle] at wentOn
    obtain ⟨_, _, _, stopped, wentOn⟩ := bind_eq_ok_both stopped wentOn
    cases stopped
    cases wentOn
    exact Or.inl ⟨rfl, rfl, rfl⟩
  next matched =>
    rw [if_neg matched] at wentOn
    obtain ⟨g, _, _, stopped, wentOn⟩ := bind_eq_ok_both stopped wentOn
    obtain ⟨ordered, _, _, stopped, wentOn⟩ := bind_eq_ok_both stopped wentOn
    obtain ⟨id, _, _, stopped, wentOn⟩ := bind_eq_ok_both stopped wentOn
    obtain ⟨_, _, _, stopped, wentOn⟩ := bind_eq_ok_both stopped wentOn
    obtain ⟨fast, a, fastJobs, stopped⟩ := bind_eq_ok.mp stopped
    obtain ⟨slow, b, slowJobs, wentOn⟩ := bind_eq_ok.mp wentOn
    obtain ⟨_, _, fastReport, stopped⟩ := bind_eq_ok.mp stopped
    obtain ⟨_, _, slowReport, wentOn⟩ := bind_eq_ok.mp wentOn
    cases stopped
    cases wentOn
    refine Or.inr ⟨_, _, rfl, rfl, ?_⟩
    rcases runJobs_in_step rfl fastJobs slowJobs with ⟨rfl, rfl⟩ | parted
    · cases fastReport.symm.trans slowReport
      exact .refl _ _
    · exact parted.curtails ((Act.print_adds _).ended fastReport).calls_eq
        ((Act.print_adds _).ended slowReport).calls_eq

/-- What a run shows can be checked by evaluation, where its end cannot be compared. -/
theorem exists_run_of_seen {β : Type} {see : WorkflowRun → β} {seen : β}
    (shown : (r.run w event m).1.toOption.map (Option.map see) = some (some seen)) :
    ∃ run n, r.run w event m = (.ok (some run), n) ∧ see run = seen := by
  obtain ⟨result, n, ended, made⟩ := exists_ok_of_seen shown
  obtain ⟨run, rfl, same⟩ := Option.map_eq_some_iff.mp made
  exact ⟨run, n, ended, same⟩

/-- The build fails. The run that stops starts nothing after it, the other one still runs the lint job,
and both end as failed. -/
theorem run_stopping_curtails_failedBuild :
    ∃ a b n k,
      (patientRunner.stopping true).run failedBuild ⟨"push", "master"⟩ firstFails = (.ok (some a), n) ∧
      (patientRunner.stopping false).run failedBuild ⟨"push", "master"⟩ firstFails =
        (.ok (some b), k) ∧
      (a.results.map fun e => (e.1, e.2.status)) =
        [("build", .failed), ("lint", .skipped), ("test", .skipped), ("release", .skipped)] ∧
      (b.results.map fun e => (e.1, e.2.status)) =
        [("build", .failed), ("lint", .success), ("test", .skipped), ("release", .skipped)] ∧
      Curtails a b n k := by
  let statuses := fun run : WorkflowRun => run.results.map fun e => (e.1, e.2.status)
  have fast : ((patientRunner.stopping true).run failedBuild ⟨"push", "master"⟩
      firstFails).1.toOption.map (Option.map statuses) =
      some (some [("build", .failed), ("lint", .skipped), ("test", .skipped),
        ("release", .skipped)]) := by
    decide +kernel
  have slow : ((patientRunner.stopping false).run failedBuild ⟨"push", "master"⟩
      firstFails).1.toOption.map (Option.map statuses) =
      some (some [("build", .failed), ("lint", .success), ("test", .skipped),
        ("release", .skipped)]) := by
    decide +kernel
  obtain ⟨a, n, stopped, fast⟩ := exists_run_of_seen fast
  obtain ⟨b, k, wentOn, slow⟩ := exists_run_of_seen slow
  rcases run_stopping_curtails stopped wentOn with ⟨none, _⟩ | ⟨_, _, same, same', curtails⟩
  · cases none
  · cases same
    cases same'
    exact ⟨a, b, n, k, stopped, wentOn, fast, slow, curtails⟩

end Runner
end LocalCI
