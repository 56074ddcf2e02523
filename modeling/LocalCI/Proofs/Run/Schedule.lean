import LocalCI.Proofs.Run.Turns

/-! The schedule of a run: which jobs are executed, which are passed over and why, and what is
started meanwhile. Everything follows from one law about the turns, that a job is passed over exactly
when a failed job before it holds it up, and from the order of the jobs. -/
namespace LocalCI.Runner

open Attempt LocalCI.Graph

variable {r : Runner} {w : Workflow} {g : Graph} {event : Event} {m n : Machine} {run : WorkflowRun}
  {turns : List Turn} {p : Progress}

theorem Turn.calls_append {t : Turn} (lawful : t.Executed r ∨ t.Skipped) :
    t.after.calls = t.before.calls ++ t.calls := by
  have added : t.before.Adds Call.Any t.after := by
    rcases lawful with executed | ⟨_, reason, printed⟩
    · exact (execute_moves r.alters_any t.job.alters_any).ended executed
    · exact (Act.print_adds _).ended printed
  obtain ⟨_, _, made, calls, _⟩ := added
  rw [Turn.calls, calls, List.drop_left]

theorem Turn.calls_of_skipped {t : Turn} (skipped : t.Skipped) : t.calls = [] := by
  obtain ⟨_, reason, printed⟩ := skipped
  have quiet := (Act.print_adds (P := fun _ => False) _).ended printed
  rw [Turn.calls, quiet.calls_eq, List.drop_length]

theorem Turns.calls (taken : Turns r m turns n) :
    n.calls = m.calls ++ turns.flatMap Turn.calls := by
  induction taken with
  | done => simp
  | next lawful _ ih => rw [ih, Turn.calls_append lawful, List.flatMap_cons, List.append_assoc]

/-- Turns of jobs that were passed over contribute no calls. -/
theorem flatMap_calls_executed (lawful : ∀ t ∈ turns, t.Executed r ∨ t.Skipped) :
    turns.flatMap Turn.calls =
      (turns.filter fun t => t.result.status ≠ .skipped).flatMap Turn.calls := by
  induction turns with
  | nil => rfl
  | cons t rest ih =>
    obtain ⟨here, others⟩ := List.forall_mem_cons.mp lawful
    by_cases status : t.result.status = .skipped
    · have skipped := here.resolve_left fun executed => (Turn.executed_iff here).mp executed status
      simp [status, Turn.calls_of_skipped skipped, ih others]
    · simp [status, ih others]

namespace Consists

/-- A job is passed over exactly when a failed job before it holds it up. -/
theorem held (consists : Consists r w g m n run turns p) {before after : List Turn} {t : Turn}
    (split : turns = before ++ t :: after) :
    t.result.status = .skipped ↔ Held r w.jobs before t.job := by
  rw [← ofJobs_jobs consists.made]
  exact consists.tracks.held before t after split

theorem distinct (consists : Consists r w g m n run turns p) :
    (names (turns.map Turn.job)).Nodup := by
  rw [(order_eq_ok.mp consists.order).2]
  exact placed_distinct

theorem mem_jobs (consists : Consists r w g m n run turns p) {j : Job} :
    j ∈ turns.map Turn.job ↔ j ∈ w.jobs := by
  obtain ⟨all, same⟩ := order_eq_ok.mp consists.order
  rw [same, ← ofJobs_jobs consists.made]
  exact mem_placed_of_names_subset all

theorem perm (consists : Consists r w g m n run turns p) : (turns.map Turn.job).Perm w.jobs := by
  obtain ⟨all, same⟩ := order_eq_ok.mp consists.order
  rw [same, ← ofJobs_jobs consists.made]
  exact placed_perm all

/-- The turn of a job comes after the turns of all jobs it needs. -/
theorem turn_before (consists : Consists r w g m n run turns p) {before after : List Turn} {t : Turn}
    (split : turns = before ++ t :: after) {name : String}
    (needs : Relation.TransGen (Needs w.jobs) t.job.name name) :
    ∃ u ∈ before, u.job.name = name := by
  have ordered : Ordered (turns.map Turn.job) := by
    rw [(order_eq_ok.mp consists.order).2]
    exact placed_ordered
  rw [← needs_congr fun _ => consists.mem_jobs] at needs
  have place : turns.map Turn.job = before.map Turn.job ++ t.job :: after.map Turn.job := by
    rw [split, List.map_append, List.map_cons]
  have earlier := ordered.mem_before consists.distinct place needs
  obtain ⟨_, taken, named⟩ := mem_names.mp earlier
  obtain ⟨u, member, rfl⟩ := List.mem_map.mp taken
  exact ⟨u, member, named⟩

/-- A job is executed only after success of everything it needs. -/
theorem needs_succeeded (consists : Consists r w g m n run turns p) {before after : List Turn}
    {t : Turn} (split : turns = before ++ t :: after) (status : t.result.status ≠ .skipped)
    {name : String} (needs : Relation.TransGen (Needs w.jobs) t.job.name name) :
    ∃ u ∈ before, u.job.name = name ∧ u.result.status = .success := by
  obtain ⟨u, member, rfl⟩ := consists.turn_before split needs
  have free : ¬ Held r w.jobs before t.job := fun held =>
    status ((consists.held split).mpr held)
  refine ⟨u, member, rfl, ?_⟩
  cases ended : u.result.status with
  | success => rfl
  | failed => exact absurd ⟨u, member, ended, Or.inr needs⟩ free
  | skipped =>
    -- what holds up a needed job holds up this one too
    obtain ⟨front, back, rfl⟩ := List.append_of_mem member
    have earlier : turns = front ++ u :: (back ++ t :: after) := by simpa using split
    obtain ⟨v, sooner, failed, reason⟩ := (consists.held earlier).mp ended
    refine absurd ⟨v, List.mem_append_left _ sooner, failed, ?_⟩ free
    exact reason.imp_right fun through => needs.trans through

end Consists

/-- Before the first failure every job succeeds, after it every job is passed over. -/
theorem statuses_of_law {statuses : List JobStatus}
    (law : ∀ before status after, statuses = before ++ status :: after →
      (status = .skipped ↔ .failed ∈ before)) :
    ∃ passed, statuses = List.replicate passed .success ∨
      ∃ skipped, statuses =
        List.replicate passed .success ++ .failed :: List.replicate skipped .skipped := by
  have succeeded : ∀ front back, statuses = front ++ back → .failed ∉ front →
      front = List.replicate front.length .success := by
    intro front back split clean
    refine List.eq_replicate_of_mem fun status member => ?_
    cases status with
    | success => rfl
    | failed => exact absurd member clean
    | skipped =>
      obtain ⟨before, after, rfl⟩ := List.append_of_mem member
      have failed := (law before .skipped (after ++ back) (by simpa using split)).mp rfl
      exact absurd (List.mem_append_left _ failed) clean
  by_cases failed : .failed ∈ statuses
  · obtain ⟨front, back, split, clean⟩ := List.eq_append_cons_of_mem failed
    refine ⟨front.length, Or.inr ⟨back.length, ?_⟩⟩
    have passedOver : back = List.replicate back.length .skipped := by
      refine List.eq_replicate_of_mem fun status member => ?_
      obtain ⟨before, after, rfl⟩ := List.append_of_mem member
      exact (law (front ++ .failed :: before) status after (by simpa using split)).mpr (by simp)
    rw [← succeeded front (.failed :: back) split clean, ← passedOver]
    exact split
  · exact ⟨statuses.length, Or.inl (succeeded statuses [] (by simp) failed)⟩

namespace Consists

theorem failFast_statuses (consists : Consists r w g m n run turns p) (fast : r.failFast = true) :
    ∃ passed, turns.map (·.result.status) = List.replicate passed .success ∨
      ∃ skipped, turns.map (·.result.status) =
        List.replicate passed .success ++ .failed :: List.replicate skipped .skipped := by
  apply statuses_of_law
  intro before status after split
  obtain ⟨front, rest, turnsSplit, rfl, tail⟩ := List.map_eq_append_iff.mp split
  obtain ⟨t, back, rfl, rfl, rfl⟩ := List.map_eq_cons_iff.mp tail
  rw [consists.held turnsSplit, List.mem_map]
  constructor
  · rintro ⟨u, member, failed, _⟩
    exact ⟨u, member, failed⟩
  · rintro ⟨u, member, failed⟩
    exact ⟨u, member, failed, Or.inl fast⟩

/-- Without fail-fast a job is passed over just when it needs a failed one. -/
theorem skipped_iff_needs_failed (consists : Consists r w g m n run turns p)
    (slow : r.failFast = false) {t : Turn} (member : t ∈ turns) :
    t.result.status = .skipped ↔ ∃ u ∈ turns, u.result.status = .failed ∧
      Relation.TransGen (Needs w.jobs) t.job.name u.job.name := by
  obtain ⟨before, after, split⟩ := List.append_of_mem member
  rw [consists.held split]
  constructor
  · rintro ⟨u, earlier, failed, fast | needs⟩
    · simp [slow] at fast
    · exact ⟨u, by simp [split, earlier], failed, needs⟩
  · rintro ⟨u, known, failed, needs⟩
    obtain ⟨v, earlier, same⟩ := consists.turn_before split needs
    have distinct : (turns.map fun t => t.job.name).Nodup := by
      simpa [names, Function.comp_def] using consists.distinct
    have unique : v = u :=
      List.inj_on_of_nodup_map distinct (by simp [split, earlier]) known same
    exact ⟨u, unique ▸ earlier, failed, Or.inr needs⟩

theorem failed_of_skipped (consists : Consists r w g m n run turns p) {t : Turn} (member : t ∈ turns)
    (skipped : t.result.status = .skipped) : ∃ u ∈ turns, u.result.status = .failed := by
  obtain ⟨before, after, split⟩ := List.append_of_mem member
  obtain ⟨u, earlier, failed, _⟩ := (consists.held split).mp skipped
  exact ⟨u, by simp [split, earlier], failed⟩

end Consists

/-- What a run from one machine to another makes of its jobs. -/
structure Schedule (r : Runner) (w : Workflow) (m n : Machine) (run : WorkflowRun)
    (turns : List Turn) : Prop where
  /-- Every job has one turn, in the order of the jobs, and the results are those of the turns. -/
  order : runOrder w.jobs = .ok (turns.map Turn.job)
  complete : (turns.map Turn.job).Perm w.jobs
  results : run.results = turns.map Turn.entry
  taken : ∃ first last, Turns r first turns last ∧ first.calls = m.calls ∧ n.calls = last.calls
  executed : ∀ t ∈ turns, (t.Executed r ↔ t.result.status ≠ .skipped)
  needsMet : ∀ before t after, turns = before ++ t :: after → t.Executed r →
    ∀ name, Relation.TransGen (Needs w.jobs) t.job.name name →
      ∃ u ∈ before, u.job.name = name ∧ u.result.status = .success
  stopping : r.failFast = true →
    ∃ passed, turns.map (·.result.status) = List.replicate passed .success ∨
      ∃ skipped, turns.map (·.result.status) =
        List.replicate passed .success ++ .failed :: List.replicate skipped .skipped
  goingOn : r.failFast = false → ∀ t ∈ turns, (t.result.status = .skipped ↔
    ∃ u ∈ turns, u.result.status = .failed ∧
      Relation.TransGen (Needs w.jobs) t.job.name u.job.name)
  /-- Jobs that are passed over start nothing. -/
  silent : ∀ t ∈ turns, t.result.status = .skipped → t.after.calls = t.before.calls
  calls : n.calls = m.calls ++
    (turns.filter fun t => t.result.status ≠ .skipped).flatMap Turn.calls
  /-- A failed publish leaves its job successful, and without a failed job none is passed over. -/
  unpublished : ∀ t ∈ turns, t.result.publishError.isSome = true → t.result.status = .success
  unharmed : (∀ t ∈ turns, t.result.status ≠ .failed) → ∀ t ∈ turns, t.result.status ≠ .skipped

/-- Whatever the programs, actions and installers do, a run that comes to its end keeps to a
schedule. -/
theorem run_scheduled {result : Option WorkflowRun}
    (starts : Trigger.starts (Trigger.listed w.triggers) event.kind event.branch = true)
    (ran : r.run w event m = (.ok result, n)) :
    ∃ run turns, result = some run ∧ Schedule r w m n run turns := by
  obtain ⟨run, g, turns, p, rfl, consists⟩ := run_consists starts ran
  obtain ⟨first, last, taken, opening, closing⟩ := consists.turns
  have lawful := taken.lawful
  refine ⟨run, turns, rfl, ?_⟩
  exact {
    order := runOrder_eq_ok.mpr ⟨g, consists.made, consists.order⟩
    complete := consists.perm
    results := consists.results
    taken := ⟨first, last, taken, opening, closing⟩
    executed := fun t member => Turn.executed_iff (lawful t member)
    needsMet := by
      intro before t after split executed name needs
      have status := (Turn.executed_iff (lawful t (by simp [split]))).mp executed
      exact consists.needs_succeeded split status needs
    stopping := consists.failFast_statuses
    goingOn := fun slow t member => consists.skipped_iff_needs_failed slow member
    silent := by
      intro t member status
      have skipped := (lawful t member).resolve_left fun executed =>
        (Turn.executed_iff (lawful t member)).mp executed status
      rw [Turn.calls_append (lawful t member), Turn.calls_of_skipped skipped, List.append_nil]
    calls := by rw [closing, taken.calls, opening, flatMap_calls_executed lawful]
    unpublished := by
      intro t member unpublished
      rcases lawful t member with executed | skipped
      · exact (execute_ends executed).success_of_publishError unpublished
      · rw [skipped.1] at unpublished
        simp at unpublished
    unharmed := by
      intro clean t member skipped
      obtain ⟨u, known, failed⟩ := consists.failed_of_skipped member skipped
      exact clean u known failed }

def failedBuild : Workflow where
  jobs := [
    { name := "release", needs := some ["test", "lint"] },
    { name := "test", steps := [.shell "unit" "make test" .null {}], needs := some ["build"] },
    { name := "build", steps := [.shell "compile" "make" .null {}] },
    { name := "lint", steps := [.shell "check" "make lint" .null {}] }]

def patientRunner : Runner where
  workspace := []
  failFast := false

def firstFails : Machine where
  files := .dir []
  cwd := []
  temp := []
  answers := [{ code := 2 }]

/-- The build fails: what needs it, also through the tests, is passed over, and the lint job runs. -/
theorem run_scheduled_failedBuild :
    Trigger.starts (Trigger.listed failedBuild.triggers) "push" "master" = true ∧
    ∃ result n, patientRunner.run failedBuild ⟨"push", "master"⟩ firstFails = (.ok result, n) ∧
      (result.map fun run => run.results.map fun e => (e.1, e.2.status)) =
        some [("build", .failed), ("lint", .success), ("test", .skipped), ("release", .skipped)] ∧
      ∃ run turns, result = some run ∧
        Schedule patientRunner failedBuild firstFails n run turns := by
  have starts : Trigger.starts (Trigger.listed failedBuild.triggers) "push" "master" = true := by
    decide +kernel
  have statuses : ((patientRunner.run failedBuild ⟨"push", "master"⟩ firstFails).1.toOption.map
      fun result => result.map fun run => run.results.map fun e => (e.1, e.2.status)) =
      some (some [("build", .failed), ("lint", .success), ("test", .skipped),
        ("release", .skipped)]) := by
    decide +kernel
  cases ran : patientRunner.run failedBuild ⟨"push", "master"⟩ firstFails with
  | mk outcome n =>
    rw [ran] at statuses
    cases outcome with
    | error f => simp [Except.toOption] at statuses
    | ok result =>
      exact ⟨starts, result, n, rfl, Option.some.inj statuses, run_scheduled starts ran⟩

end LocalCI.Runner
