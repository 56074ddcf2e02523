import LocalCI.Proofs.Job.Downstream
import LocalCI.Proofs.Job.Order
import LocalCI.Proofs.Run.Outcome
import LocalCI.Proofs.Session

/-! A run takes its jobs in turn. One invariant ties the progress of the run to the turns so far: a
job is passed over exactly when a failed job before it holds it up. -/
namespace LocalCI.Runner

open Attempt LocalCI.Graph

variable {r : Runner} {g : Graph} {p q : Progress} {j : Job} {m n : Machine}

/-- What became of one job, and the machine before and after. -/
structure Turn where
  job : Job
  result : JobResult
  before : Machine
  after : Machine

namespace Turn

/-- The job was executed and ended with the result. -/
def Executed (r : Runner) (t : Turn) : Prop := r.execute t.job t.before = (.ok t.result, t.after)

/-- The job was passed over; only a line was printed. -/
def Skipped (t : Turn) : Prop :=
  t.result = { job := t.job.name, status := .skipped } ∧
  ∃ reason, Act.print (Report.jobSkipped t.job.name reason) t.before = (.ok (), t.after)

def entry (t : Turn) : String × JobResult := (t.job.name, t.result)

/-- What was started during the turn. -/
def calls (t : Turn) : List Call := t.after.calls.drop t.before.calls.length

end Turn

/-- Turns that follow each other on one machine. -/
inductive Turns (r : Runner) : Machine → List Turn → Machine → Prop where
  | done (m : Machine) : Turns r m [] m
  | next {turn rest last} : turn.Executed r ∨ turn.Skipped → Turns r turn.after rest last →
      Turns r turn.before (turn :: rest) last

theorem Turns.lawful {turns : List Turn} (run : Turns r m turns n) :
    ∀ t ∈ turns, t.Executed r ∨ t.Skipped := by
  induction run with
  | done => simp
  | next lawful _ ih => exact List.forall_mem_cons.mpr ⟨lawful, ih⟩

/-- A job that was executed has no skipped result, and conversely. -/
theorem Turn.executed_iff {t : Turn} (lawful : t.Executed r ∨ t.Skipped) :
    t.Executed r ↔ t.result.status ≠ .skipped := by
  constructor
  · intro executed
    exact (execute_ends executed).ne_skipped
  · intro status
    refine lawful.resolve_right fun skipped => status ?_
    rw [skipped.1]

/-- Some failed job among the earlier ones holds the job up: any of them if the first failure ends
the run, otherwise one that the job needs. -/
def Held (r : Runner) (jobs : List Job) (earlier : List Turn) (j : Job) : Prop :=
  ∃ u ∈ earlier, u.result.status = .failed ∧
    (r.failFast = true ∨ Relation.TransGen (Needs jobs) j.name u.job.name)

/-- The progress of a run says what its turns were. -/
structure Tracks (r : Runner) (g : Graph) (turns : List Turn) (p : Progress) : Prop where
  results : p.results = turns.map Turn.entry
  buildFailed : p.buildFailed = true ↔ ∃ t ∈ turns, t.result.status = .failed
  deployFailed : p.deployFailed = true ↔
    ∃ t ∈ turns, t.result.status = .success ∧ t.result.publishError.isSome = true
  blocked : ∀ name, name ∈ p.blocked ↔ ∃ t ∈ turns, t.result.status = .failed ∧
    Relation.TransGen (Needs g.jobs) name t.job.name
  held : ∀ before t after, turns = before ++ t :: after →
    (t.result.status = .skipped ↔ Held r g.jobs before t.job)

theorem Tracks.initial : Tracks r g [] {} where
  results := rfl
  buildFailed := by simp
  deployFailed := by simp
  blocked := by simp
  held := by simp

variable {turns : List Turn}

/-- The two reasons to pass a job over amount to being held up. -/
theorem Tracks.held_iff (tracks : Tracks r g turns p) :
    Held r g.jobs turns j ↔
      (p.buildFailed = true ∧ r.failFast = true) ∨ j.name ∈ p.blocked := by
  rw [tracks.buildFailed, tracks.blocked]
  constructor
  · rintro ⟨u, member, failed, fast | needs⟩
    · exact Or.inl ⟨⟨u, member, failed⟩, fast⟩
    · exact Or.inr ⟨u, member, failed, needs⟩
  · rintro (⟨⟨u, member, failed⟩, fast⟩ | ⟨u, member, failed, needs⟩)
    · exact ⟨u, member, failed, Or.inl fast⟩
    · exact ⟨u, member, failed, Or.inr needs⟩

theorem Tracks.skip (tracks : Tracks r g turns p) {t : Turn} (skipped : t.Skipped)
    (held : Held r g.jobs turns t.job) : Tracks r g (turns ++ [t]) (p.skip t.job.name) := by
  have status : t.result.status = .skipped := by rw [skipped.1]
  refine ⟨?_, ?_, ?_, ?_, forall_split_append tracks.held ?_⟩
  · simp [Progress.skip, tracks.results, Turn.entry, skipped.1]
  · simp [Progress.skip, tracks.buildFailed, status, or_and_right, exists_or]
  · simp [Progress.skip, tracks.deployFailed, status, or_and_right, exists_or]
  · intro name
    simp [Progress.skip, tracks.blocked, status, or_and_right, exists_or]
  · exact iff_of_true status held

theorem Tracks.add (tracks : Tracks r g turns p) {t : Turn}
    (ends : JobEnd r t.job t.result) (free : ¬ Held r g.jobs turns t.job) :
    Tracks r g (turns ++ [t]) (p.add g t.job.name t.result) := by
  have notSkipped : ¬ t.result.status = .skipped := ends.ne_skipped
  have entries : p.results ++ [(t.job.name, t.result)] = (turns ++ [t]).map Turn.entry := by
    simp [tracks.results, Turn.entry]
  have held : ∀ before u after, turns ++ [t] = before ++ u :: after →
      (u.result.status = .skipped ↔ Held r g.jobs before u.job) :=
    forall_split_append tracks.held (iff_of_false notSkipped free)
  cases status : t.result.status with
  | skipped => exact absurd status notSkipped
  | failed =>
    refine ⟨?_, ?_, ?_, ?_, held⟩
    · simp [Progress.add, status, entries]
    · simp [Progress.add, status]
    · simp [Progress.add, status, tracks.deployFailed]
    · intro name
      simp [Progress.add, status, tracks.blocked, mem_downstream, or_and_right, exists_or]
  | success =>
    cases unpublished : t.result.publishError.isSome with
    | true =>
      refine ⟨?_, ?_, ?_, ?_, held⟩
      · simp [Progress.add, status, unpublished, entries]
      · simp [Progress.add, status, unpublished, tracks.buildFailed]
      · simp [Progress.add, status, unpublished]
      · intro name
        simp [Progress.add, status, unpublished, tracks.blocked]
    | false =>
      refine ⟨?_, ?_, ?_, ?_, held⟩
      · simp [Progress.add, status, unpublished, entries]
      · simp [Progress.add, status, unpublished, tracks.buildFailed]
      · simp [Progress.add, status, unpublished, tracks.deployFailed]
      · intro name
        simp [Progress.add, status, unpublished, tracks.blocked]

/-- What the next job's turn can be. -/
theorem runJob_cases (ran : r.runJob g p j m = (.ok q, n)) :
    (((p.buildFailed = true ∧ r.failFast = true) ∨ j.name ∈ p.blocked) ∧ q = p.skip j.name ∧
      ∃ reason, Act.print (Report.jobSkipped j.name reason) m = (.ok (), n)) ∨
    (¬ ((p.buildFailed = true ∧ r.failFast = true) ∨ j.name ∈ p.blocked) ∧
      ∃ result, r.execute j m = (.ok result, n) ∧ q = p.add g j.name result) := by
  unfold runJob at ran
  by_cases fast : (p.buildFailed && r.failFast) = true
  · rw [if_pos fast] at ran
    obtain ⟨_, _, printed, done⟩ := bind_eq_ok.mp ran
    cases done
    exact Or.inl ⟨Or.inl (by simpa using fast), rfl, _, printed⟩
  · rw [if_neg fast] at ran
    by_cases blocked : p.blocked.contains j.name = true
    · rw [if_pos blocked] at ran
      obtain ⟨_, _, printed, done⟩ := bind_eq_ok.mp ran
      cases done
      exact Or.inl ⟨Or.inr (by simpa using blocked), rfl, _, printed⟩
    · rw [if_neg blocked] at ran
      obtain ⟨result, _, executed, done⟩ := bind_eq_ok.mp ran
      cases done
      refine Or.inr ⟨?_, result, executed, rfl⟩
      rintro (stop | waits)
      · exact fast (by simpa using stop)
      · exact blocked (by simpa using waits)

theorem runJob_turn (tracks : Tracks r g turns p)
    (ran : r.runJob g p j m = (.ok q, n)) :
    ∃ t : Turn, t.job = j ∧ t.before = m ∧ t.after = n ∧ (t.Executed r ∨ t.Skipped) ∧
      Tracks r g (turns ++ [t]) q := by
  rcases runJob_cases ran with ⟨passed, rfl, printed⟩ | ⟨free, result, executed, rfl⟩
  · let t : Turn := ⟨j, { job := j.name, status := .skipped }, m, n⟩
    have skipped : t.Skipped := ⟨rfl, printed⟩
    exact ⟨t, rfl, rfl, rfl, Or.inr skipped, tracks.skip skipped (tracks.held_iff.mpr passed)⟩
  · let t : Turn := ⟨j, result, m, n⟩
    have held : ¬ Held r g.jobs turns t.job := fun held => free (tracks.held_iff.mp held)
    exact ⟨t, rfl, rfl, rfl, Or.inl executed, tracks.add (execute_ends executed) held⟩

/-- Jobs that are run one after another take their turns, and the progress tells of them. -/
theorem runJobs_turns {jobs : List Job} (tracks : Tracks r g turns p)
    (ran : r.runJobs g p jobs m = (.ok q, n)) :
    ∃ more, more.map Turn.job = jobs ∧ Turns r m more n ∧ Tracks r g (turns ++ more) q := by
  induction jobs generalizing turns p m with
  | nil =>
    cases ran
    exact ⟨[], rfl, .done _, by simpa using tracks⟩
  | cons j rest ih =>
    obtain ⟨_, _, first, ran⟩ := bind_eq_ok.mp ran
    obtain ⟨t, rfl, rfl, rfl, lawful, tracks⟩ := runJob_turn tracks first
    obtain ⟨more, rfl, following, tracks⟩ := ih tracks ran
    exact ⟨t :: more, rfl, .next lawful following, by simpa using tracks⟩

variable {w : Workflow} {event : Event} {run : WorkflowRun}

/-- A run that exists consists of its turns. -/
structure Consists (r : Runner) (w : Workflow) (g : Graph) (m n : Machine) (run : WorkflowRun)
    (turns : List Turn) (p : Progress) : Prop where
  made : ofJobs w.jobs = .ok g
  order : g.order = .ok (turns.map Turn.job)
  jobs : run.jobs = turns.map Turn.job
  results : run.results = turns.map Turn.entry
  status : run.status = p.status
  tracks : Tracks r g turns p
  turns : ∃ first last, Turns r first turns last ∧ first.calls = m.calls ∧ n.calls = last.calls

/-- A run is not made just when no rule matches. -/
theorem run_none {result : Option WorkflowRun}
    (idle : Trigger.starts (Trigger.listed w.triggers) event.kind event.branch = false)
    (ran : r.run w event m = (.ok result, n)) : result = none := by
  simp only [Runner.run, idle] at ran
  obtain ⟨_, _, _, done⟩ := bind_eq_ok.mp ran
  cases done
  rfl

theorem run_consists {result : Option WorkflowRun}
    (starts : Trigger.starts (Trigger.listed w.triggers) event.kind event.branch = true)
    (ran : r.run w event m = (.ok result, n)) :
    ∃ run g turns p, result = some run ∧ Consists r w g m n run turns p := by
  unfold Runner.run at ran
  split at ran
  next idle => simp [starts] at idle
  · obtain ⟨g, _, made, ran⟩ := bind_eq_ok.mp ran
    obtain ⟨ordered, _, placed, ran⟩ := bind_eq_ok.mp ran
    obtain ⟨id, started, named, ran⟩ := bind_eq_ok.mp ran
    obtain ⟨_, first, opened, ran⟩ := bind_eq_ok.mp ran
    obtain ⟨p, last, executed, ran⟩ := bind_eq_ok.mp ran
    obtain ⟨_, _, reported, ran⟩ := bind_eq_ok.mp ran
    cases ran
    obtain ⟨accepted, rfl⟩ := Act.ofWorkflow_eq_ok.mp made
    obtain ⟨order, rfl⟩ := Act.ofWorkflow_eq_ok.mp placed
    obtain ⟨turns, rfl, taken, tracks⟩ := runJobs_turns Tracks.initial executed
    have naming : started.calls = m.calls :=
      ((newRunId_moves (M := Machine.Adds fun _ => False)).ended named).calls_eq
    have printing : first.calls = started.calls := ((Act.print_adds _).ended opened).calls_eq
    have closing : n.calls = last.calls := ((Act.print_adds _).ended reported).calls_eq
    exact ⟨_, g, turns, p, rfl, accepted, order, rfl, tracks.results, rfl, tracks, first, last, taken,
      printing.trans naming, closing⟩

theorem run_consists_of_some (ran : r.run w event m = (.ok (some run), n)) :
    ∃ g turns p, Consists r w g m n run turns p := by
  cases starts : Trigger.starts (Trigger.listed w.triggers) event.kind event.branch with
  | false => cases run_none starts ran
  | true =>
    obtain ⟨_, g, turns, p, same, consists⟩ := run_consists starts ran
    cases same
    exact ⟨g, turns, p, consists⟩

end LocalCI.Runner
