import LocalCI.Proofs.Job.Order

/-! What is said of jobs that cannot be ordered. The jobs that are never placed are the jobs on cycles
and those that wait for one: whatever a placed job waits for is placed before it, and a job that is left
waits for another that is left. -/
namespace LocalCI

namespace Graph

variable {g : Graph} {a b : String}

/-- A placed job needs only placed jobs, and it has its needs among them. -/
theorem needs_placed (placed : a ∈ names g.placed) (needs : Needs g.jobs a b) :
    Needs g.placed a b ∧ b ∈ names g.placed := by
  obtain ⟨j, member, rfl⟩ := mem_names.mp placed
  have needed := (g.needs_iff (placed_subset member)).mp needs
  exact ⟨⟨j, member, rfl, needed⟩, (mem_placed_iff (placed_subset member)).mp member b needed⟩

theorem awaited_placed (placed : a ∈ names g.placed)
    (needs : Relation.TransGen (Needs g.jobs) a b) :
    Relation.TransGen (Needs g.placed) a b ∧ b ∈ names g.placed := by
  induction needs with
  | single needs =>
    obtain ⟨within, next⟩ := needs_placed placed needs
    exact ⟨.single within, next⟩
  | tail _ needs ih =>
    obtain ⟨chain, last⟩ := ih
    obtain ⟨within, next⟩ := needs_placed last needs
    exact ⟨chain.tail within, next⟩

/-- No job on a cycle is placed, as the jobs of the cycle would be placed before one another. -/
theorem not_placed_of_onCycle (cycle : OnCycle g.jobs a) : a ∉ names g.placed := by
  intro placed
  have inner := (awaited_placed placed (onCycle_iff.mp cycle)).1
  exact placed_ordered.acyclic placed_distinct a inner

theorem known_of_awaiting (awaits : Awaits g.jobs a b) : a ∈ names g.jobs := by
  obtain ⟨_, ⟨j, member, rfl, _⟩, _⟩ := Relation.TransGen.head'_iff.mp (awaits_iff.mp awaits)
  exact name_mem_names member

/-- Stuck are the jobs on cycles, and the jobs that wait for one of these. -/
theorem mem_stuck_iff :
    a ∈ g.stuck ↔ OnCycle g.jobs a ∨ ∃ c, Awaits g.jobs a c ∧ OnCycle g.jobs c := by
  rw [mem_stuck]
  constructor
  · rintro ⟨known, unplaced⟩
    obtain ⟨c, reaches, cycle⟩ := unplaced_reaches_cycle known unplaced
    rcases Relation.reflTransGen_iff_eq_or_transGen.mp reaches with rfl | needs
    · exact Or.inl (onCycle_iff.mpr cycle)
    · exact Or.inr ⟨c, awaits_iff.mpr needs, onCycle_iff.mpr cycle⟩
  · rintro (cycle | ⟨c, awaits, cycle⟩)
    · have awaits : Awaits g.jobs a a := awaits_iff.mpr (onCycle_iff.mp cycle)
      exact ⟨known_of_awaiting awaits, not_placed_of_onCycle cycle⟩
    · refine ⟨known_of_awaiting awaits, fun placed => not_placed_of_onCycle cycle ?_⟩
      exact (awaited_placed placed (awaits_iff.mp awaits)).2

theorem stuck_nodup : g.stuck.Nodup := by
  rw [stuck_eq]
  exact g.distinct.filter _

theorem order_eq_error {e : WorkflowError} (refused : g.order = .error e) :
    g.stuck ≠ [] ∧ e = .cycle (Text.sorted g.stuck) := by
  unfold order at refused
  split at refused
  next => cases refused
  next incomplete =>
    cases refused
    refine ⟨fun none => incomplete (length_placed_eq.mpr fun a known => ?_), rfl⟩
    by_contra unplaced
    simpa [none] using mem_stuck.mpr ⟨known, unplaced⟩

/-- Jobs with different names and known needs that have no order are refused with names in strictly
increasing order: of the jobs on a cycle, and of the jobs from which a chain of needs leads to one. -/
theorem runOrder_names_stuck {jobs : List Job} {e : WorkflowError}
    (distinct : (names jobs).Nodup) (known : ∀ j ∈ jobs, ∀ n ∈ j.needed, n ∈ names jobs)
    (refused : runOrder jobs = .error e) :
    ∃ stuck : List String, e = .cycle stuck ∧
      e.message = "Job dependencies form a cycle. Stuck jobs: " ++ Text.quotedList stuck ∧
      stuck ≠ [] ∧ stuck.Pairwise (· < ·) ∧
      ∀ a, a ∈ stuck ↔ OnCycle jobs a ∨ ∃ c, Awaits jobs a c ∧ OnCycle jobs c := by
  let g : Graph := ⟨jobs, distinct, known⟩
  have unordered : g.order = .error e := by
    rwa [runOrder, ofJobs_eq_ok g] at refused
  obtain ⟨left, rfl⟩ := order_eq_error unordered
  refine ⟨Text.sorted g.stuck, rfl, rfl, ?_, Text.pairwise_sorted stuck_nodup, fun a => ?_⟩
  · intro none
    refine left (List.eq_nil_iff_forall_not_mem.mpr fun a member => ?_)
    simpa [none] using Text.mem_sorted.mpr member
  · rw [Text.mem_sorted, mem_stuck_iff]

/-- Lint is ready, and all others of the knot are on a cycle or wait for one. -/
theorem runOrder_names_stuck_knot :
    runOrder knot.jobs = .error (.cycle ["audit", "build", "release", "test"]) ∧
    (∀ a, a ∈ ["audit", "build", "release", "test"] ↔
      OnCycle knot.jobs a ∨ ∃ c, Awaits knot.jobs a c ∧ OnCycle knot.jobs c) := by
  have left : knot.stuck = ["release", "test", "build", "audit"] := by decide +kernel
  have refused : runOrder knot.jobs = .error (.cycle ["audit", "build", "release", "test"]) := by
    have incomplete : knot.placed.length ≠ knot.jobs.length := by decide +kernel
    rw [runOrder, ofJobs_eq_ok knot]
    exact (if_neg incomplete).trans (by rw [left]; rfl)
  obtain ⟨stuck, same, _, _, _, members⟩ := runOrder_names_stuck knot.distinct knot.known refused
  cases same
  exact ⟨refused, members⟩

end Graph
end LocalCI
