import LocalCI.Job.Order
import LocalCI.Proofs.Job.Edges

/-! The jobs downstream of a job are those that need it, directly or through others. What is on the stack
or was seen needs the job in the end, and the followers of what was seen are on the stack or were seen:
so when the stack is empty, nothing is left out. -/
namespace LocalCI.Graph

variable {g : Graph}

/-- What holds of the names while the followers of a name are taken from the stack. -/
structure Reaching (g : Graph) (name : String) (stack seen : List String) : Prop where
  once : seen.Nodup
  sound : ∀ a ∈ stack ++ seen, Relation.TransGen (Needs g.jobs) a name
  begun : ∀ a, Needs g.jobs a name → a ∈ stack ++ seen
  closed : ∀ b ∈ seen, ∀ a, Needs g.jobs a b → a ∈ stack ++ seen

/-- A name that no job has has no row, and nothing needs it. -/
theorem mem_followersOf {a name : String} :
    a ∈ g.edges.followersOf name ↔ Needs g.jobs a name := by
  by_cases known : name ∈ names g.jobs
  · rw [followersOf_edges known, mem_dependents]
  · rw [followersOf_edges_of_unknown known]
    refine iff_of_false List.not_mem_nil ?_
    rintro ⟨j, member, _, needed⟩
    exact known (g.known j member name needed)

theorem initial_reaching (name : String) :
    Reaching g name (g.edges.followersOf name).reverse [] where
  once := List.nodup_nil
  sound := by
    intro a found
    exact .single (mem_followersOf.mp (by simpa using found))
  begun := by
    intro a needs
    simpa using mem_followersOf.mpr needs
  closed := by
    intro b none
    cases none

/-- A name that was seen before is taken from the stack and not put anywhere. -/
theorem Reaching.skip {name a : String} {stack seen : List String}
    (reaching : Reaching g name (a :: stack) seen) (known : a ∈ seen) : Reaching g name stack seen := by
  have kept : ∀ b ∈ a :: stack ++ seen, b ∈ stack ++ seen := by
    intro b found
    rcases List.mem_cons.mp found with rfl | found
    · exact List.mem_append_right _ known
    · exact found
  refine ⟨reaching.once, ?_, ?_, ?_⟩
  · exact fun b found => reaching.sound b (List.mem_cons_of_mem _ found)
  · exact fun b needs => kept b (reaching.begun b needs)
  · exact fun c found b needs => kept b (reaching.closed c found b needs)

/-- A name that is new is seen from now on, and its followers come on the stack. -/
theorem Reaching.visit {name a : String} {stack seen : List String}
    (reaching : Reaching g name (a :: stack) seen) (new : a ∉ seen) :
    Reaching g name ((g.edges.followersOf a).reverse ++ stack) (seen ++ [a]) := by
  have kept : ∀ b ∈ a :: stack ++ seen, b ∈ (g.edges.followersOf a).reverse ++ stack ++ (seen ++ [a]) := by
    intro b found
    simp only [List.cons_append, List.mem_cons, List.mem_append] at found ⊢
    tauto
  have here := reaching.sound a List.mem_cons_self
  refine ⟨List.nodup_append_comm.mp (List.nodup_cons.mpr ⟨new, reaching.once⟩), ?_, ?_, ?_⟩
  · intro b found
    simp only [List.mem_append, List.mem_reverse, mem_followersOf, List.mem_singleton] at found
    rcases found with (needs | found) | found | rfl
    · exact here.head needs
    · exact reaching.sound b (by simp [found])
    · exact reaching.sound b (by simp [found])
    · exact here
  · exact fun b needs => kept b (reaching.begun b needs)
  · intro c found b needs
    rcases List.mem_append.mp found with earlier | last
    · exact kept b (reaching.closed c earlier b needs)
    · obtain rfl := List.mem_singleton.mp last
      simp [mem_followersOf.mpr needs]

theorem reach_reaching {name : String} {stack seen : List String}
    (reaching : Reaching g name stack seen) : Reaching g name [] (g.edges.reach stack seen) := by
  fun_induction Edges.reach g.edges stack seen with
  | case1 seen => exact reaching
  | case2 seen a stack known ih => exact ih (reaching.skip (by simpa using known))
  | case3 seen a stack new ih => exact ih (reaching.visit (by simpa using new))

theorem downstream_reaching (name : String) : Reaching g name [] (g.downstream name) :=
  reach_reaching (initial_reaching name)

/-- Downstream of a job are the jobs that need it, directly or through others. -/
theorem mem_downstream {a name : String} :
    a ∈ g.downstream name ↔ Relation.TransGen (Needs g.jobs) a name := by
  obtain ⟨_, sound, begun, closed⟩ := downstream_reaching (g := g) name
  constructor
  · exact fun member => sound a member
  · intro needs
    induction needs using Relation.TransGen.head_induction_on with
    | single needs => exact begun _ needs
    | head needs _ ih => exact closed _ ih _ needs

theorem downstream_nodup (name : String) : (g.downstream name).Nodup :=
  (downstream_reaching name).once

/-- What needs a name, directly or through others, ends with a need of that name, which is a job's. -/
theorem known_of_awaited {a name : String} (needs : Relation.TransGen (Needs g.jobs) a name) :
    name ∈ names g.jobs := by
  obtain ⟨_, _, j, member, _, needed⟩ := Relation.TransGen.tail'_iff.mp needs
  exact g.known j member name needed

/-- Downstream of a name are, once each, the jobs from which a chain of needs leads to it: none for a
name that no job has, and the job itself just when it is on a cycle. -/
theorem downstream_closure {jobs : List Job} {g : Graph} (made : ofJobs jobs = .ok g)
    (name : String) :
    (g.downstream name).Nodup ∧
    (∀ a, a ∈ g.downstream name ↔ Awaits jobs a name) ∧
    (name ∉ names jobs → g.downstream name = []) ∧
    (name ∈ g.downstream name ↔ OnCycle jobs name) := by
  obtain rfl := ofJobs_jobs made
  refine ⟨downstream_nodup name, fun a => mem_downstream.trans awaits_iff.symm, ?_,
    mem_downstream.trans onCycle_iff.symm⟩
  intro unknown
  rw [List.eq_nil_iff_forall_not_mem]
  intro a member
  exact unknown (known_of_awaited (mem_downstream.mp member))

/-- The test is on a cycle, so it is downstream of itself; lint is not; nothing needs a name that no job
has. -/
theorem downstream_closure_knot :
    ofJobs knot.jobs = .ok knot ∧
    knot.downstream "test" = ["build", "test", "release"] ∧
    (∀ a, a ∈ ["build", "test", "release"] ↔ Awaits knot.jobs a "test") ∧
    OnCycle knot.jobs "test" ∧ ¬ OnCycle knot.jobs "lint" ∧
    "package" ∉ names knot.jobs ∧ knot.downstream "package" = [] := by
  have made : ofJobs knot.jobs = .ok knot := ofJobs_eq_ok knot
  have listed : knot.downstream "test" = ["build", "test", "release"] := by decide +kernel
  obtain ⟨_, chains, _, cycle⟩ := downstream_closure made "test"
  obtain ⟨_, _, _, free⟩ := downstream_closure made "lint"
  obtain ⟨_, _, nothing, _⟩ := downstream_closure made "package"
  have unknown : "package" ∉ names knot.jobs := by decide
  rw [listed] at chains cycle
  exact ⟨made, listed, chains, cycle.mp (by decide), fun on => absurd (free.mpr on) (by decide +kernel),
    unknown, nothing unknown⟩

end LocalCI.Graph
