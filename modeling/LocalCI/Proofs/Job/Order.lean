import LocalCI.Proofs.Job.Lineup
import Mathlib.Data.Fintype.Pigeonhole
import Mathlib.Data.List.Perm.Subperm
import Mathlib.Data.Set.Finite.List

/-! Which graphs have an order. When nothing is ready any more, a job that is left waits for another that
is left, so that a finite graph holds a cycle. -/
namespace LocalCI.Graph

variable {g : Graph}

/-- A job that is never placed has a need that is never placed. -/
theorem unplaced_needs_unplaced {a : String} (known : a ∈ names g.jobs)
    (unplaced : a ∉ names g.placed) :
    ∃ b, Needs g.jobs a b ∧ b ∈ names g.jobs ∧ b ∉ names g.placed := by
  obtain ⟨j, member, rfl⟩ := mem_names.mp known
  have missing : ¬ ∀ n ∈ j.needed, n ∈ names g.placed := fun all =>
    unplaced (name_mem_names ((mem_placed_iff member).mpr all))
  push Not at missing
  obtain ⟨n, needed, absent⟩ := missing
  exact ⟨n, ⟨j, member, rfl, needed⟩, g.known j member n needed, absent⟩

/-- Walking from need to need among finitely many jobs comes back to a job at some time. -/
theorem unplaced_reaches_cycle {a : String} (known : a ∈ names g.jobs)
    (unplaced : a ∉ names g.placed) :
    ∃ c, Relation.ReflTransGen (Needs g.jobs) a c ∧ Relation.TransGen (Needs g.jobs) c c := by
  let Left := { n : String // n ∈ names g.jobs ∧ n ∉ names g.placed }
  have finite : Finite Left :=
    Set.Finite.subset (List.finite_toSet (names g.jobs)) fun _ left => left.1
  have forward : ∀ n : Left, ∃ next : Left, Needs g.jobs n.1 next.1 := fun n => by
    obtain ⟨b, needs, left⟩ := unplaced_needs_unplaced n.2.1 n.2.2
    exact ⟨⟨b, left⟩, needs⟩
  choose next step using forward
  let start : Left := ⟨a, known, unplaced⟩
  have walk : ∀ (n : Left) (k : Nat), Relation.TransGen (Needs g.jobs) n.1 (next^[k + 1] n).1 := by
    intro n k
    induction k with
    | zero => exact .single (step n)
    | succ k ih =>
      rw [Function.iterate_succ_apply']
      exact ih.tail (step _)
  obtain ⟨i, k, different, same⟩ :=
    Finite.exists_ne_map_eq_of_infinite fun k : Nat => next^[k] start
  wlog less : i < k generalizing i k
  · exact this k i different.symm same.symm (by omega)
  obtain ⟨gap, rfl⟩ : ∃ gap, k = gap + 1 + i := ⟨k - i - 1, by omega⟩
  have back := walk (next^[i] start) gap
  rw [← Function.iterate_add_apply, ← same] at back
  refine ⟨(next^[i] start).1, ?_, back⟩
  cases i with
  | zero => exact .refl
  | succ i => exact (walk start i).to_reflTransGen

/-- What a job needs, directly or through others, comes before it. -/
theorem Ordered.mem_before {jobs before after : List Job} {j : Job} (ordered : Ordered jobs)
    (distinct : (names jobs).Nodup) (split : jobs = before ++ j :: after) {name : String}
    (needs : Relation.TransGen (Needs jobs) j.name name) : name ∈ names before := by
  induction needs with
  | single needs =>
    obtain ⟨k, member, same, needed⟩ := needs
    have here : j ∈ jobs := by simp [split]
    rw [List.inj_on_of_nodup_map distinct member here same] at needed
    exact ordered before j after split _ needed
  | tail _ needs ih =>
    obtain ⟨k, member, same, needed⟩ := needs
    obtain ⟨l, earlier, named⟩ := mem_names.mp ih
    obtain ⟨front, back, rfl⟩ := List.append_of_mem earlier
    have there : l ∈ jobs := by simp [split]
    rw [List.inj_on_of_nodup_map distinct member there (same.trans named.symm)] at needed
    have sooner := ordered front l (back ++ j :: after) (by simpa using split) _ needed
    simp only [names, List.map_append, List.mem_append] at sooner ⊢
    exact Or.inl sooner

theorem Ordered.acyclic {jobs : List Job} (ordered : Ordered jobs)
    (distinct : (names jobs).Nodup) : Acyclic jobs := by
  intro name cycle
  obtain ⟨_, ⟨j, member, rfl, _⟩, _⟩ := Relation.TransGen.head'_iff.mp cycle
  obtain ⟨before, after, rfl⟩ := List.append_of_mem member
  exact name_fresh distinct (ordered.mem_before distinct rfl cycle)

theorem needs_congr {first second : List Job} (same : ∀ j, j ∈ first ↔ j ∈ second) :
    Needs first = Needs second := by
  funext a b
  simp only [Needs, same]

theorem mem_placed_of_names_subset
    (all : names g.jobs ⊆ names g.placed) {j : Job} : j ∈ g.placed ↔ j ∈ g.jobs := by
  constructor
  · exact fun member => placed_subset member
  · intro member
    obtain ⟨k, placed, same⟩ := mem_names.mp (all (name_mem_names member))
    exact g.name_injective (placed_subset placed) member same ▸ placed

theorem placed_perm (all : names g.jobs ⊆ names g.placed) : g.placed.Perm g.jobs :=
  (List.perm_ext_iff_of_nodup placed_distinct.of_map g.distinct.of_map).mpr
    fun _ => mem_placed_of_names_subset all

/-- Every job is placed just when there is no cycle. -/
theorem acyclic_iff_all_placed : Acyclic g.jobs ↔ names g.jobs ⊆ names g.placed := by
  constructor
  · intro acyclic a known
    by_contra unplaced
    obtain ⟨c, _, cycle⟩ := unplaced_reaches_cycle known unplaced
    exact acyclic c cycle
  · intro all
    have ordered := (placed_ordered (g := g)).acyclic placed_distinct
    rwa [Acyclic, needs_congr fun _ => mem_placed_of_names_subset all] at ordered

theorem length_placed_eq : g.placed.length = g.jobs.length ↔ names g.jobs ⊆ names g.placed := by
  have fits := List.subperm_of_subset (placed_distinct (g := g)).of_map placed_subset
  constructor
  · intro same
    have perm := fits.perm_of_length_le same.ge
    exact (perm.symm.map Job.name).subset
  · intro all
    exact (placed_perm all).length_eq

theorem order_eq_ok {ordered : List Job} :
    g.order = .ok ordered ↔ names g.jobs ⊆ names g.placed ∧ ordered = g.placed := by
  rw [← length_placed_eq]
  unfold order
  split
  next complete => simp [complete, eq_comm]
  next incomplete => simp [incomplete]

theorem runOrder_eq_ok {jobs ordered : List Job} :
    runOrder jobs = .ok ordered ↔ ∃ g, ofJobs jobs = .ok g ∧ g.order = .ok ordered := by
  unfold runOrder
  cases ofJobs jobs with
  | error e => simp [bind, Except.bind]
  | ok g => simp [bind, Except.bind]

/-- Jobs can be ordered just when their names differ, their needs are known and no job needs itself
in the end. All jobs are in the order then, each after what it needs. -/
theorem runOrder_accepts_acyclic (jobs : List Job) :
    ((∃ ordered, runOrder jobs = .ok ordered) ↔
      (names jobs).Nodup ∧ (∀ j ∈ jobs, ∀ n ∈ j.needed, n ∈ names jobs) ∧ Acyclic jobs) ∧
    (¬ ((names jobs).Nodup ∧ (∀ j ∈ jobs, ∀ n ∈ j.needed, n ∈ names jobs) ∧ Acyclic jobs) →
      ∃ e : WorkflowError, runOrder jobs = .error e) ∧
    (∀ ordered, runOrder jobs = .ok ordered → ordered.Perm jobs ∧ Ordered ordered) := by
  have accepted : (∃ ordered, runOrder jobs = .ok ordered) ↔
      (names jobs).Nodup ∧ (∀ j ∈ jobs, ∀ n ∈ j.needed, n ∈ names jobs) ∧ Acyclic jobs := by
    constructor
    · rintro ⟨ordered, ok⟩
      obtain ⟨g, made, placed⟩ := runOrder_eq_ok.mp ok
      obtain rfl := ofJobs_jobs made
      exact ⟨g.distinct, g.known, acyclic_iff_all_placed.mpr (order_eq_ok.mp placed).1⟩
    · rintro ⟨distinct, known, acyclic⟩
      let g : Graph := ⟨jobs, distinct, known⟩
      have all : names g.jobs ⊆ names g.placed := acyclic_iff_all_placed.mp acyclic
      exact ⟨g.placed, runOrder_eq_ok.mpr ⟨g, ofJobs_eq_ok g, order_eq_ok.mpr ⟨all, rfl⟩⟩⟩
  refine ⟨accepted, ?_, ?_⟩
  · intro refused
    cases result : runOrder jobs with
    | error e => exact ⟨e, rfl⟩
    | ok ordered => exact absurd (accepted.mp ⟨ordered, result⟩) refused
  · intro ordered ok
    obtain ⟨g, made, placed⟩ := runOrder_eq_ok.mp ok
    obtain rfl := ofJobs_jobs made
    obtain ⟨all, rfl⟩ := order_eq_ok.mp placed
    exact ⟨placed_perm all, placed_ordered⟩

/-- The diamond has an order; with a build that needs itself it has none. -/
theorem runOrder_accepts_acyclic_diamond :
    (runOrder diamond).toOption.map names = some ["build", "test", "lint", "release"] ∧
    (∃ ordered, runOrder diamond = .ok ordered ∧ ordered.Perm diamond ∧ Ordered ordered) ∧
    Acyclic diamond ∧
    ∃ e, runOrder ({ name := "build", needs := some ["build"] } :: diamond.take 3) = .error e := by
  have listed : (runOrder diamond).toOption.map names =
      some ["build", "test", "lint", "release"] := by
    decide +kernel
  obtain ⟨accepted, _, sound⟩ := runOrder_accepts_acyclic diamond
  cases result : runOrder diamond with
  | error e =>
    rw [result] at listed
    cases listed
  | ok ordered =>
    have acyclic := (accepted.mp ⟨ordered, result⟩).2.2
    rw [result] at listed
    refine ⟨listed, ⟨ordered, rfl, sound ordered result⟩, acyclic, ?_⟩
    refine (runOrder_accepts_acyclic _).2.1 fun accepted => ?_
    exact accepted.2.2 "build" (.single ⟨_, List.mem_cons_self, rfl, List.mem_cons_self⟩)

end LocalCI.Graph
