import LocalCI.Job.Edges
import LocalCI.Proofs.Job.Needs
import LocalCI.Proofs.Text.Sorted
import Mathlib.Data.Finset.Card

/-! The table of needs holds what the jobs say, however they say it: who follows whom is the relation of
the needs, and the counters agree with it. Entering one need keeps the two columns in step; a pass over
one job and then over all jobs carries that to the whole table. -/
namespace LocalCI

namespace Edges

variable {names : List String} {followers : String → List String} {degrees : String → Nat}

/-- The table whose rows are told by their names. -/
def tabulate (names : List String) (followers : String → List String) (degrees : String → Nat) :
    Edges where
  followers := names.map fun name => (name, followers name)
  degrees := names.map fun name => (name, degrees name)

theorem row?_map {α : Type} (value : String → α) {name : String} (known : name ∈ names) :
    row? name (names.map fun n => (n, value n)) = some (value name) := by
  induction names with
  | nil => cases known
  | cons first rest ih =>
    by_cases same : first = name
    · simp [row?, same]
    · have later := ih ((List.mem_cons.mp known).resolve_left (Ne.symm same))
      simpa [row?, same] using later

theorem row?_map_of_unknown {α : Type} (value : String → α) {name : String} (unknown : name ∉ names) :
    row? name (names.map fun n => (n, value n)) = none := by
  simp only [row?, Option.map_eq_none_iff, List.find?_eq_none, List.forall_mem_map, decide_eq_true_eq]
  rintro n listed rfl
  exact unknown listed

theorem adjust_map {α : Type} (value : String → α) (name : String) (change : α → α) :
    adjust name change (names.map fun n => (n, value n)) =
      names.map fun n => (n, if n = name then change (value n) else value n) := by
  rw [adjust, List.map_map]
  refine List.map_congr_left fun n _ => ?_
  by_cases same : n = name <;> simp [same]

theorem names_tabulate : (tabulate names followers degrees).followers.map Prod.fst = names ∧
    (tabulate names followers degrees).degrees.map Prod.fst = names := by
  simp [tabulate, Function.comp_def]

theorem followersOf_tabulate {name : String} (known : name ∈ names) :
    (tabulate names followers degrees).followersOf name = followers name := by
  simp only [followersOf, tabulate, row?_map followers known, Option.getD_some]

theorem degreeOf_tabulate {name : String} (known : name ∈ names) :
    (tabulate names followers degrees).degreeOf name = degrees name := by
  simp only [degreeOf, tabulate, row?_map degrees known, Option.getD_some]

/-- The table after a job has entered some of its needs. -/
def entered (names : List String) (followers : String → List String) (degrees : String → Nat)
    (job : String) (listed : List String) : Edges :=
  tabulate names (fun n => if n ∈ listed then followers n ++ [job] else followers n)
    fun n => if n = job then degrees n + (Text.distinct listed).length else degrees n

/-- A need that was listed before leaves both columns as they are; any other adds the job to one row of
the first and one to its own counter in the second. -/
theorem link_entered {job need : String} (fresh : ∀ n, job ∉ followers n) (known : need ∈ names)
    (listed : List String) :
    link job (entered names followers degrees job listed) need =
      entered names followers degrees job (listed ++ [need]) := by
  have row : (entered names followers degrees job listed).followersOf need =
      if need ∈ listed then followers need ++ [job] else followers need :=
    followersOf_tabulate known
  rw [link, row]
  -- Only this job's own earlier needs can have entered it, so the row shows whether the need is new.
  by_cases before : need ∈ listed
  · have same : ∀ n, n ∈ listed ++ [need] ↔ n ∈ listed := by
      intro n
      simp only [List.mem_append, List.mem_singleton, or_iff_left_iff_imp]
      rintro rfl
      exact before
    simp [before, entered, same, Text.distinct_append_of_mem before]
  · rw [if_neg before, if_neg (by simpa using fresh need)]
    simp only [entered, tabulate, adjust_map, Text.distinct_append_of_not_mem before]
    congr 1
    · refine List.map_congr_left fun n _ => ?_
      by_cases same : n = need
      · simp [same, before]
      · simp [same]
    · refine List.map_congr_left fun n _ => ?_
      by_cases same : n = job
      · simp [same, Nat.add_assoc]
      · simp [same]

theorem foldl_link_entered {job : String} (fresh : ∀ n, job ∉ followers n) {needs : List String}
    (known : ∀ n ∈ needs, n ∈ names) (listed : List String) :
    needs.foldl (link job) (entered names followers degrees job listed) =
      entered names followers degrees job (listed ++ needs) := by
  induction needs generalizing listed with
  | nil => simp
  | cons need rest ih =>
    obtain ⟨here, later⟩ := List.forall_mem_cons.mp known
    rw [List.foldl_cons, link_entered fresh here, ih later, List.append_assoc, List.singleton_append]

theorem entered_nil (job : String) :
    entered names followers degrees job [] = tabulate names followers degrees := by
  simp [entered, Text.distinct]

/-- The table of the needs of some of the jobs. -/
def ofPart (names : List String) (done : List Job) : Edges :=
  tabulate names (fun n => Graph.names (done.filter fun j => j.needed.contains n))
    fun n => ((done.find? fun j => j.name = n).map Graph.degree).getD 0

theorem foldl_link_ofPart {done : List Job} {j : Job} (fresh : j.name ∉ Graph.names done)
    (known : ∀ n ∈ j.needed, n ∈ names) :
    j.needed.foldl (link j.name) (ofPart names done) = ofPart names (done ++ [j]) := by
  have unlisted : ∀ n, j.name ∉ Graph.names (done.filter fun k => k.needed.contains n) :=
    fun n member => fresh ((List.filter_sublist.map Job.name).subset member)
  rw [ofPart, ← entered_nil j.name, foldl_link_entered unlisted known, List.nil_append, entered, ofPart]
  congr 1
  · funext n
    by_cases needed : n ∈ j.needed <;> simp [Graph.names, needed]
  · funext n
    by_cases same : n = j.name
    · -- No job before has the name, so its counter starts at zero.
      have absent : done.find? (fun k => k.name = n) = none := by
        simpa [Graph.names, same] using fresh
      simp [same ▸ absent, same, Graph.degree]
    · simp [same, Ne.symm same]

theorem foldl_ofPart {done after : List Job} (distinct : (Graph.names (done ++ after)).Nodup)
    (known : ∀ j ∈ after, ∀ n ∈ j.needed, n ∈ names) :
    after.foldl (fun e j => j.needed.foldl (link j.name) e) (ofPart names done) =
      ofPart names (done ++ after) := by
  induction after generalizing done with
  | nil => simp
  | cons j rest ih =>
    obtain ⟨here, later⟩ := List.forall_mem_cons.mp known
    rw [List.foldl_cons, foldl_link_ofPart (Graph.name_fresh distinct) here]
    rw [List.append_cons done j rest] at distinct ⊢
    exact ih distinct later

end Edges

namespace Graph

open Edges

/-- The table of a graph tells the jobs that need a job, and the number of jobs it needs itself. -/
theorem edges_eq (g : Graph) : g.edges = tabulate (names g.jobs)
    (fun n => names (g.dependents n)) fun n => ((g.find? n).map degree).getD 0 := by
  have begun : blank (names g.jobs) = ofPart (names g.jobs) [] := rfl
  rw [edges, begun]
  exact foldl_ofPart g.distinct g.known

variable {g : Graph} {j : Job}

theorem followersOf_edges {n : String} (known : n ∈ names g.jobs) :
    g.edges.followersOf n = names (g.dependents n) := by
  rw [edges_eq, followersOf_tabulate known]

theorem followersOf_edges_of_unknown {n : String} (unknown : n ∉ names g.jobs) :
    g.edges.followersOf n = [] := by
  rw [edges_eq, Edges.followersOf, tabulate, row?_map_of_unknown _ unknown]
  rfl

theorem degreeOf_edges (member : j ∈ g.jobs) : g.edges.degreeOf j.name = degree j := by
  rw [edges_eq, degreeOf_tabulate (name_mem_names member), find?_name member]
  rfl

/-- The needs of a job are as many as the jobs that have it among their followers. -/
theorem degree_eq_length_filter (member : j ∈ g.jobs) :
    degree j = ((names g.jobs).filter fun n => (g.edges.followersOf n).contains j.name).length := by
  refine Text.length_distinct (g.distinct.filter _) fun n => ?_
  rw [List.mem_filter, List.contains_iff_mem]
  constructor
  · rintro ⟨known, follows⟩
    rw [followersOf_edges known, mem_dependents, g.needs_iff member] at follows
    exact follows
  · intro needed
    have known := g.known j member n needed
    rw [followersOf_edges known, mem_dependents, g.needs_iff member]
    exact ⟨known, needed⟩

theorem degree_eq_card (j : Job) : degree j = j.needed.toFinset.card := by
  rw [List.card_toFinset]
  exact Text.length_distinct j.needed.nodup_dedup fun _ => List.mem_dedup

theorem degree_congr {k : Job} (same : ∀ n, n ∈ k.needed ↔ n ∈ j.needed) : degree k = degree j := by
  refine Text.length_distinct (Text.nodup_distinct _) fun n => ?_
  rw [Text.mem_distinct, same]

/-- The jobs have the same names in the same order, and each lists the same needs, in any order and any
number of times. -/
def SameNeeds (jobs others : List Job) : Prop :=
  List.Forall₂ (fun j k => k.name = j.name ∧ ∀ n, n ∈ k.needed ↔ n ∈ j.needed) jobs others

namespace SameNeeds

variable {jobs others : List Job}

theorem names_eq (same : SameNeeds jobs others) : names others = names jobs := by
  induction same with
  | nil => rfl
  | cons first _ ih => exact congrArg₂ List.cons first.1 ih

theorem known (same : SameNeeds jobs others) {known : List String}
    (all : ∀ j ∈ jobs, ∀ n ∈ j.needed, n ∈ known) : ∀ k ∈ others, ∀ n ∈ k.needed, n ∈ known := by
  induction same with
  | nil => exact all
  | cons first _ ih =>
    obtain ⟨here, later⟩ := List.forall_mem_cons.mp all
    exact List.forall_mem_cons.mpr ⟨fun n needed => here n ((first.2 n).mp needed), ih later⟩

theorem names_filter (same : SameNeeds jobs others) (n : String) :
    names (others.filter fun k => k.needed.contains n) =
      names (jobs.filter fun j => j.needed.contains n) := by
  induction same with
  | nil => rfl
  | @cons j k _ _ first _ ih =>
    by_cases needed : n ∈ j.needed
    · simpa [names, needed, (first.2 n).mpr needed, first.1] using ih
    · simpa [names, needed, mt (first.2 n).mp needed] using ih

theorem degree_find? (same : SameNeeds jobs others) (n : String) :
    (others.find? fun k => k.name = n).map degree = (jobs.find? fun j => j.name = n).map degree := by
  induction same with
  | nil => rfl
  | @cons j k _ _ first _ ih =>
    by_cases named : j.name = n
    · simp [named, first.1, degree_congr first.2]
    · simpa [named, first.1] using ih

theorem edges_eq {g h : Graph} (same : SameNeeds g.jobs h.jobs) : h.edges = g.edges := by
  rw [Graph.edges_eq, Graph.edges_eq, same.names_eq]
  congr 1
  · funext n
    exact same.names_filter n
  · funext n
    exact congrArg (Option.getD · 0) (same.degree_find? n)

end SameNeeds

/-- Which lists of jobs make a graph. -/
theorem ofJobs_isOk_iff {jobs : List Job} : (∃ g, ofJobs jobs = .ok g) ↔
    (names jobs).Nodup ∧ ∀ j ∈ jobs, ∀ n ∈ j.needed, n ∈ names jobs := by
  constructor
  · rintro ⟨g, made⟩
    rw [← ofJobs_jobs made]
    exact ⟨g.distinct, g.known⟩
  · rintro ⟨distinct, known⟩
    exact ⟨⟨jobs, distinct, known⟩, ofJobs_eq_ok ⟨jobs, distinct, known⟩⟩

end Graph

namespace Edges

theorem ofJobs_eq_ok {jobs : List Job} {e : Edges} :
    ofJobs jobs = .ok e ↔ ∃ g, Graph.ofJobs jobs = .ok g ∧ g.edges = e := by
  rw [ofJobs]
  constructor
  · intro told
    cases made : Graph.ofJobs jobs with
    | error refusal =>
      rw [made] at told
      cases told
    | ok g =>
      rw [made] at told
      cases told
      exact ⟨g, rfl, rfl⟩
  · rintro ⟨g, made, rfl⟩
    rw [made]
    rfl

theorem ofJobs_isError_iff {jobs : List Job} : (∃ refusal, ofJobs jobs = .error refusal) ↔
    ¬ (Graph.names jobs).Nodup ∨ ∃ j ∈ jobs, ∃ n ∈ j.needed, n ∉ Graph.names jobs := by
  have refused : (∃ refusal, ofJobs jobs = .error refusal) ↔ ¬ ∃ g, Graph.ofJobs jobs = .ok g := by
    constructor
    · rintro ⟨refusal, told⟩ ⟨g, made⟩
      rw [ofJobs_eq_ok.mpr ⟨g, made, rfl⟩] at told
      cases told
    · intro unmade
      cases told : ofJobs jobs with
      | error refusal => exact ⟨refusal, rfl⟩
      | ok e =>
        obtain ⟨g, made, _⟩ := ofJobs_eq_ok.mp told
        exact absurd ⟨g, made⟩ unmade
  rw [refused, Graph.ofJobs_isOk_iff, not_and_or]
  simp only [not_forall, exists_prop]

/-- The table holds the relation of the needs and nothing else. It has a row for every job, it tells for
every job which jobs need it, and the counter of a job is the number of different jobs it lists and also
the number of rows it is entered in; how often and in which order needs are listed does not matter. There
is no table just when two jobs have one name or a need names no job. -/
theorem ofJobs_represents_needs (jobs : List Job) :
    ((∃ refusal : WorkflowError, ofJobs jobs = .error refusal) ↔
      ¬ (Graph.names jobs).Nodup ∨ ∃ j ∈ jobs, ∃ n ∈ j.needed, n ∉ Graph.names jobs) ∧
    ∀ e, ofJobs jobs = .ok e →
      e.followers.map Prod.fst = Graph.names jobs ∧
      e.degrees.map Prod.fst = Graph.names jobs ∧
      (∀ n ∈ Graph.names jobs, (e.followersOf n).Nodup ∧
        ∀ a, a ∈ e.followersOf n ↔ Graph.Needs jobs a n) ∧
      (∀ j ∈ jobs, e.degreeOf j.name = j.needed.toFinset.card ∧
        e.degreeOf j.name =
          ((Graph.names jobs).filter fun n => (e.followersOf n).contains j.name).length) ∧
      ∀ others, Graph.SameNeeds jobs others → ofJobs others = .ok e := by
  refine ⟨ofJobs_isError_iff, ?_⟩
  intro e told
  obtain ⟨g, made, rfl⟩ := ofJobs_eq_ok.mp told
  obtain rfl := Graph.ofJobs_jobs made
  have rows := Graph.edges_eq g ▸ names_tabulate
  refine ⟨rows.1, rows.2, ?_, ?_, ?_⟩
  · intro n known
    rw [Graph.followersOf_edges known]
    exact ⟨g.distinct.sublist (List.filter_sublist.map _), fun a => Graph.mem_dependents⟩
  · intro j member
    rw [Graph.degreeOf_edges member]
    exact ⟨Graph.degree_eq_card j, Graph.degree_eq_length_filter member⟩
  · intro others same
    obtain ⟨h, remade⟩ : ∃ h, Graph.ofJobs others = .ok h :=
      Graph.ofJobs_isOk_iff.mpr (by
        rw [same.names_eq]
        exact ⟨g.distinct, same.known g.known⟩)
    obtain rfl := Graph.ofJobs_jobs remade
    exact ofJobs_eq_ok.mpr ⟨h, remade, same.edges_eq⟩

/-- The release lists one of its two needs twice; listing each once, and the other way round, makes the
same table. Without the build the jobs have needs that no job has the name of. -/
theorem ofJobs_represents_needs_diamond :
    ∃ e, ofJobs Graph.diamond = .ok e ∧
      e.followersOf "build" = ["test", "lint"] ∧
      (∀ a, a ∈ ["test", "lint"] ↔ Graph.Needs Graph.diamond a "build") ∧
      e.degreeOf "release" = 2 ∧
      ofJobs ({ name := "release", needs := some ["lint", "test"] } :: Graph.diamond.tail) = .ok e ∧
      ∃ refusal, ofJobs (Graph.diamond.take 3) = .error refusal := by
  have swapped : Graph.SameNeeds Graph.diamond
      ({ name := "release", needs := some ["lint", "test"] } :: Graph.diamond.tail) := by
    refine .cons ⟨rfl, fun n => ?_⟩ (List.forall₂_same.mpr fun _ _ => ⟨rfl, fun _ => Iff.rfl⟩)
    simp only [Job.needed, Option.getD_some, List.mem_cons, List.not_mem_nil, or_false]
    tauto
  let g : Graph := ⟨Graph.diamond, by decide, by decide⟩
  have made : ofJobs Graph.diamond = .ok g.edges := ofJobs_eq_ok.mpr ⟨g, Graph.ofJobs_eq_ok g, rfl⟩
  have built : g.edges.followersOf "build" = ["test", "lint"] := by decide +kernel
  obtain ⟨_, told⟩ := ofJobs_represents_needs Graph.diamond
  obtain ⟨_, _, follows, counts, repeats⟩ := told g.edges made
  refine ⟨g.edges, made, built, ?_, ?_, ?_, ?_⟩
  · rw [← built]
    exact (follows "build" (by decide)).2
  · exact (counts _ List.mem_cons_self).1.trans (by decide)
  · exact repeats _ swapped
  · exact (ofJobs_represents_needs _).1.mpr (Or.inr (by decide))

end Edges

end LocalCI
