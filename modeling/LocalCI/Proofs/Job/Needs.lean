import LocalCI.Job.Graph
import Mathlib.Data.List.Chain
import Mathlib.Data.List.Nodup
import Mathlib.Logic.Relation

/-! Which jobs need which, directly, along a chain or in a ring, and which lists of jobs make a graph. -/
namespace LocalCI

/-- Among items with different keys the key finds its item. -/
theorem find?_of_distinct {α : Type} {key : α → String} {items : List α} {a : α}
    (distinct : (items.map key).Nodup) (member : a ∈ items) :
    items.find? (fun b => key b = key a) = some a := by
  cases found : items.find? fun b => key b = key a with
  | none => simpa using List.find?_eq_none.mp found a member
  | some b =>
    have same : key b = key a := by simpa using List.find?_some found
    rw [List.inj_on_of_nodup_map distinct (List.mem_of_find?_eq_some found) member same]

namespace Graph

variable {jobs : List Job}

/-- The job called `a` lists `b` among its needs. -/
def Needs (jobs : List Job) (a b : String) : Prop := ∃ j ∈ jobs, j.name = a ∧ b ∈ j.needed

/-- No job needs itself, directly or through others. -/
def Acyclic (jobs : List Job) : Prop := ∀ name, ¬ Relation.TransGen (Needs jobs) name name

/-- A chain of jobs leads from `a` to `b`, and each of them needs the next one. -/
def Awaits (jobs : List Job) (a b : String) : Prop :=
  ∃ between : List String, (a :: between ++ [b]).IsChain (Needs jobs)

/-- The job is one of a ring of jobs, each of which needs the next one, and the last the first. -/
def OnCycle (jobs : List Job) (a : String) : Prop :=
  ∃ first rest, a ∈ first :: rest ∧ (first :: rest ++ [first]).IsChain (Needs jobs)

theorem awaits_iff {a b : String} : Awaits jobs a b ↔ Relation.TransGen (Needs jobs) a b := by
  constructor
  · rintro ⟨between, chain⟩
    induction between generalizing a with
    | nil => exact .single (by simpa using chain)
    | cons c between ih =>
      obtain ⟨needs, chain⟩ := List.isChain_cons_cons.mp chain
      exact (ih chain).head needs
  · intro needs
    induction needs using Relation.TransGen.head_induction_on with
    | single needs => exact ⟨[], by simpa using needs⟩
    | head needs _ ih =>
      obtain ⟨between, chain⟩ := ih
      exact ⟨_ :: between, List.isChain_cons_cons.mpr ⟨needs, chain⟩⟩

/-- A ring can be entered at each of its jobs: on from the job to the first, and from there back. -/
theorem onCycle_iff {a : String} : OnCycle jobs a ↔ Relation.TransGen (Needs jobs) a a := by
  constructor
  · rintro ⟨first, rest, member, chain⟩
    obtain ⟨before, after, split⟩ := List.append_of_mem member
    rw [split, List.append_assoc, List.cons_append, List.isChain_split] at chain
    obtain ⟨back, on⟩ := chain
    have forward := awaits_iff.mp ⟨after, on⟩
    cases before with
    | nil =>
      obtain ⟨rfl, _⟩ := List.cons.inj split
      exact forward
    | cons other before =>
      obtain ⟨rfl, _⟩ := List.cons.inj split
      exact forward.trans (awaits_iff.mp ⟨before, back⟩)
  · intro cycle
    obtain ⟨between, chain⟩ := awaits_iff.mpr cycle
    exact ⟨a, between, List.mem_cons_self, chain⟩

theorem mem_names {name : String} : name ∈ names jobs ↔ ∃ j ∈ jobs, j.name = name :=
  List.mem_map

theorem names_append (first second : List Job) : names (first ++ second) = names first ++ names second :=
  List.map_append

theorem names_concat (jobs : List Job) (j : Job) : names (jobs ++ [j]) = names jobs ++ [j.name] :=
  names_append jobs [j]

theorem filter_names (jobs : List Job) (keep : String → Bool) :
    (names jobs).filter keep = names (jobs.filter fun j => keep j.name) :=
  List.filter_map

theorem name_mem_names {j : Job} (member : j ∈ jobs) : j.name ∈ names jobs :=
  mem_names.mpr ⟨j, member, rfl⟩

theorem name_injective (g : Graph) {j k : Job} (first : j ∈ g.jobs) (second : k ∈ g.jobs)
    (same : j.name = k.name) : j = k :=
  List.inj_on_of_nodup_map g.distinct first second same

theorem find?_name {g : Graph} {j : Job} (member : j ∈ g.jobs) : g.find? j.name = some j :=
  find?_of_distinct g.distinct member

/-- Where names differ, a job does not stand before itself. -/
theorem name_fresh {before after : List Job} {j : Job}
    (distinct : (names (before ++ j :: after)).Nodup) : j.name ∉ names before := by
  simp only [names, List.map_append, List.map_cons, List.nodup_append] at distinct
  intro member
  exact distinct.2.2 j.name member j.name (by simp) rfl

/-- A list with different names has its jobs at increasing places. -/
theorem pairwise_position (distinct : (names jobs).Nodup) :
    jobs.Pairwise fun u v => position jobs u.name < position jobs v.name := by
  rw [List.pairwise_iff_getElem]
  intro i k iBound kBound less
  have place (n : Nat) (bound : n < jobs.length) : position jobs jobs[n].name = n := by
    have found := distinct.idxOf_getElem n (by simpa [names] using bound)
    simpa [position, names] using found
  rw [place i iBound, place k kBound]
  exact less

theorem needs_iff (g : Graph) {j : Job} (member : j ∈ g.jobs) {n : String} :
    Needs g.jobs j.name n ↔ n ∈ j.needed := by
  constructor
  · rintro ⟨k, other, same, needed⟩
    rwa [← g.name_injective other member same]
  · intro needed
    exact ⟨j, member, rfl, needed⟩

theorem mem_dependents {g : Graph} {name a : String} :
    a ∈ names (g.dependents name) ↔ Needs g.jobs a name := by
  simp only [names, dependents, Needs, List.mem_map, List.mem_filter, List.contains_iff_mem]
  constructor
  · rintro ⟨j, ⟨member, needed⟩, same⟩
    exact ⟨j, member, same, needed⟩
  · rintro ⟨j, member, same, needed⟩
    exact ⟨j, ⟨member, needed⟩, same⟩

theorem ofJobs_jobs {g : Graph} (made : ofJobs jobs = .ok g) : g.jobs = jobs := by
  unfold ofJobs at made
  split at made
  next unique =>
    split at made
    next => cases made
    next =>
      cases made
      rfl
  next => cases made

/-- Jobs that can make a graph do. -/
theorem ofJobs_eq_ok (g : Graph) : ofJobs g.jobs = .ok g := by
  unfold ofJobs
  rw [dif_pos (repeated_eq_nil.mpr g.distinct)]
  split
  next job need found =>
    rw [unknownNeed?_eq_none.mpr g.known] at found
    cases found
  next => rfl

/-- Two ways lead from the release to the build; one need is given twice. -/
def diamond : List Job := [
  { name := "release", needs := some ["test", "lint", "test"] },
  { name := "test", needs := some ["build"] },
  { name := "lint", needs := some ["build"] },
  { name := "build", needs := none }]

/-- Two jobs need each other, one needs itself, the release waits for the two, and lint for nothing. -/
def knot : Graph where
  jobs := [
    { name := "release", needs := some ["test", "lint"] },
    { name := "test", needs := some ["build"] },
    { name := "lint", needs := none },
    { name := "build", needs := some ["test", "lint"] },
    { name := "audit", needs := some ["audit"] }]
  distinct := by decide
  known := by decide

end Graph
end LocalCI
