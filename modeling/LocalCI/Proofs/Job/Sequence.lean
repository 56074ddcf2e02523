import LocalCI.Proofs.Job.Order
import Mathlib.Data.Prod.Lex
import Mathlib.Order.Lattice.Nat

/-! The exact order of jobs. What waits to be placed is a queue, so a job stands where the last of its
needs puts it, and jobs that the same need puts there stand as they were declared. It follows that no
job stands before one with a shorter chain of needs below it. -/
namespace LocalCI.Graph

variable {g : Graph} {jobs ordered placed ready : List Job} {j u v : Job}

/-- The place of the last of its needs; one before the first place for a job without needs. -/
def lastNeed (ordered : List Job) (j : Job) : Int :=
  ((j.needed.map (position ordered)).max?.map Int.ofNat).getD (-1)

/-- What decides between two jobs: their last needs, then how they were declared. -/
def rank (jobs ordered : List Job) (j : Job) : Int ×ₗ Nat :=
  toLex (lastNeed ordered j, position jobs j.name)

theorem rank_lt_rank :
    rank jobs ordered u < rank jobs ordered v ↔
      lastNeed ordered u < lastNeed ordered v ∨
      lastNeed ordered u = lastNeed ordered v ∧ position jobs u.name < position jobs v.name :=
  Prod.Lex.toLex_lt_toLex

section Position

theorem position_lt_length {name : String} (known : name ∈ names jobs) :
    position jobs name < jobs.length := by
  simpa [position, names] using List.idxOf_lt_length_iff.mpr known

theorem position_append {name : String} (known : name ∈ names placed) (more : List Job) :
    position (placed ++ more) name = position placed name := by
  simp only [position, names, List.map_append]
  exact List.idxOf_append_of_mem known

theorem position_middle (fresh : j.name ∉ names placed) (after : List Job) :
    position (placed ++ j :: after) j.name = placed.length := by
  have found : ((names placed) ++ j.name :: names after).idxOf j.name = (names placed).length := by
    rw [List.idxOf_append_of_notMem fresh, List.idxOf_cons_self, Nat.add_zero]
  simpa [position, names] using found

end Position

section LastNeed

theorem lastNeed_of_needless (needless : j.needed = []) : lastNeed ordered j = -1 := by
  simp [lastNeed, needless]

/-- The place of a need that comes no earlier than any other. -/
theorem exists_lastNeed (ordered : List Job) (needy : j.needed ≠ []) :
    ∃ n ∈ j.needed, lastNeed ordered j = position ordered n ∧
      ∀ k ∈ j.needed, position ordered k ≤ position ordered n := by
  cases found : (j.needed.map (position ordered)).max? with
  | none =>
    rw [List.max?_eq_none_iff, List.map_eq_nil_iff] at found
    exact absurd found needy
  | some last =>
    obtain ⟨member, bound⟩ := List.max?_eq_some_iff.mp found
    obtain ⟨n, needed, rfl⟩ := List.mem_map.mp member
    refine ⟨n, needed, by simp [lastNeed, found], ?_⟩
    intro k other
    exact bound _ (List.mem_map_of_mem other)

theorem position_le_lastNeed (ordered : List Job) {n : String} (needed : n ∈ j.needed) :
    (position ordered n : Int) ≤ lastNeed ordered j := by
  obtain ⟨k, _, last, bound⟩ := exists_lastNeed ordered (List.ne_nil_of_mem needed)
  have := bound n needed
  omega

theorem lastNeed_lt_length (known : ∀ n ∈ j.needed, n ∈ names ordered) :
    lastNeed ordered j < ordered.length := by
  by_cases needless : j.needed = []
  · rw [lastNeed_of_needless needless]
    omega
  · obtain ⟨n, needed, last, _⟩ := exists_lastNeed ordered needless
    have := position_lt_length (known n needed)
    omega

/-- Only which jobs are needed counts, not how they are listed. -/
theorem lastNeed_congr (same : ∀ n, n ∈ u.needed ↔ n ∈ v.needed) :
    lastNeed ordered u = lastNeed ordered v := by
  by_cases needless : u.needed = []
  · have other : v.needed = [] := by
      apply List.eq_nil_iff_forall_not_mem.mpr
      intro n needed
      simpa [needless] using (same n).mpr needed
    rw [lastNeed_of_needless needless, lastNeed_of_needless other]
  · obtain ⟨n, needed, last, _⟩ := exists_lastNeed ordered needless
    obtain ⟨k, other, lastOther, _⟩ :=
      exists_lastNeed ordered (List.ne_nil_of_mem ((same n).mp needed))
    have := position_le_lastNeed ordered ((same n).mp needed)
    have := position_le_lastNeed ordered ((same k).mpr other)
    omega

/-- Placing more jobs does not move a job that has all its needs. -/
theorem lastNeed_append (known : ∀ n ∈ j.needed, n ∈ names placed) (more : List Job) :
    lastNeed (placed ++ more) j = lastNeed placed j := by
  have places : j.needed.map (position (placed ++ more)) = j.needed.map (position placed) := by
    apply List.map_congr_left
    intro n needed
    exact position_append (known n needed) more
  rw [lastNeed, lastNeed, places]

end LastNeed

section Queue

/-- What is placed and what waits are together in order of rank. -/
def Ranked (g : Graph) (ready placed : List Job) : Prop :=
  (placed ++ ready).Pairwise fun u v => rank g.jobs placed u < rank g.jobs placed v

/-- Jobs that are released by the same job come as they were declared. -/
theorem pairwise_released (names : List String) (last : String) :
    (g.released names last).Pairwise fun u v =>
      position g.jobs u.name < position g.jobs v.name :=
  (pairwise_position g.distinct).sublist (List.filter_sublist.trans List.filter_sublist)

/-- A job is released by the last of its needs. -/
theorem lastNeed_released (fresh : j.name ∉ names placed)
    (released : u ∈ g.released (names (placed ++ [j])) j.name) :
    lastNeed (placed ++ [j]) u = placed.length := by
  obtain ⟨_, needed, known⟩ := mem_released.mp released
  have lower := position_le_lastNeed (placed ++ [j]) needed
  have upper := lastNeed_lt_length known
  rw [position_middle fresh] at lower
  rw [List.length_append, List.length_singleton] at upper
  omega

theorem initial_ranked : Ranked g (g.jobs.filter fun j => j.needed.isEmpty) [] := by
  have declared := (pairwise_position g.distinct).sublist
    (List.filter_sublist (p := fun j : Job => j.needed.isEmpty))
  refine declared.imp_of_mem fun {u v} first second less => ?_
  have needless {k : Job} (member : k ∈ g.jobs.filter fun j => j.needed.isEmpty) :
      lastNeed [] k = -1 :=
    lastNeed_of_needless (by simpa using (List.mem_filter.mp member).2)
  rw [rank_lt_rank, needless first, needless second]
  exact Or.inr ⟨rfl, less⟩

/-- One round keeps the order of rank: the job that is placed was the first that waited, and what it
releases goes to the end. -/
theorem Ranked.next (placing : Placing g (j :: ready) placed) (ranked : Ranked g (j :: ready) placed) :
    Ranked g (ready ++ g.released (names (placed ++ [j])) j.name) (placed ++ [j]) := by
  have fresh := name_fresh placing.distinct
  have known {k : Job} (member : k ∈ placed ++ j :: ready) : ∀ n ∈ k.needed, n ∈ names placed :=
    (placing.settled k (placing.within member)).mp member
  have shift : placed ++ [j] ++ (ready ++ g.released (names (placed ++ [j])) j.name) =
      placed ++ j :: ready ++ g.released (names (placed ++ [j])) j.name := by simp
  rw [Ranked, shift, List.pairwise_append]
  refine ⟨?_, ?_, ?_⟩
  · refine ranked.imp_of_mem fun {u v} first second less => ?_
    rw [rank_lt_rank] at less ⊢
    rwa [lastNeed_append (known first), lastNeed_append (known second)]
  · refine (pairwise_released _ _).imp_of_mem fun {u v} first second less => ?_
    rw [rank_lt_rank, lastNeed_released fresh first, lastNeed_released fresh second]
    exact Or.inr ⟨rfl, less⟩
  · intro u earlier v released
    rw [rank_lt_rank, lastNeed_released fresh released, lastNeed_append (known earlier)]
    exact Or.inl (lastNeed_lt_length (known earlier))

theorem placed_ranked :
    g.placed.Pairwise fun u v => rank g.jobs g.placed u < rank g.jobs g.placed v := by
  have ranked : Ranked g [] g.placed :=
    placed_induction initial_ranked fun _ _ _ placing ranked => ranked.next placing
  rwa [Ranked, List.append_nil] at ranked

/-- The order is that of the ranks. -/
theorem position_lt_iff_rank_lt (first : u ∈ g.placed) (second : v ∈ g.placed) :
    position g.placed u.name < position g.placed v.name ↔
      rank g.jobs g.placed u < rank g.jobs g.placed v := by
  have places := List.pairwise_iff_getElem.mp (pairwise_position (placed_distinct (g := g)))
  have ranks := List.pairwise_iff_getElem.mp (placed_ranked (g := g))
  obtain ⟨i, iBound, rfl⟩ := List.getElem_of_mem first
  obtain ⟨k, kBound, rfl⟩ := List.getElem_of_mem second
  rcases lt_trichotomy i k with less | rfl | greater
  · exact iff_of_true (places i k iBound kBound less) (ranks i k iBound kBound less)
  · exact iff_of_false (lt_irrefl _) (lt_irrefl _)
  · exact iff_of_false (places k i kBound iBound greater).not_gt (ranks k i kBound iBound greater).not_gt

theorem lastNeed_mono (first : u ∈ g.placed) (second : v ∈ g.placed)
    (before : position g.placed u.name ≤ position g.placed v.name) :
    lastNeed g.placed u ≤ lastNeed g.placed v := by
  by_contra later
  have less : rank g.jobs g.placed v < rank g.jobs g.placed u :=
    rank_lt_rank.mpr (Or.inl (not_le.mp later))
  have := (position_lt_iff_rank_lt second first).mpr less
  omega

end Queue

section Depth

/-- The lengths of the chains of needs that lead down from a job. -/
def chainLengths (jobs : List Job) (name : String) : Set Nat :=
  {n | ∃ path : List String, path.length = n ∧ (name :: path).IsChain (Needs jobs)}

/-- The length of the longest chain of needs below a job. -/
noncomputable def depth (jobs : List Job) (name : String) : Nat := sSup (chainLengths jobs name)

theorem zero_mem_chainLengths (name : String) : 0 ∈ chainLengths jobs name :=
  ⟨[], rfl, List.isChain_singleton name⟩

theorem succ_mem_chainLengths {name below : String} {n : Nat} (needs : Needs jobs name below)
    (chain : n ∈ chainLengths jobs below) : n + 1 ∈ chainLengths jobs name := by
  obtain ⟨path, rfl, chain⟩ := chain
  exact ⟨below :: path, rfl, List.isChain_cons_cons.mpr ⟨needs, chain⟩⟩

theorem Ordered.position_lt (sequence : Ordered jobs) (distinct : (names jobs).Nodup)
    (member : j ∈ jobs) {n : String} (needed : n ∈ j.needed) :
    position jobs n < position jobs j.name := by
  obtain ⟨before, after, rfl⟩ := List.append_of_mem member
  have earlier : n ∈ names before := sequence before j after rfl n needed
  rw [position_append earlier, position_middle (name_fresh distinct)]
  exact position_lt_length earlier

variable (complete : names g.jobs ⊆ names g.placed)

include complete

theorem position_lt_of_needs {a b : String} (needs : Needs g.jobs a b) :
    position g.placed b < position g.placed a := by
  obtain ⟨j, member, rfl, needed⟩ := needs
  have here : j ∈ g.placed := (mem_placed_of_names_subset complete).mpr member
  exact placed_ordered.position_lt placed_distinct here needed

/-- Each need of a chain stands before the job that has it, so that a chain is no longer than the jobs
before its first are many. -/
theorem chain_le_position {name : String} {n : Nat} (chain : n ∈ chainLengths g.jobs name) :
    n ≤ position g.placed name := by
  obtain ⟨path, rfl, chain⟩ := chain
  induction path generalizing name with
  | nil => exact Nat.zero_le _
  | cons below rest ih =>
    obtain ⟨needs, chain⟩ := List.isChain_cons_cons.mp chain
    have := ih chain
    have := position_lt_of_needs complete needs
    simp only [List.length_cons]
    omega

theorem isGreatest_depth (name : String) :
    IsGreatest (chainLengths g.jobs name) (depth g.jobs name) := by
  have bounded : BddAbove (chainLengths g.jobs name) :=
    ⟨position g.placed name, fun _ chain => chain_le_position complete chain⟩
  constructor
  · exact Nat.sSup_mem ⟨0, zero_mem_chainLengths name⟩ bounded
  · intro n chain
    exact le_csSup bounded chain

/-- A job that stands later has a chain below it that is as long. The induction is on its place: the
chain goes on below the last of its needs, which stands no earlier than the needs of the other job. -/
theorem exists_chain_of_le {a b : String} (first : a ∈ names g.jobs) (second : b ∈ names g.jobs)
    (before : position g.placed a ≤ position g.placed b) {n : Nat}
    (chain : n ∈ chainLengths g.jobs a) : ∃ m ∈ chainLengths g.jobs b, n ≤ m := by
  induction place : position g.placed b using Nat.strong_induction_on generalizing a b n with
  | _ place ih =>
    obtain ⟨path, rfl, linked⟩ := chain
    cases path with
    | nil => exact ⟨0, zero_mem_chainLengths b, le_rfl⟩
    | cons below rest =>
      obtain ⟨needs, following⟩ := List.isChain_cons_cons.mp linked
      obtain ⟨u, uMember, rfl⟩ := mem_names.mp first
      obtain ⟨v, vMember, rfl⟩ := mem_names.mp second
      have needed := (g.needs_iff uMember).mp needs
      have uPlaced := (mem_placed_of_names_subset complete).mpr uMember
      have vPlaced := (mem_placed_of_names_subset complete).mpr vMember
      have lower := position_le_lastNeed g.placed needed
      have upper := lastNeed_mono uPlaced vPlaced before
      have needy : v.needed ≠ [] := by
        intro needless
        rw [lastNeed_of_needless needless] at upper
        omega
      obtain ⟨last, lastNeeded, found, _⟩ := exists_lastNeed g.placed needy
      have lastNeeds := (g.needs_iff vMember).mpr lastNeeded
      have earlier := position_lt_of_needs complete lastNeeds
      obtain ⟨m, longer, le⟩ := ih (position g.placed last) (by omega)
        (g.known u uMember below needed) (g.known v vMember last lastNeeded) (by omega)
        ⟨rest, rfl, following⟩ rfl
      refine ⟨m + 1, succ_mem_chainLengths lastNeeds longer, ?_⟩
      simp only [List.length_cons]
      omega

theorem pairwise_depth :
    g.placed.Pairwise fun u v => depth g.jobs u.name ≤ depth g.jobs v.name := by
  refine (pairwise_position placed_distinct).imp_of_mem fun {u v} first second less => ?_
  have longest := (isGreatest_depth complete u.name).1
  obtain ⟨m, chain, le⟩ := exists_chain_of_le complete (name_mem_names (placed_subset first))
    (name_mem_names (placed_subset second)) less.le longest
  exact le.trans ((isGreatest_depth complete v.name).2 chain)

end Depth

/-- Without needs the order is that of declaration. -/
theorem placed_of_needless (complete : names g.jobs ⊆ names g.placed)
    (needless : ∀ j ∈ g.jobs, j.needed = []) : g.placed = g.jobs := by
  have declared : g.placed.Pairwise fun u v => position g.jobs u.name < position g.jobs v.name := by
    refine placed_ranked.imp_of_mem fun {u v} first second less => ?_
    rw [rank_lt_rank, lastNeed_of_needless (needless u (placed_subset first)),
      lastNeed_of_needless (needless v (placed_subset second))] at less
    simpa using less
  refine List.Perm.eq_of_pairwise ?_ declared (pairwise_position g.distinct) (placed_perm complete)
  intro u v _ _ less greater
  exact absurd less greater.not_gt

/-- The order of jobs is that of their ranks: first the place of the last need, then the declaration.
So jobs with the same needs keep their order, jobs without needs run as declared, and chains of needs
do not get shorter on the way. -/
theorem runOrder_ranks {jobs ordered : List Job} (accepted : runOrder jobs = .ok ordered) :
    ordered.Perm jobs ∧
    (∀ u ∈ ordered, ∀ v ∈ ordered,
      (position ordered u.name < position ordered v.name ↔
        toLex (lastNeed ordered u, position jobs u.name) <
          toLex (lastNeed ordered v, position jobs v.name))) ∧
    (∀ u ∈ ordered, ∀ v ∈ ordered, (∀ n, n ∈ u.needed ↔ n ∈ v.needed) →
      (position ordered u.name < position ordered v.name ↔
        position jobs u.name < position jobs v.name)) ∧
    ((∀ j ∈ jobs, j.needed = []) → ordered = jobs) ∧
    (∀ j ∈ ordered, IsGreatest (chainLengths jobs j.name) (depth jobs j.name)) ∧
    ordered.Pairwise fun u v => depth jobs u.name ≤ depth jobs v.name := by
  obtain ⟨g, made, placed⟩ := runOrder_eq_ok.mp accepted
  obtain rfl := ofJobs_jobs made
  obtain ⟨complete, rfl⟩ := order_eq_ok.mp placed
  refine ⟨placed_perm complete, ?_, ?_, placed_of_needless complete, ?_, pairwise_depth complete⟩
  · intro u first v second
    exact position_lt_iff_rank_lt first second
  · intro u first v second same
    rw [position_lt_iff_rank_lt first second, rank_lt_rank, lastNeed_congr same]
    simp
  · intro j _
    exact isGreatest_depth complete j.name

def lintJob : Job := { name := "lint" }

def buildJob : Job := { name := "build", needs := none }

def testJob : Job := { name := "test", needs := some ["lint", "lint"] }

def docsJob : Job := { name := "docs", needs := some ["build"] }

def releaseJob : Job := { name := "release", needs := some ["docs", "test"] }

/-- The tests are declared after the documents and run before them, since what they wait for is placed
first. -/
theorem runOrder_ranks_release :
    let jobs := [releaseJob, docsJob, lintJob, buildJob, testJob]
    let ordered := [lintJob, buildJob, testJob, docsJob, releaseJob]
    runOrder jobs = .ok ordered ∧ ordered.Perm jobs ∧
    position jobs docsJob.name < position jobs testJob.name ∧
    toLex (lastNeed ordered testJob, position jobs testJob.name) <
      toLex (lastNeed ordered docsJob, position jobs docsJob.name) ∧
    depth jobs docsJob.name ≤ depth jobs releaseJob.name := by
  intro jobs ordered
  let g : Graph := ⟨jobs, by decide, by decide⟩
  have names : (g.lineup.place g.following []).2 = ["lint", "build", "test", "docs", "release"] := by
    decide +kernel
  have placed : g.placed = ordered := by
    rw [Graph.placed, names]
    rfl
  have accepted : runOrder jobs = .ok ordered := by
    refine runOrder_eq_ok.mpr ⟨g, ofJobs_eq_ok g, order_eq_ok.mpr ⟨?_, placed.symm⟩⟩
    rw [placed]
    decide
  obtain ⟨perm, ranks, _, _, _, depths⟩ := runOrder_ranks accepted
  refine ⟨accepted, perm, by decide, ?_, ?_⟩
  · exact (ranks testJob (by simp [ordered]) docsJob (by simp [ordered])).mp (by decide)
  · simp only [ordered, List.pairwise_cons] at depths
    exact depths.2.2.2.1 releaseJob (by simp)

end LocalCI.Graph
