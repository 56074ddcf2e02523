import LocalCI.Job.Order
import LocalCI.Proofs.Job.Edges

/-! The line of jobs that wait for their turn. Placing keeps one invariant from round to round: what is
ready is exactly what has all its needs placed and is not placed itself. The counters are in step with it:
each tells how many different needs of its job are not placed, so that a job joins the line when the last
of them is. -/
namespace LocalCI

namespace Lineup

open Edges

/-- Names that differ are counted down one by one; those that stood at one join the line as they come. -/
theorem foldl_countDown {names following : List String} (value : String → Int) (ready : List String)
    (once : following.Nodup) (known : ∀ n ∈ following, n ∈ names) :
    following.foldl countDown ⟨names.map fun n => (n, value n), ready⟩ =
      ⟨names.map fun n => (n, if n ∈ following then value n - 1 else value n),
        ready ++ following.filter fun n => value n = 1⟩ := by
  induction following generalizing value ready with
  | nil => simp
  | cons name rest ih =>
    obtain ⟨fresh, once⟩ := List.nodup_cons.mp once
    obtain ⟨here, later⟩ := List.forall_mem_cons.mp known
    have joins : value name - 1 = 0 ↔ value name = 1 := by omega
    rw [List.foldl_cons, countDown]
    simp only [adjust_map, row?_map _ here, if_true, Option.some.injEq, joins]
    rw [ih _ _ once later]
    congr 1
    · refine List.map_congr_left fun n _ => ?_
      by_cases same : n = name
      · simp [same, fresh]
      · simp [same]
    · have others : rest.filter (fun n => decide ((if n = name then value n - 1 else value n) = 1)) =
          rest.filter fun n => decide (value n = 1) := by
        refine List.filter_congr fun n member => ?_
        rw [if_neg (ne_of_mem_of_not_mem member fresh)]
      by_cases one : value name = 1
      · simp [one, others]
      · simp [one, others]

end Lineup

namespace Graph

variable {g : Graph} {j : Job} {jobs ready placed : List Job}

/-- What holds of each item and the items before it, when one more item comes at the end. -/
theorem forall_split_append {α : Type} {P : List α → α → Prop} {items : List α} {last : α}
    (earlier : ∀ before item after, items = before ++ item :: after → P before item)
    (final : P items last) :
    ∀ before item after, items ++ [last] = before ++ item :: after → P before item := by
  intro before item after split
  rcases List.eq_nil_or_concat after with rfl | ⟨rest, other, rfl⟩
  · obtain ⟨rfl, same⟩ := List.append_inj' split rfl
    cases same
    exact final
  · rw [List.concat_eq_append, ← List.cons_append, ← List.append_assoc] at split
    exact earlier before item rest (List.append_inj' split rfl).1

/-- Every job comes after every job it needs. -/
def Ordered (jobs : List Job) : Prop :=
  ∀ before j after, jobs = before ++ j :: after → ∀ n ∈ j.needed, n ∈ names before

theorem Ordered.append {placed : List Job} {j : Job} (ordered : Ordered placed)
    (ready : ∀ n ∈ j.needed, n ∈ names placed) : Ordered (placed ++ [j]) :=
  forall_split_append ordered ready

/-- The state of placing between two rounds. -/
structure Placing (g : Graph) (ready placed : List Job) : Prop where
  distinct : (names (placed ++ ready)).Nodup
  within : placed ++ ready ⊆ g.jobs
  settled : ∀ j ∈ g.jobs, j ∈ placed ++ ready ↔ ∀ n ∈ j.needed, n ∈ names placed
  ordered : Ordered placed

theorem initial_placing : Placing g (g.jobs.filter fun j => j.needed.isEmpty) [] where
  distinct := g.distinct.sublist ((List.filter_sublist).map _)
  within := (List.filter_sublist).subset
  settled := by
    intro j member
    simp [member, names, List.eq_nil_iff_forall_not_mem]
  ordered := by
    intro before j after split
    simp at split

/-- The jobs that become ready when `last` is the last of `placed` to be placed. -/
def released (g : Graph) (placed : List String) (last : String) : List Job :=
  (g.dependents last).filter fun j => j.needed.all placed.contains

theorem mem_released {placed : List String} {last : String} {j : Job} :
    j ∈ g.released placed last ↔
      j ∈ g.jobs ∧ last ∈ j.needed ∧ ∀ n ∈ j.needed, n ∈ placed := by
  simp only [released, dependents, List.mem_filter, List.contains_iff_mem, List.all_eq_true,
    and_assoc]

/-- One round keeps the invariant. A job that is released waited for the job that was placed, so it
was not ready before. -/
theorem Placing.next {j : Job} {ready placed : List Job}
    (placing : Placing g (j :: ready) placed) :
    Placing g (ready ++ g.released (names (placed ++ [j])) j.name) (placed ++ [j]) := by
  obtain ⟨distinct, within, settled, ordered⟩ := placing
  have fresh := name_fresh distinct
  have here : j ∈ placed ++ j :: ready := by simp
  have shift : placed ++ [j] ++ (ready ++ g.released (names (placed ++ [j])) j.name) =
      placed ++ j :: ready ++ g.released (names (placed ++ [j])) j.name := by simp
  have waiting : ∀ k ∈ g.released (names (placed ++ [j])) j.name, k ∉ placed ++ j :: ready := by
    intro k released member
    obtain ⟨known, needed, _⟩ := mem_released.mp released
    exact fresh ((settled k known).mp member j.name needed)
  refine ⟨?_, ?_, ?_, ?_⟩
  · rw [shift, names, List.map_append, List.nodup_append]
    refine ⟨distinct, g.distinct.sublist (((List.filter_sublist).trans List.filter_sublist).map _),
      ?_⟩
    intro a placedName b releasedName same
    obtain ⟨k, member, rfl⟩ := List.mem_map.mp placedName
    obtain ⟨l, released, rfl⟩ := List.mem_map.mp releasedName
    have known := (mem_released.mp released).1
    exact waiting l released (g.name_injective (within member) known same ▸ member)
  · rw [shift]
    exact List.append_subset.mpr ⟨within, fun k released => (mem_released.mp released).1⟩
  · intro k known
    rw [shift, List.mem_append, settled k known, mem_released]
    constructor
    · rintro (before | ⟨_, _, all⟩)
      · intro n needed
        simpa [names] using Or.inl (by simpa [names] using before n needed)
      · exact all
    · intro all
      by_cases needed : j.name ∈ k.needed
      · exact Or.inr ⟨known, needed, all⟩
      · refine Or.inl fun n member => ?_
        have placedOrLast := all n member
        simp only [names, List.map_append, List.map_cons, List.map_nil, List.mem_append,
          List.mem_singleton] at placedOrLast
        rcases placedOrLast with earlier | rfl
        · exact earlier
        · exact absurd member needed
  · exact ordered.append ((settled j (within here)).mp here)

section Counters

/-- How many different needs of the named job are not placed. -/
def missing (g : Graph) (placed : List Job) (name : String) : Nat :=
  ((g.find? name).map fun j =>
    (Text.distinct j.needed).countP fun n => !(names placed).contains n).getD 0

theorem missing_name (member : j ∈ g.jobs) (placed : List Job) :
    g.missing placed j.name =
      (Text.distinct j.needed).countP fun n => !(names placed).contains n := by
  rw [missing, find?_name member]
  rfl

theorem missing_eq_zero (member : j ∈ g.jobs) (placed : List Job) :
    g.missing placed j.name = 0 ↔ ∀ n ∈ j.needed, n ∈ names placed := by
  simp [missing_name member, Text.mem_distinct]

/-- Of the texts that a list does not have, those are left that it does not have with one more. -/
theorem countP_absent {a : String} {listed : List String} (fresh : a ∉ listed) (texts : List String) :
    texts.countP (fun n => !listed.contains n) =
      texts.countP (fun n => !(listed ++ [a]).contains n) + texts.count a := by
  induction texts with
  | nil => rfl
  | cons n rest ih =>
    rw [List.countP_cons, List.countP_cons, List.count_cons, ih]
    by_cases same : n = a
    · simp [same, fresh]
      omega
    · simp [same]
      omega

/-- Placing a job leaves one need fewer to each job that has it among its needs, however often. -/
theorem missing_append (fresh : j.name ∉ names placed) {n : String} (known : n ∈ names g.jobs) :
    (g.missing (placed ++ [j]) n : Int) =
      if n ∈ names (g.dependents j.name) then (g.missing placed n : Int) - 1
      else g.missing placed n := by
  obtain ⟨k, member, rfl⟩ := mem_names.mp known
  have fewer := countP_absent fresh (Text.distinct k.needed)
  simp only [(Text.nodup_distinct k.needed).count, Text.mem_distinct] at fewer
  rw [missing_name member, missing_name member, names_concat]
  simp only [mem_dependents, g.needs_iff member]
  by_cases needed : j.name ∈ k.needed
  · rw [if_pos needed] at fewer ⊢
    omega
  · rw [if_neg needed] at fewer ⊢
    omega

/-- The line when some jobs are ready and some are placed. -/
def lineupAt (g : Graph) (ready placed : List Job) : Lineup where
  counters := (names g.jobs).map fun n => (n, (g.missing placed n : Int))
  ready := names ready

theorem missing_nil (member : j ∈ g.jobs) : g.missing [] j.name = degree j := by
  simp [missing_name member, names, degree]

theorem lineup_eq : g.lineup = g.lineupAt (g.jobs.filter fun j => j.needed.isEmpty) [] := by
  have rows : g.edges.degrees = (names g.jobs).map fun n => (n, ((g.find? n).map degree).getD 0) := by
    rw [edges_eq]
    rfl
  rw [lineup, lineupAt]
  congr 1
  · rw [rows, List.map_map]
    refine List.map_congr_left fun n known => ?_
    obtain ⟨j, member, rfl⟩ := mem_names.mp known
    simp [missing_nil member, find?_name member]
  · rw [filter_names]
    refine congrArg names (List.filter_congr fun j member => ?_)
    have empty : degree j = 0 ↔ j.needed.isEmpty = true := by
      rw [degree, List.length_eq_zero_iff, distinct_eq_nil, List.isEmpty_iff]
    rw [degreeOf_edges member]
    simp only [empty, Bool.decide_eq_true]

/-- The table has the followers of a job as they were declared. -/
theorem following_eq (member : j ∈ g.jobs) : g.following j.name = names (g.dependents j.name) := by
  rw [following, followersOf_edges (name_mem_names member)]
  refine Text.sortedBy_of_pairwise (List.pairwise_map.mpr ?_)
  exact (pairwise_position g.distinct).sublist List.filter_sublist

/-- Counting down the followers of a job is one round: those that it releases join the line. -/
theorem foldl_countDown_lineupAt (member : j ∈ g.jobs) (fresh : j.name ∉ names placed) :
    (g.following j.name).foldl Lineup.countDown (g.lineupAt ready placed) =
      g.lineupAt (ready ++ g.released (names (placed ++ [j])) j.name) (placed ++ [j]) := by
  have once : (names (g.dependents j.name)).Nodup := g.distinct.sublist (List.filter_sublist.map _)
  have known : ∀ n ∈ names (g.dependents j.name), n ∈ names g.jobs := fun n follows =>
    (List.filter_sublist.map _).subset follows
  rw [following_eq member, lineupAt, Lineup.foldl_countDown _ _ once known, lineupAt]
  congr 1
  · refine List.map_congr_left fun n listed => ?_
    rw [missing_append fresh listed]
  · rw [names_append, released, filter_names]
    refine congrArg (names ready ++ names ·) (List.filter_congr fun k follows => ?_)
    have here := List.filter_sublist.subset follows
    have named : k.name ∈ names (g.dependents j.name) := name_mem_names follows
    have left := missing_append (g := g) fresh (name_mem_names here)
    rw [if_pos named] at left
    have last : (g.missing placed k.name : Int) = 1 ↔
        (k.needed.all (names (placed ++ [j])).contains) = true := by
      simp only [List.all_eq_true, List.contains_iff_mem]
      rw [← missing_eq_zero here]
      omega
    simp only [last, Bool.decide_eq_true]

/-- What is kept from round to round holds of the jobs that are placed in the end. -/
theorem place_lineupAt {P : List Job → List Job → Prop}
    (next : ∀ j ready placed, Placing g (j :: ready) placed → P (j :: ready) placed →
      P (ready ++ g.released (names (placed ++ [j])) j.name) (placed ++ [j]))
    (placing : Placing g ready placed) (start : P ready placed) :
    ∃ last, (g.lineupAt ready placed).place g.following (names placed) = (g.lineupAt [] last, names last) ∧
      Placing g [] last ∧ P [] last := by
  generalize line : g.lineupAt ready placed = l
  generalize done : names placed = order
  fun_induction Lineup.place g.following l order generalizing ready placed with
  | case1 counters order =>
    obtain ⟨_, none⟩ := Lineup.mk.inj line
    obtain rfl : ready = [] := List.map_eq_nil_iff.mp none
    exact ⟨placed, by rw [line, done], placing, start⟩
  | case2 counters name rest order ih =>
    obtain ⟨same, some⟩ := Lineup.mk.inj line
    obtain ⟨j, ready, rfl, rfl, rfl⟩ := List.map_eq_cons_iff.mp some
    have here : j ∈ g.jobs := placing.within (by simp)
    refine ih placing.next (next j ready placed placing start) ?_ ?_
    · rw [← foldl_countDown_lineupAt here (name_fresh placing.distinct), lineupAt, same]
      rfl
    · rw [names_concat, done]

theorem filterMap_find? (within : jobs ⊆ g.jobs) : (names jobs).filterMap g.find? = jobs := by
  induction jobs with
  | nil => rfl
  | cons j rest ih =>
    obtain ⟨here, later⟩ := List.cons_subset.mp within
    rw [names, List.map_cons, List.filterMap_cons_some (find?_name here)]
    exact congrArg (j :: ·) (ih later)

theorem place_placed {P : List Job → List Job → Prop}
    (start : P (g.jobs.filter fun j => j.needed.isEmpty) [])
    (next : ∀ j ready placed, Placing g (j :: ready) placed → P (j :: ready) placed →
      P (ready ++ g.released (names (placed ++ [j])) j.name) (placed ++ [j])) :
    g.lineup.place g.following [] = (g.lineupAt [] g.placed, names g.placed) ∧
      Placing g [] g.placed ∧ P [] g.placed := by
  obtain ⟨last, ends, placing, holds⟩ := place_lineupAt next initial_placing start
  rw [← lineup_eq] at ends
  have same : g.placed = last := by
    rw [placed, show g.lineup.place g.following [] = _ from ends]
    exact filterMap_find? (by simpa using placing.within)
  rw [same]
  exact ⟨ends, placing, holds⟩

/-- What holds at first and is kept from round to round holds of the jobs that are placed. -/
theorem placed_induction {P : List Job → List Job → Prop}
    (start : P (g.jobs.filter fun j => j.needed.isEmpty) [])
    (next : ∀ j ready placed, Placing g (j :: ready) placed → P (j :: ready) placed →
      P (ready ++ g.released (names (placed ++ [j])) j.name) (placed ++ [j])) : P [] g.placed :=
  (place_placed start next).2.2

theorem placed_placing : Placing g [] g.placed :=
  placed_induction initial_placing fun _ _ _ placing _ => placing.next

/-- In the end the counters tell what is missing to each job. -/
theorem place_eq : g.lineup.place g.following [] = (g.lineupAt [] g.placed, names g.placed) :=
  (place_placed (P := fun _ _ => True) trivial fun _ _ _ _ _ => trivial).1

/-- A job is placed just when all its needs are. -/
theorem mem_placed_iff {j : Job} (member : j ∈ g.jobs) :
    j ∈ g.placed ↔ ∀ n ∈ j.needed, n ∈ names g.placed := by
  simpa using placed_placing.settled j member

theorem placed_subset : g.placed ⊆ g.jobs := by
  simpa using placed_placing.within

theorem placed_distinct : (names g.placed).Nodup := by
  simpa using placed_placing.distinct

theorem placed_ordered : Ordered g.placed := placed_placing.ordered

theorem stuck_eq : g.stuck = (names g.jobs).filter fun n => 0 < g.missing g.placed n := by
  rw [stuck, place_eq, Lineup.waiting, lineupAt, List.filter_map, List.map_map]
  simp [Function.comp_def]

/-- The counters that stay above zero are those of the jobs that are not placed: a job that has all its
needs placed is placed itself. -/
theorem mem_stuck {a : String} : a ∈ g.stuck ↔ a ∈ names g.jobs ∧ a ∉ names g.placed := by
  rw [stuck_eq, List.mem_filter, decide_eq_true_eq]
  refine and_congr_right fun known => ?_
  obtain ⟨j, member, rfl⟩ := mem_names.mp known
  have listed : j.name ∈ names g.placed ↔ j ∈ g.placed := by
    constructor
    · intro named
      obtain ⟨k, there, same⟩ := mem_names.mp named
      exact g.name_injective (placed_subset there) member same ▸ there
    · exact name_mem_names
  rw [listed, mem_placed_iff member, ← missing_eq_zero member, Nat.pos_iff_ne_zero]

end Counters

end Graph
end LocalCI
