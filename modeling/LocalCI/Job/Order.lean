import LocalCI.Job.Edges

/-! The order in which jobs run, and the jobs that wait for a job. Jobs stand in a line while they wait
for their turn. A counter tells how many needs of a job are not placed yet, and the job joins the line
when it reaches zero: so a job runs after every job it needs, among jobs that are ready the one that
became ready first runs first, and of those that become ready together the one declared first. -/
namespace LocalCI

/-- The jobs whose turn it is, and for every job how many of its needs are not placed yet. -/
structure Lineup where
  counters : List (String × Int)
  ready : List String
deriving DecidableEq, Repr

namespace Lineup

/-- One need of a job is placed; a job that waits for nothing more joins the line. -/
def countDown (l : Lineup) (name : String) : Lineup :=
  let counters := Edges.adjust name (· - 1) l.counters
  ⟨counters, if Edges.row? name counters = some 0 then l.ready ++ [name] else l.ready⟩

/-- The names of the jobs that wait for a need, in order of declaration. -/
def waiting (l : Lineup) : List String := (l.counters.filter fun row => 0 < row.2).map Prod.fst

section Length

variable {name : String} {rows : List (String × Int)}

/-- How many counters are above zero. -/
def above (rows : List (String × Int)) : Nat := rows.countP fun row => 0 < row.2

theorem above_adjust_le (name : String) (rows : List (String × Int)) :
    above (Edges.adjust name (· - 1) rows) ≤ above rows := by
  induction rows with
  | nil => exact Nat.le_refl 0
  | cons row rest ih =>
    simp only [above, Edges.adjust, List.map_cons, List.countP_cons] at ih ⊢
    grind

/-- A counter that reaches zero was above zero before. -/
theorem above_adjust_lt (zero : Edges.row? name (Edges.adjust name (· - 1) rows) = some 0) :
    above (Edges.adjust name (· - 1) rows) < above rows := by
  induction rows with
  | nil => simp [Edges.row?, Edges.adjust] at zero
  | cons row rest ih =>
    have rest_le := above_adjust_le name rest
    simp only [above, Edges.adjust, Edges.row?, List.map_cons, List.countP_cons, List.find?_cons]
      at zero ih rest_le ⊢
    grind

/-- The line and the jobs that can still join it. -/
def length (l : Lineup) : Nat := l.ready.length + above l.counters

theorem length_countDown_le (l : Lineup) (name : String) : (l.countDown name).length ≤ l.length := by
  have fewer := above_adjust_le name l.counters
  by_cases zero : Edges.row? name (Edges.adjust name (· - 1) l.counters) = some 0
  · have joins := above_adjust_lt zero
    simp only [countDown, length, if_pos zero, List.length_append, List.length_singleton]
    omega
  · simp only [countDown, length, if_neg zero]
    omega

theorem length_foldl_countDown_le (names : List String) (l : Lineup) :
    (names.foldl countDown l).length ≤ l.length := by
  induction names generalizing l with
  | nil => exact Nat.le_refl _
  | cons name rest ih => exact Nat.le_trans (ih (l.countDown name)) (l.length_countDown_le name)

end Length

/-- Places the first of the line and counts down the jobs that follow it, until the line is empty. -/
def place (following : String → List String) : Lineup → List String → Lineup × List String
  | ⟨counters, []⟩, placed => (⟨counters, []⟩, placed)
  | ⟨counters, name :: ready⟩, placed =>
    place following ((following name).foldl countDown ⟨counters, ready⟩) (placed ++ [name])
termination_by l => l.length
decreasing_by
  exact Nat.lt_of_le_of_lt (length_foldl_countDown_le _ _) (by simp only [length, List.length_cons]; omega)

end Lineup

namespace Edges

/-- The rows that are not seen yet hold so many followers. -/
def unseen (e : Edges) (seen : List String) : Nat :=
  ((e.followers.filter fun row => !seen.contains row.1).flatMap Prod.snd).length

theorem unseen_append (e : Edges) {name : String} {seen : List String} (new : ¬ seen.contains name) :
    (e.followersOf name).length + e.unseen (seen ++ [name]) ≤ e.unseen seen := by
  unfold followersOf unseen row?
  induction e.followers with
  | nil => exact Nat.le_refl 0
  | cons row rest ih =>
    simp only [List.find?_cons, List.filter_cons]
    grind

/-- Takes names from a stack; a name that was not seen before puts its followers there. -/
def reach (e : Edges) : List String → List String → List String
  | [], seen => seen
  | name :: stack, seen =>
    if seen.contains name then e.reach stack seen
    else e.reach ((e.followersOf name).reverse ++ stack) (seen ++ [name])
termination_by stack seen => stack.length + e.unseen seen
decreasing_by
  · simp only [List.length_cons]
    omega
  · next new =>
    have := e.unseen_append new
    simp only [List.length_cons, List.length_append, List.length_reverse]
    omega

end Edges

namespace Graph

/-- The jobs that need `name` themselves, as the table has them, in order of declaration. -/
def following (g : Graph) (name : String) : List String :=
  Text.sortedBy (position g.jobs) (g.edges.followersOf name)

/-- Before the first job is placed. -/
def lineup (g : Graph) : Lineup where
  counters := g.edges.degrees.map fun row => (row.1, (row.2 : Int))
  ready := (names g.jobs).filter fun name => g.edges.degreeOf name = 0

/-- Every job that can run at all, in order. -/
def placed (g : Graph) : List Job := (g.lineup.place g.following []).2.filterMap g.find?

/-- The names of the jobs that wait for a need in the end. -/
def stuck (g : Graph) : List String := (g.lineup.place g.following []).1.waiting

def order (g : Graph) : Except WorkflowError (List Job) :=
  if g.placed.length = g.jobs.length then .ok g.placed else .error (.cycle (Text.sorted g.stuck))

/-- Every job that needs `name`, itself or through others. -/
def downstream (g : Graph) (name : String) : List String :=
  g.edges.reach (g.edges.followersOf name).reverse []

end Graph

/-- The jobs in the order in which they run. -/
def runOrder (jobs : List Job) : Except WorkflowError (List Job) := do (← Graph.ofJobs jobs).order

end LocalCI
