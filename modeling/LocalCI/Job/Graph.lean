import LocalCI.Job
import LocalCI.Text.Sorted

/-! Jobs that can be run together: their names differ, and what they need is among them. -/
namespace LocalCI

namespace Graph

def names (jobs : List Job) : List String := jobs.map Job.name

/-- Names that occur more than once. -/
def repeated (names : List String) : List String :=
  Text.distinct (names.filter fun n => 1 < names.count n)

theorem distinct_eq_nil {texts : List String} : Text.distinct texts = [] ↔ texts = [] := by
  cases texts <;> simp [Text.distinct]

theorem repeated_eq_nil {texts : List String} : repeated texts = [] ↔ texts.Nodup := by
  rw [repeated, distinct_eq_nil, List.filter_eq_nil_iff, List.nodup_iff_count]
  constructor
  · intro once text
    by_cases member : text ∈ texts
    · simpa using once text member
    · simp [List.count_eq_zero_of_not_mem member]
  · intro once text _
    simpa using once text

/-- The first need, in order of declaration, that names no job. -/
def unknownNeed? (jobs : List Job) : Option (String × String) :=
  jobs.findSome? fun j =>
    (j.needed.find? fun n => !(names jobs).contains n).map fun n => (j.name, n)

theorem unknownNeed?_eq_none {jobs : List Job} :
    unknownNeed? jobs = none ↔ ∀ j ∈ jobs, ∀ n ∈ j.needed, n ∈ names jobs := by
  simp [unknownNeed?]

end Graph

/-- Jobs with different names, each of which needs only jobs of the list. -/
structure Graph where
  jobs : List Job
  distinct : (Graph.names jobs).Nodup
  known : ∀ j ∈ jobs, ∀ n ∈ j.needed, n ∈ Graph.names jobs
deriving Repr

namespace Graph

def ofJobs (jobs : List Job) : Except WorkflowError Graph :=
  if unique : repeated (names jobs) = [] then
    match found : unknownNeed? jobs with
    | some (job, need) => .error (.unknownNeed job need (Text.sorted (names jobs)))
    | none => .ok ⟨jobs, repeated_eq_nil.mp unique, unknownNeed?_eq_none.mp found⟩
  else .error (.duplicateNames (Text.sorted (repeated (names jobs))))

/-- The jobs that need `name` themselves, in order of declaration. -/
def dependents (g : Graph) (name : String) : List Job :=
  g.jobs.filter fun j => j.needed.contains name

/-- How many different jobs a job needs. -/
def degree (j : Job) : Nat := (Text.distinct j.needed).length

def find? (g : Graph) (name : String) : Option Job := g.jobs.find? fun j => j.name = name

/-- The place at which a list has the job of a name. -/
def position (jobs : List Job) (name : String) : Nat := (names jobs).idxOf name

end Graph

end LocalCI
