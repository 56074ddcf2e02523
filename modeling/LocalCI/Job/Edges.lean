import LocalCI.Job.Graph

/-! The needs of jobs as a table: for every job the jobs that need it, and how many different jobs it
needs itself. Both columns are filled in one pass over the needs; a need that is listed again changes
neither. -/
namespace LocalCI

structure Edges where
  followers : List (String × List String)
  degrees : List (String × Nat)
deriving DecidableEq, Repr

namespace Edges

/-- Every job has its row, and no need is entered yet. -/
def blank (names : List String) : Edges where
  followers := names.map fun name => (name, [])
  degrees := names.map fun name => (name, 0)

def row? {α : Type} (name : String) (rows : List (String × α)) : Option α :=
  (rows.find? fun row => row.1 = name).map Prod.snd

def adjust {α : Type} (name : String) (change : α → α) (rows : List (String × α)) :
    List (String × α) :=
  rows.map fun row => if row.1 = name then (row.1, change row.2) else row

/-- The jobs that need the named one themselves. -/
def followersOf (e : Edges) (name : String) : List String := (row? name e.followers).getD []

/-- How many different jobs the named one needs. -/
def degreeOf (e : Edges) (name : String) : Nat := (row? name e.degrees).getD 0

/-- Enters a need of a job; the degree grows only with a follower that is new. -/
def link (job : String) (e : Edges) (need : String) : Edges :=
  if (e.followersOf need).contains job then e
  else ⟨adjust need (· ++ [job]) e.followers, adjust job (· + 1) e.degrees⟩

end Edges

def Graph.edges (g : Graph) : Edges :=
  g.jobs.foldl (fun e j => j.needed.foldl (Edges.link j.name) e) (Edges.blank (names g.jobs))

/-- The table of jobs that make a graph. -/
def Edges.ofJobs (jobs : List Job) : Except WorkflowError Edges := (Graph.ofJobs jobs).map Graph.edges

end LocalCI
