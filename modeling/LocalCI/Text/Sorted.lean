/-! Texts in order, by a key or by their code points. -/
namespace LocalCI.Text

section Keyed

variable {α : Type} [LT α] [DecidableLT α] (key : String → α)

def insertBy (s : String) : List String → List String
  | [] => [s]
  | t :: rest => if key t < key s then t :: insertBy s rest else s :: t :: rest

/-- The same texts, those with smaller keys first. -/
def sortedBy (names : List String) : List String := names.foldr (insertBy key) []

end Keyed

/-- The same texts, smallest first. -/
def sorted (names : List String) : List String := sortedBy id names

/-- The first of each run of equal texts is kept. -/
def distinct : List String → List String
  | [] => []
  | s :: rest => s :: (distinct rest).filter (· ≠ s)

end LocalCI.Text
