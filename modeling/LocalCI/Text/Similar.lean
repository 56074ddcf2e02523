import LocalCI.Text.Sorted

/-! How alike two words are: the length of the longest stretch they share, and of those to its left
and right, set against the length of both. -/
namespace LocalCI.Text

def commonStart : List Char → List Char → Nat
  | a :: as, b :: bs => if a = b then commonStart as bs + 1 else 0
  | _, _ => 0

/-- Start in either word and length of a shared stretch. -/
structure Stretch where
  left : Nat
  right : Nat
  size : Nat

/-- The longest shared stretch, the first of them in `a` and then in `b`. -/
def longestShared (a b : List Char) : Stretch :=
  let starts := (List.range a.length).flatMap fun i => (List.range b.length).map fun j => (i, j)
  starts.foldl (fun best (i, j) =>
    let size := commonStart (a.drop i) (b.drop j)
    if best.size < size then ⟨i, j, size⟩ else best) ⟨0, 0, 0⟩

def sharedFrom : Nat → List Char → List Char → Nat
  | 0, _, _ => 0
  | fuel + 1, a, b =>
    let s := longestShared a b
    if s.size = 0 then 0
    else sharedFrom fuel (a.take s.left) (b.take s.right) + s.size +
      sharedFrom fuel (a.drop (s.left + s.size)) (b.drop (s.right + s.size))

/-- How many characters are shared. -/
def shared (a b : String) : Nat := sharedFrom a.length a.toList b.toList

/-- Three fifths of both words are shared. -/
def isSimilar (a b : String) : Bool := 3 * (a.length + b.length) ≤ 10 * shared a b

/-- Whether `a` is less like the word than `b` is; between equals the order of texts decides. -/
def lessSimilar (word a b : String) : Bool :=
  let p := shared a word * (b.length + word.length)
  let q := shared b word * (a.length + word.length)
  p < q || (p = q && a < b)

/-- The choices that are similar to a word, the three best at most, sorted. -/
def similarTo (word : String) (choices : List String) : List String :=
  let found := choices.filter (isSimilar · word)
  sorted ((found.mergeSort fun a b => !lessSimilar word a b).take 3)

end LocalCI.Text
