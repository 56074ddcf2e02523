import LocalCI.Number.Shortest
import LocalCI.Text.Integer
import LocalCI.Text.Quoted
import LocalCI.Value.SetOrder

/-! The text of a value. A value on its own is written plainly; inside a collection texts are quoted
and dates are spelled out. A collection that is met again while it is being written is cut short to
dots in its brackets. -/
namespace LocalCI

namespace Scalar

def toText : Scalar → String
  | .null => "None"
  | .bool b => if b then "True" else "False"
  | .int n => toString n
  | .real x => x.text
  | .text s => s
  | .bytes b => Text.quotedBytes b
  | .date d => d.text
  | .moment m => m.text

def itemText : Scalar → String
  | .text s => Text.quoted s
  | .date d => d.itemText
  | .moment m => m.itemText
  | s => s.toText

/-- Whether its whole number, if it is one, is short enough to be written. -/
def isWritable : Scalar → Bool
  | .int n => Text.isWritable n
  | _ => true

end Scalar

namespace Value

def braced (items : List String) : String := "\x7b" ++ ", ".intercalate items ++ "\x7d"

/-- What is written for a collection that is being written already. -/
def dots : Value → String
  | .list _ => "[...]"
  | .map _ => "\x7b...\x7d"
  | .pair _ _ => "(...)"
  | _ => "..."

def setText (elements : List Scalar) : String :=
  if elements.isEmpty then "set()" else braced ((SetOrder.list elements).map Scalar.itemText)

mutual

/-- The text inside of the loops whose labels and dots are given. -/
def textWithin : List (Nat × String) → Value → String
  | _, .scalar s => s.itemText
  | around, .list items => Text.bracketed (textsWithin around items)
  | around, .map entries => braced (entriesWithin around entries)
  | _, .set elements => setText elements
  | around, .pair first second =>
    "(" ++ textWithin around first ++ ", " ++ textWithin around second ++ ")"
  | around, .loop label body =>
    if (around.lookup label).isSome then body.dots
    else textWithin ((label, body.dots) :: around) body
  | around, .again label => (around.lookup label).getD "..."

def textsWithin : List (Nat × String) → List Value → List String
  | _, [] => []
  | around, v :: rest => textWithin around v :: textsWithin around rest

def entriesWithin : List (Nat × String) → List (Scalar × Value) → List String
  | _, [] => []
  | around, (key, v) :: rest =>
    (key.itemText ++ ": " ++ textWithin around v) :: entriesWithin around rest

end

/-- The text of a value among others. -/
def itemText (v : Value) : String := textWithin [] v

def toText : Value → String
  | .scalar s => s.toText
  | v => v.itemText

/-- What can keep a value from being written. -/
inductive Obstacle where
  /-- A whole number is too long. -/
  | number
  /-- Collections are nested too deeply. -/
  | depth
deriving DecidableEq, Repr

mutual

/-- The first obstacle inside of the loops whose labels are given. There is room for so many values to
be written inside of one another; the items of a set are written as a list inside of it. -/
def obstacleWithin (room : Nat) : List Nat → Value → Option Obstacle
  | _, .scalar s => if s.isWritable then none else some .number
  | around, .list items => obstacleAmong room around items
  | around, .map entries => obstacleInEntries room around entries
  | _, .set elements =>
    if elements.isEmpty then none
    else if room < 2 then some .depth
    else if elements.all Scalar.isWritable then none else some .number
  | around, .pair first second =>
    match room with
    | 0 => some .depth
    | room + 1 => (obstacleWithin room around first).or (obstacleWithin room around second)
  | around, .loop label body =>
    if around.contains label then none else obstacleWithin room (label :: around) body
  | _, .again _ => none

def obstacleAmong (room : Nat) : List Nat → List Value → Option Obstacle
  | _, [] => none
  | around, v :: rest =>
    match room with
    | 0 => some .depth
    | room + 1 => (obstacleWithin room around v).or (obstacleAmong (room + 1) around rest)

def obstacleInEntries (room : Nat) : List Nat → List (Scalar × Value) → Option Obstacle
  | _, [] => none
  | around, (key, v) :: rest =>
    match room with
    | 0 => some .depth
    | room + 1 =>
      if !key.isWritable then some .number
      else (obstacleWithin room around v).or (obstacleInEntries (room + 1) around rest)

end

/-- What keeps a value from being written where there is room for so many inside of it. -/
def obstacle? (room : Nat) (v : Value) : Option Obstacle := obstacleWithin room [] v

/-- The text, unless something is in the way. -/
def write (room : Nat) (v : Value) : Except Obstacle String :=
  match v.obstacle? room with
  | none => .ok v.toText
  | some o => .error o

end Value

end LocalCI
