import LocalCI.Text.Search

/-! Paths as texts with slashes. Empty parts and single dots say nothing and are dropped; double
dots are kept, since they mean something only with links resolved. -/
namespace LocalCI

structure Path where
  /-- Leading slashes: none in a relative path, one or two in an absolute one. -/
  slashes : Nat
  parts : List String
deriving DecidableEq, Repr

/-- A place in the file tree: the names from the root on. -/
abbrev Location := List String

namespace Path

def partsOf (s : String) : List String :=
  (Text.split '/' s).filter fun part => part ≠ "" && part ≠ "."

def ofString (s : String) : Path :=
  let lead := (s.toList.takeWhile (· = '/')).length
  ⟨if lead = 2 then 2 else min lead 1, partsOf s⟩

def ofLocation (l : Location) : Path := ⟨1, l⟩

def isAbsolute (p : Path) : Bool := p.slashes ≠ 0

def hasNul (p : Path) : Bool := p.parts.any (·.toList.contains '\x00')

def text (p : Path) : String :=
  if p.slashes = 0 && p.parts.isEmpty then "."
  else String.ofList (List.replicate p.slashes '/') ++ "/".intercalate p.parts

/-- An absolute right side wins. -/
def join (p q : Path) : Path := if q.isAbsolute then q else { p with parts := p.parts ++ q.parts }

/-- The path `p / s`. -/
def child (p : Path) (s : String) : Path := p.join (ofString s)

def name (p : Path) : String := p.parts.getLast?.getD ""

/-- Where the suffix of a name starts: at the last dot, unless that dot is its first or its last
character. -/
def suffixStart? (name : List Char) : Option Nat :=
  let tail := (name.reverse.takeWhile (· ≠ '.')).length
  let dot := name.length - tail - 1
  if name.contains '.' && 0 < dot && 0 < tail then some dot else none

def suffix (p : Path) : String :=
  let cs := p.name.toList
  match suffixStart? cs with
  | some dot => String.ofList (cs.drop dot)
  | none => ""

def stem (p : Path) : String :=
  let cs := p.name.toList
  match suffixStart? cs with
  | some dot => String.ofList (cs.take dot)
  | none => p.name

end Path

def Location.text (l : Location) : String := (Path.ofLocation l).text

end LocalCI
