/-! Branch patterns. A star stands for any text, a question mark for any one character, brackets for
one character out of a set, and everything else for itself; slashes and line breaks are ordinary
characters and case matters. -/
namespace LocalCI

/-- One element of a pattern. -/
inductive Glob.Piece where
  | anything
  | oneOf (negated : Bool) (ranges : List (Char × Char))
  | one
  | char (c : Char)
deriving DecidableEq, Repr

abbrev Glob := List Glob.Piece

namespace Glob

/-- A member of a bracket set: a character, or the hyphen between the ends of a range. -/
inductive Mark where
  | char (c : Char)
  | hyphen
deriving DecidableEq, Repr

/-- Splits a set at the hyphens that make ranges. Such a hyphen stands after at least `wait` more
characters, and the next one at least two characters after it. -/
def chunksFrom : Nat → List Char → List Char → List (List Char)
  | _, chunk, [] => [chunk.reverse]
  | wait + 1, chunk, c :: rest => chunksFrom wait (c :: chunk) rest
  | 0, chunk, c :: rest =>
    if c = '-' then chunk.reverse :: chunksFrom 2 [] rest else chunksFrom 0 (c :: chunk) rest

/-- A hyphen at the end makes no range. -/
def closeChunks : List (List Char) → List (List Char)
  | [] => []
  | [chunk, []] => [chunk ++ ['-']]
  | chunk :: rest => chunk :: closeChunks rest

/-- Drops the two ends of every range that runs backwards. -/
def dropBackward : List (List Char) → List (List Char)
  | [] => []
  | chunk :: rest =>
    match chunk.getLast?, dropBackward rest with
    | some a, (b :: more) :: others =>
      if b < a then (chunk.dropLast ++ more) :: others else chunk :: (b :: more) :: others
    | _, others => chunk :: others

def marks : List (List Char) → List Mark
  | [] => []
  | [chunk] => chunk.map .char
  | chunk :: rest => chunk.map .char ++ .hyphen :: marks rest

def ranges : List Mark → List (Char × Char)
  | [] => []
  | .char a :: .hyphen :: .char b :: rest => (a, b) :: ranges rest
  | .char a :: rest => (a, a) :: ranges rest
  | .hyphen :: rest => ('-', '-') :: ranges rest

/-- The piece for the text between brackets. An exclamation mark in front negates the set. -/
def setPiece (body : List Char) : Piece :=
  let wait := if body.head? = some '!' then 2 else 1
  match marks (dropBackward (closeChunks (chunksFrom wait [] body))) with
  | .char '!' :: rest => .oneOf true (ranges rest)
  | rest => .oneOf false (ranges rest)

/-- The text up to the closing bracket; a closing bracket in front, also after an exclamation mark,
belongs to the set. -/
def bracketBody? (cs : List Char) : Option (List Char) :=
  let lead := match cs with
    | '!' :: ']' :: _ => 2
    | '!' :: _ => 1
    | ']' :: _ => 1
    | _ => 0
  let rest := cs.drop lead
  if rest.contains ']' then some (cs.take lead ++ rest.takeWhile (· ≠ ']')) else none

/-- Two stars in a row are one. -/
def addStar : Glob → Glob
  | .anything :: g => .anything :: g
  | g => .anything :: g

/-- `skip` characters belong to a set already read. A bracket that is never closed is a character. -/
def ofCharsFrom : Nat → List Char → Glob
  | _, [] => []
  | skip + 1, _ :: rest => ofCharsFrom skip rest
  | 0, c :: rest =>
    if c = '*' then addStar (ofCharsFrom 0 rest)
    else if c = '?' then .one :: ofCharsFrom 0 rest
    else if c = '[' then
      match bracketBody? rest with
      | some body => setPiece body :: ofCharsFrom (body.length + 1) rest
      | none => .char c :: ofCharsFrom 0 rest
    else .char c :: ofCharsFrom 0 rest

def ofString (pattern : String) : Glob := ofCharsFrom 0 pattern.toList

def suffixes : List Char → List (List Char)
  | [] => [[]]
  | c :: rest => (c :: rest) :: suffixes rest

/-- Whether the piece stands for this one character. -/
def Piece.fits : Piece → Char → Bool
  | .anything, _ => true
  | .one, _ => true
  | .char a, c => a == c
  | .oneOf negated rs, c => (rs.any fun (lo, hi) => lo ≤ c && c ≤ hi) != negated

def Piece.eat? (p : Piece) : List Char → Option (List Char)
  | [] => none
  | c :: rest => if p.fits c then some rest else none

/-- What may be left of the text after one more piece. The candidates are suffixes of one text, the
longest first, so after a star they are the suffixes of the first. -/
def Piece.step (rests : List (List Char)) : Piece → List (List Char)
  | .anything => (rests.head?.map suffixes).getD []
  | p => rests.filterMap p.eat?

/-- Whether the pattern stands for the whole text. -/
def accepts (g : Glob) (cs : List Char) : Bool := (g.foldl Piece.step [cs]).contains []

end Glob

/-- Whether the branch pattern stands for the whole text. -/
def globMatches (pattern text : String) : Bool := (Glob.ofString pattern).accepts text.toList

end LocalCI
