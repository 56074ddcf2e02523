import LocalCI.Fault

/-! A place in a YAML text, and the classes of characters that matter there. -/
namespace LocalCI.Yaml

/-- Why a text gives no value: it is no YAML, or a value in it cannot be made. -/
inductive Trouble where
  | invalid
  | fault (f : Fault)
deriving Repr

def isBreak (c : Char) : Bool :=
  c = '\n' || c = '\r' || c.toNat = 0x85 || c.toNat = 0x2028 || c.toNat = 0x2029

/-- Space, tab or line break. -/
def isGap (c : Char) : Bool := c = ' ' || c = '\t' || isBreak c

/-- Space or line break. -/
def isSpaceOrBreak (c : Char) : Bool := c = ' ' || isBreak c

def isFlowMark (c : Char) : Bool := c = ',' || c = '[' || c = ']' || c.toNat = 0x7B || c.toNat = 0x7D

/-- Letters and digits of ASCII, hyphen and underscore: what names are made of. -/
def isWordChar (c : Char) : Bool := c.isAlphanum || c = '-' || c = '_'

/-- Characters a text may hold at all. -/
def isAllowed (c : Char) : Bool :=
  let n := c.toNat
  n = 0x09 || n = 0x0A || n = 0x0D || (0x20 ≤ n && n ≤ 0x7E) || n = 0x85 ||
  (0xA0 ≤ n && n ≤ 0xD7FF) || (0xE000 ≤ n && n ≤ 0xFFFD) || 0x10000 ≤ n

def byteOrderMark : Char := Char.ofNat 0xFEFF

structure Cursor where
  rest : List Char
  index : Nat := 0
  line : Nat := 0
  column : Nat := 0

namespace Cursor

def atEnd (c : Cursor) : Bool := c.rest.isEmpty

/-- Whether the character `k` places on is of a class; the end of the text belongs to it. -/
def endOr (p : Char → Bool) (c : Cursor) (k : Nat) : Bool := (c.rest[k]?.map p).getD true

/-- Whether there is a character of the class `k` places on. -/
def sees (p : Char → Bool) (c : Cursor) (k : Nat) : Bool := (c.rest[k]?.map p).getD false

def isAt (x : Char) (c : Cursor) : Bool := c.rest.head? = some x

def next (c : Cursor) : Cursor :=
  match c.rest with
  | [] => c
  | x :: rest =>
    let ends := isBreak x && !(x = '\r' && rest.head? = some '\n')
    { rest := rest
      index := c.index + 1
      line := if ends then c.line + 1 else c.line
      column := if ends then 0 else if x = byteOrderMark then c.column else c.column + 1 }

def skip : Nat → Cursor → Cursor
  | 0, c => c
  | n + 1, c => skip n c.next

/-- The characters of a class from here on. -/
def span (p : Char → Bool) (c : Cursor) : List Char × Cursor :=
  let taken := c.rest.takeWhile p
  (taken, c.skip taken.length)

def skipWhile (p : Char → Bool) (c : Cursor) : Cursor := (c.span p).2

def skipSpaces (c : Cursor) : Cursor := c.skipWhile (· = ' ')

/-- A comment runs to the end of its line. -/
def skipComment (c : Cursor) : Cursor := if c.isAt '#' then c.skipWhile (!isBreak ·) else c

/-- One line break; all but the two Unicode separators become a line feed. -/
def lineBreak (c : Cursor) : List Char × Cursor :=
  match c.rest with
  | '\r' :: '\n' :: _ => (['\n'], c.skip 2)
  | x :: _ =>
    if !isBreak x then ([], c)
    else ([if x.toNat = 0x2028 || x.toNat = 0x2029 then x else '\n'], c.next)
  | [] => ([], c)

/-- Three hyphens or dots that stand alone. -/
def isDocumentMark (c : Cursor) : Bool :=
  (c.rest.take 3 = ['-', '-', '-'] || c.rest.take 3 = ['.', '.', '.']) && c.endOr isGap 3

end Cursor
end LocalCI.Yaml
