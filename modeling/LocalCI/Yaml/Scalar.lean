import LocalCI.Yaml.Cursor

/-! The text of scalars: plain, in quotes, and in blocks. -/
namespace LocalCI.Yaml

/-- The characters of a plain scalar up to a gap, a mark of the flow context, or a colon that ends a
key. -/
def plainChunk (flow : Bool) : List Char → List Char
  | [] => []
  | x :: rest =>
    let endsKey := x = ':' &&
      match rest with
      | [] => true
      | y :: _ => isGap y || (flow && isFlowMark y)
    if isGap x || endsKey || (flow && (isFlowMark x || x = '?')) then []
    else x :: plainChunk flow rest

/-- Spaces and further line breaks after a line break; nothing if a document mark comes. -/
def breaksFrom : Nat → List Char → Cursor → Option (List Char) × Cursor
  | 0, found, c => (some found, c)
  | fuel + 1, found, c =>
    if c.isAt ' ' then breaksFrom fuel found c.next
    else if c.sees isBreak 0 then
      let (x, c) := c.lineBreak
      if c.isDocumentMark then (none, c) else breaksFrom fuel (found ++ x) c
    else (some found, c)

/-- How a line break and further ones after it are read: a single one is a space. -/
def foldBreaks (first more : List Char) : List Char :=
  if first ≠ ['\n'] then first ++ more else if more.isEmpty then [' '] else more

/-- The gap inside a plain scalar. Tabs do not belong to it. -/
structure Gap where
  /-- Nothing ends the scalar. -/
  text : List Char
  /-- Whether a line was ended. -/
  newLine : Bool
  cursor : Cursor

def plainGap (c : Cursor) : Gap :=
  let (spaces, c) := c.span (· = ' ')
  if c.sees isBreak 0 then
    let (first, c) := c.lineBreak
    if c.isDocumentMark then ⟨[], true, c⟩
    else match breaksFrom (c.rest.length + 1) [] c with
      | (some more, c) => ⟨foldBreaks first more, true, c⟩
      | (none, c) => ⟨[], true, c⟩
  else ⟨spaces, false, c⟩

/-- Reads chunks and gaps; `newLine` tells whether the last gap ended a line. -/
def plainFrom (flow : Bool) (indent : Int) :
    Nat → List Char → List Char → Bool → Cursor → List Char × Bool × Cursor
  | 0, text, _, newLine, c => (text, newLine, c)
  | fuel + 1, text, gap, newLine, c =>
    let chunk := plainChunk flow c.rest
    if c.isAt '#' || chunk.isEmpty then (text, newLine, c)
    else
      let g := plainGap (c.skip chunk.length)
      let text := text ++ gap ++ chunk
      if g.text.isEmpty || g.cursor.isAt '#' || (!flow && g.cursor.column < indent) then
        (text, g.newLine, g.cursor)
      else plainFrom flow indent fuel text g.text g.newLine g.cursor

/-- A plain scalar, and whether it ended at a line break. -/
def plain (flow : Bool) (indent : Int) (c : Cursor) : List Char × Bool × Cursor :=
  plainFrom flow indent (c.rest.length + 1) [] [] false c

/-- Blank lines inside quotes; a document mark may not come there. -/
def quotedBreaks : Nat → List Char → Cursor → Except Trouble (List Char × Cursor)
  | 0, found, c => .ok (found, c)
  | fuel + 1, found, c =>
    if c.isDocumentMark then .error .invalid
    else
      let c := c.skipWhile fun x => x = ' ' || x = '\t'
      if c.sees isBreak 0 then
        let (x, c) := c.lineBreak
        quotedBreaks fuel (found ++ x) c
      else .ok (found, c)

/-- The gap inside quotes. -/
def quotedGap (c : Cursor) : Except Trouble (List Char × Cursor) :=
  let (blanks, c) := c.span fun x => x = ' ' || x = '\t'
  if c.atEnd then .error .invalid
  else if c.sees isBreak 0 then
    let (first, c) := c.lineBreak
    do
      let (more, c) ← quotedBreaks (c.rest.length + 1) [] c
      return (foldBreaks first more, c)
  else .ok (blanks, c)

/-- Escapes of one character. -/
def shortEscape? (x : Char) : Option Char :=
  ([('0', 0x00), ('a', 0x07), ('b', 0x08), ('t', 0x09), ('\t', 0x09), ('n', 0x0A), ('v', 0x0B),
    ('f', 0x0C), ('r', 0x0D), ('e', 0x1B), (' ', 0x20), ('"', 0x22), ('\\', 0x5C), ('/', 0x2F),
    ('N', 0x85), ('_', 0xA0), ('L', 0x2028), ('P', 0x2029)].lookup x).map Char.ofNat

/-- How many hexadecimal digits follow. -/
def escapeWidth? (x : Char) : Option Nat := [('x', 2), ('u', 4), ('U', 8)].lookup x

def hexDigit? (x : Char) : Option Nat :=
  let n := x.toNat
  if 0x30 ≤ n && n ≤ 0x39 then some (n - 0x30)
  else if 0x41 ≤ n && n ≤ 0x46 then some (n - 0x41 + 10)
  else if 0x61 ≤ n && n ≤ 0x66 then some (n - 0x61 + 10)
  else none

def hexValue? (width : Nat) (cs : List Char) : Option Nat :=
  let digits := cs.take width
  if digits.length < width then none
  else (digits.mapM hexDigit?).map fun ds => ds.foldl (fun n d => n * 16 + d) 0

/-- An escape given by a code point, which may be a surrogate. -/
def codeEscape (width : Nat) (c : Cursor) : Except Trouble (List Char × Cursor) :=
  match hexValue? width c.rest with
  | none => .error .invalid
  | some n =>
    if 0x10FFFF < n then .error (.fault (.noCharacter n))
    else .ok ([Text.charOf n], c.skip width)

/-- What follows a backslash in double quotes. -/
def escape (c : Cursor) : Except Trouble (List Char × Cursor) :=
  match c.rest with
  | [] => .error .invalid
  | x :: _ =>
    match shortEscape? x, escapeWidth? x with
    | some y, _ => .ok ([y], c.next)
    | none, some width => codeEscape width c.next
    | none, none =>
      if isBreak x then quotedBreaks (c.rest.length + 1) [] c.lineBreak.2 else .error .invalid

def isQuotedStop (x : Char) : Bool := x.toNat = 0x27 || x = '"' || x = '\\' || isGap x

def quoteMark (double : Bool) : Char := Char.ofNat (if double then 0x22 else 0x27)

/-- Characters and escapes up to a gap or the closing quote. -/
def quotedChunk (double : Bool) : Nat → List Char → Cursor → Except Trouble (List Char × Cursor)
  | 0, text, c => .ok (text, c)
  | fuel + 1, text, c =>
    let (chunk, c) := c.span (!isQuotedStop ·)
    let text := text ++ chunk
    match c.rest with
    | [] => .ok (text, c)
    | x :: rest =>
      if isGap x then .ok (text, c)
      else if x = quoteMark double then
        if !double && rest.head? = some x then quotedChunk double fuel (text ++ [x]) (c.skip 2)
        else .ok (text, c)
      else if double && x = '\\' then do
        let (escaped, c) ← escape c.next
        quotedChunk double fuel (text ++ escaped) c
      else quotedChunk double fuel (text ++ [x]) c.next

def quotedFrom (double : Bool) : Nat → Cursor → Except Trouble (List Char × Cursor)
  | 0, _ => .error .invalid
  | fuel + 1, c => do
    let (chunk, c) ← quotedChunk double fuel [] c
    if c.isAt (quoteMark double) then return (chunk, c.next)
    else
      let (gap, c) ← quotedGap c
      let (rest, c) ← quotedFrom double fuel c
      return (chunk ++ gap ++ rest, c)

/-- A scalar in quotes, from its opening quote on. -/
def quotedScalar (double : Bool) (c : Cursor) : Except Trouble (List Char × Cursor) :=
  quotedFrom double (c.rest.length + 1) c.next

/-- What becomes of the line breaks at the end of a block. -/
inductive Chomping where
  | clip
  | strip
  | keep
deriving DecidableEq, Repr

def chomping? (x : Char) : Option Chomping :=
  if x = '+' then some .keep else if x = '-' then some .strip else none

/-- An explicit indentation of one digit. -/
def increment? (c : Cursor) : Option Nat :=
  c.rest.head?.bind fun x => if x.isDigit then some (x.toNat - 0x30) else none

/-- Chomping and indentation of a block, in either order. -/
def blockHeader (c : Cursor) : Except Trouble ((Chomping × Option Nat) × Cursor) := do
  let ((chomping, increment), c) :=
    match c.rest.head?.bind chomping? with
    | some chomping =>
      match increment? c.next with
      | some n => ((chomping, some n), c.next.next)
      | none => ((chomping, none), c.next)
    | none =>
      match increment? c with
      | some n =>
        match c.next.rest.head?.bind chomping? with
        | some chomping => ((chomping, some n), c.next.next)
        | none => ((Chomping.clip, some n), c.next)
      | none => ((Chomping.clip, none), c)
  if increment = some 0 || !c.endOr isSpaceOrBreak 0 then throw .invalid
  return ((chomping, increment), c)

/-- Blanks and a comment up to the end of the line. -/
def restOfLine (c : Cursor) : Except Trouble Cursor :=
  let c := c.skipSpaces.skipComment
  if c.endOr isBreak 0 then .ok c.lineBreak.2 else .error .invalid

/-- Leading blank lines of a block, and the deepest indentation seen among them. -/
def blockIndentation : Nat → List Char → Nat → Cursor → List Char × Nat × Cursor
  | 0, breaks, deepest, c => (breaks, deepest, c)
  | fuel + 1, breaks, deepest, c =>
    if c.isAt ' ' then
      let c := c.next
      blockIndentation fuel breaks (max deepest c.column) c
    else if c.sees isBreak 0 then
      let (x, c) := c.lineBreak
      blockIndentation fuel (breaks ++ x) deepest c
    else (breaks, deepest, c)

/-- Skips spaces up to the indentation. -/
def indentTo (indent : Nat) : Nat → Cursor → Cursor
  | 0, c => c
  | fuel + 1, c => if c.column < indent && c.isAt ' ' then indentTo indent fuel c.next else c

/-- Blank lines of a block, up to the indentation of the next line. -/
def blockBreaks (indent : Nat) : Nat → List Char → Cursor → List Char × Cursor
  | 0, breaks, c => (breaks, c)
  | fuel + 1, breaks, c =>
    let c := indentTo indent c.rest.length c
    if c.sees isBreak 0 then
      let (x, c) := c.lineBreak
      blockBreaks indent fuel (breaks ++ x) c
    else (breaks, c)

/-- The lines of a block: its text without the last line break, that break, the blank lines after
it, and where it ends. -/
def blockLines (folded : Bool) (indent : Nat) :
    Nat → List Char → List Char → List Char → Cursor →
    List Char × List Char × List Char × Cursor
  | 0, text, last, breaks, c => (text, last, breaks, c)
  | fuel + 1, text, last, breaks, c =>
    if c.column ≠ indent || c.atEnd then (text, last, breaks, c)
    else
      let startsPlain := !c.sees (fun x => x = ' ' || x = '\t') 0
      let (line, c) := c.span (!isBreak ·)
      let text := text ++ breaks ++ line
      let (last, c) := c.lineBreak
      let (breaks, c) := blockBreaks indent (c.rest.length + 1) [] c
      if c.column ≠ indent || c.atEnd then (text, last, breaks, c)
      else
        let joins := folded && last = ['\n'] && startsPlain &&
          !c.sees (fun x => x = ' ' || x = '\t') 0
        let text := text ++ (if !joins then last else if breaks.isEmpty then [' '] else [])
        blockLines folded indent fuel text last breaks c

/-- A block scalar, from its mark on; `indent` is that of the collection around it. -/
def blockScalar (folded : Bool) (indent : Int) (c : Cursor) : Except Trouble (List Char × Cursor) := do
  let ((chomping, increment), c) ← blockHeader c.next
  let c ← restOfLine c
  let least := (max (indent + 1) 1).toNat
  let (breaks, depth, c) :=
    match increment with
    | none =>
      let (breaks, deepest, c) := blockIndentation (c.rest.length + 1) [] 0 c
      (breaks, max least deepest, c)
    | some n =>
      let depth := least + n - 1
      let (breaks, c) := blockBreaks depth (c.rest.length + 1) [] c
      (breaks, depth, c)
  let (text, last, breaks, c) := blockLines folded depth (c.rest.length + 1) [] [] breaks c
  let tail := match chomping with
    | .strip => []
    | .clip => last
    | .keep => last ++ breaks
  return (text ++ tail, c)

end LocalCI.Yaml
