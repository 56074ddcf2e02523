import LocalCI.Text.Utf8
import LocalCI.Yaml.Scalar

/-! Tokens of a YAML text, with the block structure that indentation gives made explicit. -/
namespace LocalCI.Yaml

inductive Token where
  | version (major : Nat)
  | handle (name expansion : String)
  /-- A directive of no known meaning. -/
  | reserved
  | documentStart
  | documentEnd
  | blockSequence
  | blockMapping
  | blockEnd
  | flowSequence
  | flowSequenceEnd
  | flowMapping
  | flowMappingEnd
  | key
  | value
  | blockEntry
  | flowEntry
  | alias (name : String)
  | anchor (name : String)
  | tag (handle : Option String) (suffix : String)
  | scalar (text : String) (isPlain : Bool)
  /-- The text cannot be read any further. -/
  | broken (trouble : Trouble)

/-- The name of an anchor or alias, from its mark on. -/
def anchorName (c : Cursor) : Except Trouble (String × Cursor) :=
  let (name, c) := c.next.span isWordChar
  let follows (x : Char) : Bool :=
    isGap x || x = '?' || x = ':' || x = ',' || x = ']' || x.toNat = 0x7D || x = '%' || x = '@' ||
    x.toNat = 0x60
  if name.isEmpty || !c.endOr follows 0 then .error .invalid else .ok (String.ofList name, c)

def isUriChar (x : Char) : Bool :=
  isWordChar x || x = ';' || x = '/' || x = '?' || x = ':' || x = '@' || x = '&' || x = '=' ||
  x = '+' || x = '$' || x = ',' || x = '.' || x = '!' || x = '~' || x = '*' || x.toNat = 0x27 ||
  x = '(' || x = ')' || x = '[' || x = ']'

/-- Bytes written as a percent sign and two hexadecimal digits. -/
def uriBytes : Nat → List UInt8 → Cursor → Except Trouble (List UInt8 × Cursor)
  | 0, bytes, c => .ok (bytes, c)
  | fuel + 1, bytes, c =>
    if !c.isAt '%' then .ok (bytes, c)
    else match hexValue? 2 c.next.rest with
      | none => .error .invalid
      | some n => uriBytes fuel (bytes ++ [n.toUInt8]) (c.skip 3)

def uriFrom : Nat → List Char → Cursor → Except Trouble (List Char × Cursor)
  | 0, text, c => .ok (text, c)
  | fuel + 1, text, c =>
    let (chunk, c) := c.span isUriChar
    let text := text ++ chunk
    if !c.isAt '%' then .ok (text, c)
    else do
      let (bytes, c) ← uriBytes (c.rest.length + 1) [] c
      match Text.decode bytes with
      | .ok decoded => uriFrom fuel (text ++ decoded.toList) c
      | .error _ => throw .invalid

/-- The address part of a tag; it may not be empty. -/
def uri (c : Cursor) : Except Trouble (String × Cursor) := do
  let (text, c) ← uriFrom (c.rest.length + 1) [] c
  if text.isEmpty then throw .invalid
  return (String.ofList text, c)

/-- The handle of a tag: a bare exclamation mark, or a word between two. -/
def tagHandle (c : Cursor) : Except Trouble (String × Cursor) :=
  if !c.isAt '!' then .error .invalid
  else
    let c := c.next
    if c.isAt ' ' then .ok ("!", c)
    else
      let (name, c) := c.span isWordChar
      if c.isAt '!' then .ok ("!" ++ String.ofList name ++ "!", c.next) else .error .invalid

/-- A tag, from its mark on. -/
def tagToken (c : Cursor) : Except Trouble (Token × Cursor) := do
  let (token, c) ←
    if c.sees (· = '<') 1 then do
      let (suffix, c) ← uri (c.skip 2)
      if !c.isAt '>' then throw .invalid
      pure (Token.tag none suffix, c.next)
    else if c.endOr isGap 1 then pure (Token.tag none "!", c.next)
    else if (c.next.rest.takeWhile (!isSpaceOrBreak ·)).contains '!' then do
      let (handle, c) ← tagHandle c
      let (suffix, c) ← uri c
      pure (Token.tag (some handle) suffix, c)
    else do
      let (suffix, c) ← uri c.next
      pure (Token.tag (some "!") suffix, c)
  if !c.endOr isSpaceOrBreak 0 then throw .invalid
  return (token, c)

def number (c : Cursor) : Except Trouble (Nat × Cursor) :=
  let (digits, c) := c.span Char.isDigit
  if digits.isEmpty then .error .invalid
  else if Text.digitLimit < digits.length then
    .error (.fault (.noInteger (.tooLong digits.length)))
  else .ok (digits.foldl (fun n d => n * 10 + (d.toNat - 0x30)) 0, c)

def versionToken (c : Cursor) : Except Trouble (Token × Cursor) := do
  let (major, c) ← number c.skipSpaces
  if !c.isAt '.' then throw .invalid
  let (_, c) ← number c.next
  if !c.endOr isSpaceOrBreak 0 then throw .invalid
  return (.version major, c)

def handleToken (c : Cursor) : Except Trouble (Token × Cursor) := do
  let (name, c) ← tagHandle c.skipSpaces
  if !c.isAt ' ' then throw .invalid
  let (expansion, c) ← uri c.skipSpaces
  if !c.endOr isSpaceOrBreak 0 then throw .invalid
  return (.handle name expansion, c)

/-- A directive, from its percent sign on. -/
def directive (c : Cursor) : Except Trouble (Token × Cursor) := do
  let (name, c) := c.next.span isWordChar
  if name.isEmpty || !c.endOr isSpaceOrBreak 0 then throw .invalid
  let (token, c) ←
    if String.ofList name = "YAML" then versionToken c
    else if String.ofList name = "TAG" then handleToken c
    else pure (Token.reserved, c.skipWhile (!isBreak ·))
  return (token, ← restOfLine c)

/-- A token that turns out to be a key if a colon follows it. -/
structure KeyCandidate where
  /-- How many tokens stand before it. -/
  place : Nat
  /-- Whether the block structure breaks if it is none. -/
  required : Bool
  index : Nat
  line : Nat
  column : Nat

/-- What has been read so far. -/
structure Lexer where
  cursor : Cursor
  tokens : Array Token := #[]
  indent : Int := -1
  indents : List Int := []
  flowLevel : Nat := 0
  keyAllowed : Bool := true
  /-- At most one candidate for each flow level. -/
  candidates : List (Nat × KeyCandidate) := []

namespace Lexer

def inFlow (l : Lexer) : Bool := l.flowLevel ≠ 0

def emit (t : Token) (l : Lexer) : Lexer := { l with tokens := l.tokens.push t }

def moveTo (c : Cursor) (l : Lexer) : Lexer := { l with cursor := c }

def allowKey (allowed : Bool) (l : Lexer) : Lexer := { l with keyAllowed := allowed }

/-- Spaces, comments and line breaks; in block context a new line may start a key. -/
def skipBlank : Nat → Lexer → Lexer
  | 0, l => l
  | fuel + 1, l =>
    let c := l.cursor.skipSpaces.skipComment
    if c.sees isBreak 0 then
      skipBlank fuel { l with cursor := c.lineBreak.2, keyAllowed := l.keyAllowed || !l.inFlow }
    else l.moveTo c

/-- A key stands on one line and is at most 1024 characters long. -/
def isStale (l : Lexer) (k : KeyCandidate) : Bool :=
  k.line ≠ l.cursor.line || k.index + 1024 < l.cursor.index

def dropStale (l : Lexer) : Except Trouble Lexer :=
  if l.candidates.any fun k => l.isStale k.2 && k.2.required then .error .invalid
  else .ok { l with candidates := l.candidates.filter fun k => !l.isStale k.2 }

/-- Gives up the candidate of this flow level. -/
def dropCandidate (l : Lexer) : Except Trouble Lexer :=
  if l.candidates.any fun k => k.1 = l.flowLevel && k.2.required then .error .invalid
  else .ok { l with candidates := l.candidates.filter fun k => k.1 ≠ l.flowLevel }

/-- The next token may be a key. -/
def saveCandidate (l : Lexer) : Except Trouble Lexer := do
  if !l.keyAllowed then return l
  let key : KeyCandidate :=
    { place := l.tokens.size
      required := !l.inFlow && l.indent = l.cursor.column
      index := l.cursor.index
      line := l.cursor.line
      column := l.cursor.column }
  let l ← l.dropCandidate
  return { l with candidates := (l.flowLevel, key) :: l.candidates }

/-- Ends the blocks that are indented deeper than `column`. -/
def unwind (column : Int) : List Int → Lexer → Lexer
  | [], l => l
  | outer :: indents, l =>
    if l.inFlow || l.indent ≤ column then l
    else unwind column indents { l.emit .blockEnd with indent := outer, indents := indents }

def unwindTo (column : Int) (l : Lexer) : Lexer := unwind column l.indents l

/-- Opens a block at `column` if that is deeper than the present one. -/
def indentAt (column : Nat) (l : Lexer) : Bool × Lexer :=
  if l.indent < column then
    (true, { l with indent := column, indents := l.indent :: l.indents })
  else (false, l)

/-- A block may start only where a key may. -/
def openBlock (start : Token) (l : Lexer) : Except Trouble Lexer :=
  if l.inFlow then .ok l
  else if !l.keyAllowed then .error .invalid
  else match l.indentAt l.cursor.column with
    | (true, l) => .ok (l.emit start)
    | (false, l) => .ok l

def insertAt (place : Nat) (t : Token) (l : Lexer) : Lexer :=
  { l with tokens := l.tokens.insertIdxIfInBounds place t }

/-- A token of `width` characters. -/
def take (width : Nat) (t : Token) (l : Lexer) : Lexer := (l.emit t).moveTo (l.cursor.skip width)

/-- A line that belongs to no block. -/
def topLevel (l : Lexer) : Except Trouble Lexer := do
  let l ← (l.unwindTo (-1)).dropCandidate
  return l.allowKey false

def flowStart (t : Token) (l : Lexer) : Except Trouble Lexer := do
  let l ← l.saveCandidate
  return (({ l with flowLevel := l.flowLevel + 1 }).allowKey true).take 1 t

def flowEnd (t : Token) (l : Lexer) : Except Trouble Lexer := do
  let l ← l.dropCandidate
  return (({ l with flowLevel := l.flowLevel - 1 }).allowKey false).take 1 t

def flowEntry (l : Lexer) : Except Trouble Lexer := do
  let l ← (l.allowKey true).dropCandidate
  return l.take 1 .flowEntry

def blockEntry (l : Lexer) : Except Trouble Lexer := do
  let l ← l.openBlock .blockSequence
  let l ← (l.allowKey true).dropCandidate
  return l.take 1 .blockEntry

def explicitKey (l : Lexer) : Except Trouble Lexer := do
  let l ← l.openBlock .blockMapping
  let l ← (l.allowKey (!l.inFlow)).dropCandidate
  return l.take 1 .key

/-- A colon makes the candidate a key, and opens a block there if one is due. -/
def mappingValue (l : Lexer) : Except Trouble Lexer := do
  match l.candidates.lookup l.flowLevel with
  | some k =>
    let l := { l with candidates := l.candidates.filter fun k => k.1 ≠ l.flowLevel }
    let l := if k.place = l.tokens.size then l.emit .key else l.insertAt k.place .key
    let l := if l.inFlow then l else
      match l.indentAt k.column with
      | (true, l) => l.insertAt k.place .blockMapping
      | (false, l) => l
    return (l.allowKey false).take 1 .value
  | none =>
    let l ← l.openBlock .blockMapping
    let l ← (l.allowKey (!l.inFlow)).dropCandidate
    return l.take 1 .value

/-- An alias, anchor or tag. -/
def property (read : Cursor → Except Trouble (Token × Cursor)) (l : Lexer) :
    Except Trouble Lexer := do
  let l ← l.saveCandidate
  let (t, c) ← read l.cursor
  return ((l.allowKey false).emit t).moveTo c

def quoted (double : Bool) (l : Lexer) : Except Trouble Lexer := do
  let l ← l.saveCandidate
  let (text, c) ← quotedScalar double l.cursor
  return ((l.allowKey false).emit (.scalar (String.ofList text) false)).moveTo c

def block (folded : Bool) (l : Lexer) : Except Trouble Lexer := do
  let l ← (l.allowKey true).dropCandidate
  let (text, c) ← blockScalar folded l.indent l.cursor
  return (l.emit (.scalar (String.ofList text) false)).moveTo c

def plainText (l : Lexer) : Except Trouble Lexer := do
  let l ← l.saveCandidate
  let (text, newLine, c) := plain l.inFlow (l.indent + 1) l.cursor
  return ((l.allowKey newLine).emit (.scalar (String.ofList text) true)).moveTo c

def documentMark (t : Token) (l : Lexer) : Except Trouble Lexer := do
  let l ← l.topLevel
  return l.take 3 t

def directiveLine (l : Lexer) : Except Trouble Lexer := do
  let l ← l.topLevel
  let (t, c) ← directive l.cursor
  return (l.emit t).moveTo c

/-- Marks that start no plain scalar, unless text follows and the mark has no meaning there. -/
def startsPlain (l : Lexer) (x : Char) : Bool :=
  let marks := ['-', '?', ':', ',', '[', ']', '#', '&', '*', '!', '|', '>', '"', '%', '@']
  let isMark := isGap x || marks.contains x || [0x7B, 0x7D, 0x27, 0x60].contains x.toNat
  !isMark || (!l.cursor.endOr isGap 1 && (x = '-' || (!l.inFlow && (x = '?' || x = ':'))))

/-- One token, chosen by its first character. -/
def token (x : Char) (l : Lexer) : Except Trouble Lexer :=
  let c := l.cursor
  let standsAlone := c.endOr isGap 1
  if x = '%' && c.column = 0 then l.directiveLine
  else if x = '-' && c.column = 0 && c.isDocumentMark then l.documentMark .documentStart
  else if x = '.' && c.column = 0 && c.isDocumentMark then l.documentMark .documentEnd
  else if x = '[' then l.flowStart .flowSequence
  else if x.toNat = 0x7B then l.flowStart .flowMapping
  else if x = ']' then l.flowEnd .flowSequenceEnd
  else if x.toNat = 0x7D then l.flowEnd .flowMappingEnd
  else if x = ',' then l.flowEntry
  else if x = '-' && standsAlone then l.blockEntry
  else if x = '?' && (l.inFlow || standsAlone) then l.explicitKey
  else if x = ':' && (l.inFlow || standsAlone) then l.mappingValue
  else if x = '*' then l.property fun c => (anchorName c).map fun (n, c) => (.alias n, c)
  else if x = '&' then l.property fun c => (anchorName c).map fun (n, c) => (.anchor n, c)
  else if x = '!' then l.property tagToken
  else if x = '|' && !l.inFlow then l.block false
  else if x = '>' && !l.inFlow then l.block true
  else if x.toNat = 0x27 then l.quoted false
  else if x = '"' then l.quoted true
  else if l.startsPlain x then l.plainText
  else .error .invalid

/-- Skips to the next token and ends the blocks that it leaves. -/
def toNext (l : Lexer) : Except Trouble Lexer := do
  let l := l.skipBlank (l.cursor.rest.length + 1)
  let l ← l.dropStale
  return l.unwindTo l.cursor.column

/-- The place of the first token that may still turn out to be a key. A reader waits there until the
text has been read far enough to tell. -/
def awaited (l : Lexer) : Nat :=
  l.candidates.foldl (fun place k => min place k.2.place) l.tokens.size

/-- The tokens that were told apart before the text could not be read any further. -/
def giveUp (place : Nat) (trouble : Trouble) (l : Lexer) : List Token :=
  l.tokens.toList.take place ++ [.broken trouble]

/-- Reads one token, and gives up the keys that its end rules out. -/
def step (x : Char) (l : Lexer) : Except Trouble Lexer := do
  let l ← l.token x
  l.dropStale

/-- All tokens; the last one is `broken` where the text cannot be read to its end. -/
def run : Nat → Lexer → List Token
  | 0, l => l.tokens.toList
  | fuel + 1, l =>
    match l.toNext with
    | .error trouble => l.giveUp l.awaited trouble
    | .ok m =>
      match m.cursor.rest with
      | [] =>
        match m.topLevel with
        | .error trouble => l.giveUp l.awaited trouble
        | .ok m => m.tokens.toList
      | x :: _ =>
        match m.step x with
        | .error trouble => l.giveUp l.awaited trouble
        | .ok m => run fuel m

end Lexer

/-- The tokens of a text; a byte order mark may open it. -/
def Token.scan (text : String) : List Token :=
  let cs := text.toList
  if !cs.all isAllowed then [.broken .invalid]
  else
    let c : Cursor := { rest := cs }
    let c := if c.isAt byteOrderMark then c.next else c
    Lexer.run (cs.length + 1) { cursor := c }

end LocalCI.Yaml
