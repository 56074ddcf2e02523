import LocalCI.Yaml.Tag
import LocalCI.Yaml.Token

/-! Documents as nodes that name each other by number, so that one node may stand in several places
and even inside itself. -/
namespace LocalCI.Yaml

inductive Node where
  | scalar (tag : Tag) (text : String)
  | sequence (tag : Tag) (items : List Nat)
  | mapping (tag : Tag) (entries : List (Nat × Nat))
deriving Repr

namespace Node

def tag : Node → Tag
  | .scalar tag _ => tag
  | .sequence tag _ => tag
  | .mapping tag _ => tag

def retag (tag : Tag) : Node → Node
  | .scalar _ text => .scalar tag text
  | .sequence _ items => .sequence tag items
  | .mapping _ entries => .mapping tag entries

/-- A node that is not written. -/
def absent : Node := .scalar .null ""

end Node

structure Document where
  nodes : Array Node
  root : Nat
deriving Repr

/-- Nodes are nested at most so deep. -/
def depthLimit : Nat := 486

/-- Tokens still to read, the tag handles in force, the anchored nodes, and all nodes started. -/
structure Reading where
  tokens : List Token
  handles : List (String × String) := [("!", "!"), ("!!", Tag.space)]
  anchors : List (String × Nat) := []
  nodes : Array Node := #[]

abbrev Reader := StateT Reading (Except Trouble)

namespace Reader

/-- Looks at the next token; nothing at the end. -/
def peek : Reader (Option Token) := do
  match (← get).tokens with
  | .broken trouble :: _ => throw trouble
  | t :: _ => return some t
  | [] => return none

def skip : Reader Unit := modify fun r => { r with tokens := r.tokens.tail }

/-- A new node. An anchor may not be used twice. -/
def start (anchor : Option String) (n : Node) : Reader Nat := do
  let r ← get
  let number := r.nodes.size
  match anchor with
  | none => set { r with nodes := r.nodes.push n }
  | some name =>
    if (r.anchors.lookup name).isSome then throw .invalid
    set { r with nodes := r.nodes.push n, anchors := (name, number) :: r.anchors }
  return number

def absent : Reader Nat := start none .absent

/-- Gives a node its parts. -/
def complete (number : Nat) (n : Node) : Reader Nat := do
  modify fun r => { r with nodes := r.nodes.setIfInBounds number n }
  return number

def aliased (name : String) : Reader Nat := do
  match (← get).anchors.lookup name with
  | some number => return number
  | none => throw .invalid

/-- The full name of a tag; a lone exclamation mark names none. -/
def tagName (handle : Option String) (suffix : String) : Reader String := do
  match handle with
  | none => return suffix
  | some h =>
    match (← get).handles.lookup h with
    | some expansion => return expansion ++ suffix
    | none => throw .invalid

/-- Anchor and tag of a node, in either order. -/
def properties : Reader (Option String × Option String) := do
  match ← peek with
  | some (.anchor a) =>
    skip
    match ← peek with
    | some (.tag h s) =>
      skip
      return (some a, some (← tagName h s))
    | _ => return (some a, none)
  | some (.tag h s) =>
    skip
    match ← peek with
    | some (.anchor a) =>
      skip
      return (some a, some (← tagName h s))
    | _ => return (none, some (← tagName h s))
  | _ => return (none, none)

def tagOr (usual : Tag) : Option String → Tag
  | none => usual
  | some "!" => usual
  | some name => .ofName name

def isMapStop : Option Token → Bool
  | some .key => true
  | some .value => true
  | some .blockEnd => true
  | _ => false

def isEntryStop : Option Token → Bool
  | some .blockEntry => true
  | some .blockEnd => true
  | _ => false

def isFlowStop (finish : Token → Bool) : Option Token → Bool
  | some .flowEntry => true
  | some t => finish t
  | none => false

def isValueToken : Option Token → Bool
  | some .value => true
  | _ => false

def endsSequence : Token → Bool
  | .flowSequenceEnd => true
  | _ => false

def endsMapping : Token → Bool
  | .flowMappingEnd => true
  | _ => false

/-- A sequence is started before its items are read, so that they can name it. -/
def sequence (anchor tag : Option String) (items : Reader (List Nat)) : Reader Nat := do
  let tag := tagOr .sequence tag
  let number ← start anchor (.sequence tag [])
  complete number (.sequence tag (← items))

def mapping (anchor tag : Option String) (entries : Reader (List (Nat × Nat))) : Reader Nat := do
  let tag := tagOr .mapping tag
  let number ← start anchor (.mapping tag [])
  complete number (.mapping tag (← entries))

/-- Between the items of a flow collection stands a comma; one more may stand before the end. -/
def flowComma (first : Bool) : Reader Unit := do
  if !first then
    match ← peek with
    | some .flowEntry => skip
    | _ => throw .invalid

mutual

/-- A node, inside of `depth` others. Block collections may come only in block context, and a
sequence without indentation of its own only as part of a block mapping. -/
def node : Nat → Nat → Bool → Bool → Reader Nat
  | 0, _, _, _ => throw .invalid
  | fuel + 1, depth, inBlock, unindented => do
    if depthLimit ≤ depth then throw (.fault .tooDeep)
    match ← peek with
    | some (.alias name) =>
      skip
      aliased name
    | _ =>
      let (anchor, tag) ← properties
      content fuel (depth + 1) inBlock unindented anchor tag

def content : Nat → Nat → Bool → Bool → Option String → Option String → Reader Nat
  | 0, _, _, _, _, _ => throw .invalid
  | fuel + 1, depth, inBlock, unindented, anchor, tag => do
    match ← peek with
    | some (.scalar text isPlain) =>
      skip
      let tag := match tag with
        | none => if isPlain then Tag.ofPlain text else .text
        | some "!" => Tag.ofPlain text
        | some name => Tag.ofName name
      start anchor (.scalar tag text)
    | some .flowSequence =>
      skip
      sequence anchor tag (flowItems fuel depth true)
    | some .flowMapping =>
      skip
      mapping anchor tag (flowEntries fuel depth true)
    | token =>
      match token, unindented, inBlock with
      | some .blockEntry, true, _ => sequence anchor tag (unindentedItems fuel depth)
      | some .blockSequence, _, true =>
        skip
        sequence anchor tag (blockItems fuel depth)
      | some .blockMapping, _, true =>
        skip
        mapping anchor tag (blockEntries fuel depth)
      | _, _, _ =>
        if anchor.isNone && tag.isNone then throw .invalid
        start anchor (.scalar (tagOr .null tag) "")

def blockItems : Nat → Nat → Reader (List Nat)
  | 0, _ => throw .invalid
  | fuel + 1, depth => do
    match ← peek with
    | some .blockEntry =>
      skip
      let item ← if isEntryStop (← peek) then absent else node fuel depth true false
      return item :: (← blockItems fuel depth)
    | some .blockEnd =>
      skip
      return []
    | _ => throw .invalid

def unindentedItems : Nat → Nat → Reader (List Nat)
  | 0, _ => throw .invalid
  | fuel + 1, depth => do
    match ← peek with
    | some .blockEntry =>
      skip
      let next ← peek
      let item ←
        if isEntryStop next || isMapStop next then absent else node fuel depth true false
      return item :: (← unindentedItems fuel depth)
    | _ => return []

def blockEntries : Nat → Nat → Reader (List (Nat × Nat))
  | 0, _ => throw .invalid
  | fuel + 1, depth => do
    match ← peek with
    | some .key =>
      skip
      let key ← if isMapStop (← peek) then absent else node fuel depth true true
      let value ← blockValue fuel depth
      return (key, value) :: (← blockEntries fuel depth)
    | some .blockEnd =>
      skip
      return []
    | _ => throw .invalid

def blockValue : Nat → Nat → Reader Nat
  | 0, _ => throw .invalid
  | fuel + 1, depth => do
    if !isValueToken (← peek) then return ← absent
    skip
    if isMapStop (← peek) then return ← absent
    node fuel depth true true

def flowItems : Nat → Nat → Bool → Reader (List Nat)
  | 0, _, _ => throw .invalid
  | fuel + 1, depth, first => do
    match ← peek with
    | some .flowSequenceEnd =>
      skip
      return []
    | _ =>
      flowComma first
      match ← peek with
      | some .flowSequenceEnd =>
        skip
        return []
      | some .key =>
        let item ← mapping none none (do return [← flowPair fuel (depth + 1) endsSequence])
        return item :: (← flowItems fuel depth false)
      | _ =>
        let item ← node fuel depth false false
        return item :: (← flowItems fuel depth false)

def flowEntries : Nat → Nat → Bool → Reader (List (Nat × Nat))
  | 0, _, _ => throw .invalid
  | fuel + 1, depth, first => do
    match ← peek with
    | some .flowMappingEnd =>
      skip
      return []
    | _ =>
      flowComma first
      match ← peek with
      | some .flowMappingEnd =>
        skip
        return []
      | some .key =>
        let entry ← flowPair fuel depth endsMapping
        return entry :: (← flowEntries fuel depth false)
      | _ =>
        let key ← node fuel depth false false
        let value ← absent
        return (key, value) :: (← flowEntries fuel depth false)

/-- A key and its value, from the key's mark on; either may be absent. -/
def flowPair : Nat → Nat → (Token → Bool) → Reader (Nat × Nat)
  | 0, _, _ => throw .invalid
  | fuel + 1, depth, finish => do
    skip
    let next ← peek
    let key ←
      if isValueToken next || isFlowStop finish next then absent else node fuel depth false false
    if !isValueToken (← peek) then return (key, ← absent)
    skip
    let value ← if isFlowStop finish (← peek) then absent else node fuel depth false false
    return (key, value)

end

/-- Directives in front of a document: a version at most once, and each handle at most once. -/
def directives : Nat → Bool → List String → Reader Unit
  | 0, _, _ => throw .invalid
  | fuel + 1, versioned, named => do
    match ← peek with
    | some (.version major) =>
      if versioned || major ≠ 1 then throw .invalid
      skip
      directives fuel true named
    | some (.handle name expansion) =>
      if named.contains name then throw .invalid
      skip
      modify fun r => { r with handles := (name, expansion) :: r.handles }
      directives fuel versioned (name :: named)
    | some .reserved =>
      skip
      directives fuel versioned named
    | _ => return ()

def skipDocumentEnds : Nat → Reader Unit
  | 0 => return ()
  | fuel + 1 => do
    match ← peek with
    | some .documentEnd =>
      skip
      skipDocumentEnds fuel
    | _ => return ()

/-- Whether a token may open the head of a document. -/
def isHead : Option Token → Bool
  | some (.version _) | some (.handle _ _) | some .reserved | some .documentStart => true
  | _ => false

/-- Directives and the mark that starts a document. -/
def head (fuel : Nat) : Reader Unit := do
  directives fuel false []
  match ← peek with
  | some .documentStart => skip
  | _ => throw .invalid

/-- One document and nothing after it; an empty text has none. -/
def document (fuel : Nat) : Reader (Option Nat) := do
  match ← peek with
  | none => return none
  | token =>
    let root ←
      if isHead token then do
        head fuel
        match ← peek with
        | none | some .documentEnd => absent
        | token => if isHead token then absent else node fuel 0 true false
      else node fuel 0 true false
    skipDocumentEnds fuel
    match ← peek with
    | none => return some root
    | some _ =>
      head fuel
      throw .invalid

end Reader

/-- The one document of a text. -/
def Document.read? (text : String) : Except Trouble (Option Document) := do
  let tokens := Token.scan text
  let (root, r) ← (Reader.document (4 * tokens.length + 8)).run { tokens := tokens }
  return root.map fun root => ⟨r.nodes, root⟩

end LocalCI.Yaml
