import LocalCI.Yaml.Meaning
import LocalCI.Yaml.Node

/-! What a document's nodes are made into. A scalar is made when a collection around it is; a
collection is only started then, and gets its parts after all those that were started before it. So
the first fault to be found is the one nearest to the root. -/
namespace LocalCI.Yaml

/-- A scalar with its origin: the node that it was made of, but none for the not-a-number that has a
word of its own. -/
structure Atom where
  scalar : Scalar
  origin : Option Nat
deriving DecidableEq, Repr

namespace Atom

def ofNode (id : Nat) (tag : Tag) (text : String) : Except Trouble Atom := do
  return ⟨← scalarOf tag text, if tag = .float && isNanWord text then none else some id⟩

/-- Not-a-numbers are the same key if they have the same origin. -/
def sameKey (a b : Atom) : Bool := a.scalar.sameKey b.scalar || a == b

end Atom

/-- What was made of a node: a scalar, or the collection of that number. -/
inductive Part where
  | scalar (a : Atom)
  | collection (number : Nat)
deriving Repr

inductive Collection where
  | list (items : List Part)
  | map (entries : List (Scalar × Part))
  | set (elements : List Scalar)
  | pairs (items : List (Part × Part))
deriving Repr

structure Building where
  nodes : Array Node
  made : List (Nat × Part) := []
  /-- The nodes of the collections that were started, by their numbers. -/
  started : Array Nat := #[]
  /-- The first of these collections, with their parts. -/
  finished : Array Collection := #[]

abbrev Builder := StateT Building (Except Trouble)

namespace Builder

def nodeAt (id : Nat) : Builder Node := do
  match (← get).nodes[id]? with
  | some n => return n
  | none => throw .invalid

def entriesAt (id : Nat) : Builder (List (Nat × Nat)) := do
  match ← nodeAt id with
  | .mapping _ entries => return entries
  | _ => throw .invalid

def setNode (id : Nat) (n : Node) : Builder Unit :=
  modify fun b => { b with nodes := b.nodes.setIfInBounds id n }

def hasTag (tag : Tag) (id : Nat) : Builder Bool := do return (← nodeAt id).tag = tag

/-- Splits a list at the first element that passes a test. -/
def splitAtFirst {α : Type} (test : α → Builder Bool) :
    List α → Builder (Option (List α × α × List α))
  | [] => return none
  | a :: rest => do
    if ← test a then return some ([], a, rest)
    return (← splitAtFirst test rest).map fun (before, found, rest) => (a :: before, found, rest)

/-- The text of a scalar. A mapping has the text of the value under its key `=`. -/
def textOf : Nat → Nat → Builder String
  | 0, _ => throw (.fault .tooDeep)
  | fuel + 1, id => do
    match ← nodeAt id with
    | .scalar _ text => return text
    | .sequence _ _ => throw .invalid
    | .mapping _ entries =>
      match ← splitAtFirst (fun e => hasTag .standard e.1) entries with
      | some (_, (_, value), _) => textOf fuel value
      | none => throw .invalid

/-- A timestamp has to be written as a scalar. -/
def checkTimestamp (id : Nat) : Builder Unit := do
  match ← nodeAt id with
  | .mapping .timestamp _ => throw (.fault .timestampNotText)
  | _ => return ()

/-- Makes a node, unless it is made already. -/
def make (id : Nat) : Builder Part := do
  let b ← get
  match b.made.lookup id with
  | some part => return part
  | none =>
    let tag := (← nodeAt id).tag
    if tag.isCollection then
      let part := Part.collection b.started.size
      set { b with made := (id, part) :: b.made, started := b.started.push id }
      return part
    else
      if !tag.isScalar then throw .invalid
      let text ← textOf (b.nodes.size + 1) id
      checkTimestamp id
      let part := Part.scalar (← Atom.ofNode id tag text)
      modify fun b => { b with made := (id, part) :: b.made }
      return part

/-- Puts the entries of other mappings in front of a mapping's own: those of the mapping under each
key `<<`, or of a list of mappings with the last of them first. The key `=` becomes a text. -/
def flatten : Nat → Nat → List (Nat × Nat) → Builder Unit
  | 0, _, _ => return ()
  | fuel + 1, id, merged => do
    let n ← nodeAt id
    let entries ← entriesAt id
    match ← splitAtFirst (fun e => hasTag .merge e.1) entries with
    | none =>
      for (key, _) in entries do
        if ← hasTag .standard key then setNode key ((← nodeAt key).retag .text)
      setNode id (.mapping n.tag (merged ++ entries))
    | some (before, (_, source), after) =>
      setNode id (.mapping n.tag (before ++ after))
      match ← nodeAt source with
      | .scalar _ _ => throw .invalid
      | .mapping _ _ =>
        flatten fuel source []
        flatten fuel id (merged ++ (← entriesAt source))
      | .sequence _ items =>
        let sources ← items.mapM fun item => do
          let _ ← entriesAt item
          flatten fuel item []
          entriesAt item
        flatten fuel id (merged ++ sources.reverse.flatten)

/-- How many entries could be taken for merges. -/
def entryCount (nodes : Array Node) : Nat :=
  nodes.foldl (fun n node => match node with | .mapping _ entries => n + entries.length | _ => n) 0

/-- A key has to be a scalar. -/
def makeKey (id : Nat) : Builder Atom := do
  match ← make id with
  | .scalar a => return a
  | .collection _ => throw .invalid

/-- Replaces the part under the key, or adds the key at the end. -/
def putEntry (key : Atom) (part : Part) : List (Atom × Part) → List (Atom × Part)
  | [] => [(key, part)]
  | (k, p) :: rest =>
    if k.sameKey key then (k, part) :: rest else (k, p) :: putEntry key part rest

def makeEntries (id : Nat) : Builder (List (Scalar × Part)) := do
  let _ ← entriesAt id
  flatten (entryCount (← get).nodes + 1) id []
  let made ← (← entriesAt id).foldlM (fun made (key, value) => do
    let key ← makeKey key
    let value ← make value
    return putEntry key value made) []
  return made.map fun (key, part) => (key.scalar, part)

def makePair (id : Nat) : Builder (Part × Part) := do
  match ← entriesAt id with
  | [(key, value)] => return (← make key, ← make value)
  | _ => throw .invalid

def itemsAt (id : Nat) : Builder (List Nat) := do
  match ← nodeAt id with
  | .sequence _ items => return items
  | _ => throw .invalid

/-- The parts of the collection that a node was made into. -/
def contents (id : Nat) : Builder Collection := do
  match (← nodeAt id).tag with
  | .mapping => return .map (← makeEntries id)
  | .set => return .set ((← makeEntries id).map Prod.fst)
  | .pairs => return .pairs (← (← itemsAt id).mapM makePair)
  | _ => return .list (← (← itemsAt id).mapM make)

/-- Gives the collections their parts in the order in which they were started. -/
def finish : Nat → Builder Unit
  | 0 => return ()
  | fuel + 1 => do
    let b ← get
    match b.started[b.finished.size]? with
    | none => return ()
    | some id =>
      let c ← contents id
      modify fun b => { b with finished := b.finished.push c }
      finish fuel

end Builder

/-- The collections of a document, and what its root is made into. -/
def Document.build (d : Document) : Except Trouble (Part × Array Collection) := do
  let build : Builder Part := do
    let root ← Builder.make d.root
    Builder.finish (d.nodes.size + 1)
    return root
  let (root, b) ← build.run { nodes := d.nodes }
  return (root, b.finished)

end LocalCI.Yaml
