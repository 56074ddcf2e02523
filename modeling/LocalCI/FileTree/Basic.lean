import LocalCI.Path
import LocalCI.Text.Utf8

/-! A tree of files, links and directories. Every entry lies in a directory by construction. -/
namespace LocalCI

inductive Content where
  | text (s : String)
  /-- Bytes that are no UTF-8. -/
  | binary (bytes : List UInt8)
deriving DecidableEq, Repr

inductive Node where
  | file (content : Content)
  | link (target : String)
  | dir (entries : List (String × Node))
deriving Repr

namespace Content

def ofBytes (bytes : List UInt8) : Content :=
  match Text.decode bytes with
  | .ok s => .text s
  | .error _ => .binary bytes

end Content

namespace Node

def emptyDir : Node := .dir []

def isDir : Node → Bool
  | .dir _ => true
  | _ => false

def child? : Node → String → Option Node
  | .dir entries, name => (entries.find? fun e => e.1 = name).map Prod.snd
  | _, _ => none

/-- What is in a directory. -/
def entries : Node → List (String × Node)
  | .dir entries => entries
  | _ => []

/-- The names in a directory. -/
def names (n : Node) : List String := n.entries.map Prod.fst

/-- The entry at a location; links on the way are not followed. -/
def get? : Node → Location → Option Node
  | n, [] => some n
  | n, name :: rest => (n.child? name).bind (get? · rest)

/-- What is in the directory at a location. -/
def entriesAt (root : Node) (l : Location) : List (String × Node) :=
  ((root.get? l).map entries).getD []

/-- Changes, adds or removes the entry of one name. What is removed is not there a second time. -/
def alterEntry (name : String) (f : Option Node → Option Node) :
    List (String × Node) → List (String × Node)
  | [] => ((f none).map fun n => (name, n)).toList
  | e :: rest =>
    if e.1 = name then
      match f (some e.2) with
      | some n => (name, n) :: rest
      | none => rest.filter fun e => e.1 ≠ name
    else e :: alterEntry name f rest

/-- Changes, adds or removes the entry at a location whose directory exists. -/
def alter (f : Option Node → Option Node) : Location → Node → Node
  | [], n => (f (some n)).getD n
  | [name], .dir entries => .dir (alterEntry name f entries)
  | name :: rest, .dir entries => .dir (alterEntry name (Option.map (alter f rest)) entries)
  | _, n => n

def put (node : Node) (l : Location) (root : Node) : Node := root.alter (fun _ => some node) l

def remove (l : Location) (root : Node) : Node := root.alter (fun _ => none) l

/-- Makes the directories on the way to a location, and one there. -/
def ensureDir : Location → Node → Node
  | [], n => n
  | name :: rest, .dir entries =>
    .dir (alterEntry name (fun n? => some (ensureDir rest (n?.getD emptyDir))) entries)
  | _, n => n

/-- An entry without what lies below it. -/
inductive Entry where
  | dir
  | file (content : Content)
  | link (target : String)
deriving DecidableEq, Repr

def entry : Node → Entry
  | .dir _ => .dir
  | .file c => .file c
  | .link t => .link t

mutual

/-- Every entry below a directory, with its path from there. Links are not followed. -/
def listing (base : List String) : Node → List (List String × Entry)
  | .dir entries => listingEntries base entries
  | _ => []

def listingEntries (base : List String) : List (String × Node) → List (List String × Entry)
  | [] => []
  | (name, n) :: rest =>
    let here := base ++ [name]
    (here, n.entry) :: (listing here n ++ listingEntries base rest)

end

mutual

def linkCount : Node → Nat
  | .file _ => 0
  | .link _ => 1
  | .dir entries => linkCountEntries entries

def linkCountEntries : List (String × Node) → Nat
  | [] => 0
  | (_, n) :: rest => linkCount n + linkCountEntries rest

end

end Node
end LocalCI
