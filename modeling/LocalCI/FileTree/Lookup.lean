import LocalCI.Fault
import LocalCI.FileTree.Basic

/-! Finding what a path names. `lookup` goes the way the operating system goes: every part has to be
there, and links are followed. `resolve` also names paths that are not there: links that exist are
followed, and the rest is taken as it is written. No entry can have a name that is too long, and asking
for one is a fault and not the answer no. -/
namespace LocalCI

/-- Why a path leads nowhere. -/
inductive Unreachable where
  | missing
  | notDirectory
  | loop
  | tooLong
deriving DecidableEq, Repr

def Unreachable.refusal : Unreachable → Refusal
  | .missing => .missing
  | .notDirectory => .notDirectory
  | .loop => .tooManyLinks
  | .tooLong => .nameTooLong

namespace Node

/-- A link is read from the directory that holds it, or from the root if it is absolute. -/
def linkStart (holder : Location) (target : Path) : Location :=
  if target.isAbsolute then [] else holder

/-- The longest name an entry can have, in bytes. -/
def nameLimit : Nat := 255

def isTooLong (name : String) : Bool := nameLimit < name.utf8ByteSize

/-- Goes down part by part and leaves links to `onLink`. -/
def descend (root : Node) (onLink : Location → List String → Except Unreachable Location) :
    Location → List String → Except Unreachable Location
  | here, [] => .ok here
  | here, name :: rest =>
    match root.get? here with
    | none => .error .missing
    | some n =>
      if !n.isDir then .error .notDirectory
      else if name = ".." then descend root onLink here.dropLast rest
      else if isTooLong name then .error .tooLong
      else match n.child? name with
        | none => .error .missing
        | some (.link target) =>
          let t := Path.ofString target
          onLink (linkStart here t) (t.parts ++ rest)
        | some _ => descend root onLink (here ++ [name]) rest

/-- Follows at most so many links. -/
def follow (root : Node) : Nat → Location → List String → Except Unreachable Location
  | 0 => descend root fun _ _ => .error .loop
  | budget + 1 => descend root (follow root budget)

/-- More links than this in one path count as a loop. -/
def linkLimit : Nat := 40

/-- The longest path that can be looked up, in bytes. -/
def pathLimit : Nat := 4095

/-- The place a path names, read from the directory `cwd`, with the last link followed too. -/
def lookup (root : Node) (cwd : Location) (p : Path) : Except Unreachable Location :=
  if pathLimit < p.text.utf8ByteSize then .error .tooLong
  else follow root linkLimit (linkStart cwd p) p.parts

/-- The directory that a location leads to. One that is there without links is itself. -/
def enter (root : Node) (l : Location) : Except Unreachable Location :=
  if ((root.get? l).map isDir).getD false then .ok l
  else match lookup root [] (Path.ofLocation l) with
    | .error why => .error why
    | .ok found =>
      if ((root.get? found).map isDir).getD false then .ok found else .error .notDirectory

/-- What a path names, if anything. Names that are too long cannot be asked for. -/
def find (root : Node) (cwd : Location) (p : Path) : Except Fault (Option Node) :=
  if p.hasNul then .ok none
  else match lookup root cwd p with
    | .ok l => .ok (root.get? l)
    | .error .tooLong => .error (.refused .nameTooLong p.text)
    | .error _ => .ok none

def pathExists (root : Node) (cwd : Location) (p : Path) : Except Fault Bool :=
  (find root cwd p).map Option.isSome

def pathIsDir (root : Node) (cwd : Location) (p : Path) : Except Fault Bool :=
  (find root cwd p).map fun n => (n.map isDir).getD false

/-- How far resolution got; it is cut short by a link that leads back to itself. -/
structure Resolved where
  location : Location
  complete : Bool
deriving DecidableEq, Repr

/-- Takes one more part. Once cut short, the rest is kept as written. -/
def resolvePart (root : Node) (expand : Location → Location → Path → Resolved)
    (r : Resolved) (name : String) : Resolved :=
  if !r.complete then { r with location := r.location ++ [name] }
  else if name = ".." then { r with location := r.location.dropLast }
  else
    let next := r.location ++ [name]
    match root.get? next with
    | some (.link target) => expand next r.location (Path.ofString target)
    | _ => ⟨next, true⟩

/-- `opened` are the links being resolved at the moment. -/
def resolveFrom (root : Node) : Nat → List Location → Location → List String → Resolved
  | 0, _, here, parts => ⟨here ++ parts, false⟩
  | fuel + 1, opened, here, parts =>
    parts.foldl (resolvePart root fun link holder target =>
      if opened.contains link then ⟨link, false⟩
      else resolveFrom root fuel (link :: opened) (linkStart holder target) target.parts)
      ⟨here, true⟩

/-- Takes double dots literally. -/
def collapse (parts : List String) : List String :=
  parts.foldl (fun done part => if part = ".." then done.dropLast else done ++ [part]) []

/-- The absolute path without links and dots that a path stands for. -/
def resolve (root : Node) (cwd : Location) (p : Path) : Except Fault Location :=
  if p.hasNul then .error .nulInPath
  else
    let r := resolveFrom root (root.linkCount + 1) [] (linkStart cwd p) p.parts
    if r.complete then .ok r.location
    else
      let l := collapse r.location
      match follow root linkLimit [] l with
      | .error .loop => .error (.symlinkLoop (Location.text l))
      | _ => .ok l

end Node
end LocalCI
