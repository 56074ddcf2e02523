import LocalCI.FileTree.Lookup

/-! Copies of trees in which every link is replaced by what it leads to, and nothing named `.git`
is kept. What has a path that is too long is not copied. -/
namespace LocalCI.Node

/-- A name that no copy holds. -/
def repositoryName : String := ".git"

/-- A copy, or nothing if it could not be made, and what could not be copied. -/
structure Copied (α : Type) where
  result : α
  failures : List CopyFailure

def unreachableText (why : Unreachable) (path : String) : String :=
  why.refusal.message ++ ": " ++ Text.quoted path

/-- The path that the system refuses, when an entry of that name is copied from one path to another. -/
def overlong? (name source target : String) : Option String :=
  if isTooLong name || pathLimit < source.utf8ByteSize then some source
  else if pathLimit < target.utf8ByteSize then some target
  else none

/-- The copy of an entry, unless one of the paths is refused. -/
def copyUnlessLong (name source target : String) (copied : Copied (Option Node)) :
    Copied (Option Node) :=
  match overlong? name source target with
  | some refused => ⟨none, [⟨source, target, unreachableText .tooLong refused⟩]⟩
  | none => copied

mutual

/-- Copies `source` to `target`; `path` leads to it, and `onLink` copies what a link on that path leads
to. -/
def copyWith (onLink : List String → String → String → Copied (Option Node))
    (path : List String) (source target : String) : Node → Copied (Option Node)
  | .file c => ⟨some (.file c), []⟩
  | .link _ => onLink path source target
  | .dir entries =>
    let copied := copyEntriesWith onLink path source target entries
    ⟨some (.dir copied.result), copied.failures⟩

/-- Copies the entries of one directory; `path` leads to that directory. -/
def copyEntriesWith (onLink : List String → String → String → Copied (Option Node))
    (path : List String) (source target : String) :
    List (String × Node) → Copied (List (String × Node))
  | [] => ⟨[], []⟩
  | (name, n) :: rest =>
    let others := copyEntriesWith onLink path source target rest
    if name = repositoryName then others
    else
      let source := source ++ "/" ++ name
      let target := target ++ "/" ++ name
      let copied := copyUnlessLong name source target
        (copyWith onLink (path ++ [name]) source target n)
      ⟨(copied.result.map fun m => (name, m)).toList ++ others.result,
        copied.failures ++ others.failures⟩

end

/-- Links inside links are followed so many times. Each is looked up on its whole path from the place
`base`, so that the links before it count too. -/
def copyFollowing (root : Node) (base : Location) :
    Nat → List String → String → String → Node → Copied (Option Node)
  | 0 => copyWith fun _ source target =>
    ⟨none, [⟨source, target, unreachableText .loop source⟩]⟩
  | budget + 1 => copyWith fun path source target =>
    match follow root linkLimit base path with
    | .error why => ⟨none, [⟨source, target, unreachableText why source⟩]⟩
    | .ok l =>
      match root.get? l with
      | none => ⟨none, [⟨source, target, unreachableText .missing source⟩]⟩
      | some n => copyFollowing root base budget path source target n

/-- A copy of the directory at `base`, to which `source` leads, for `target`. -/
def copyOf (root : Node) (base source target : Location) (n : Node) : Copied (Option Node) :=
  copyFollowing root base linkLimit [] (Location.text source) (Location.text target) n

/-- Whether a copy would never end: the place it is put at lies deep inside of what is copied, so that
the copy finds itself on its way. Directly below the source it is read before anything is in it. -/
def holdsItself (l target : Location) : Bool :=
  let below := target.drop l.length
  l.isPrefixOf target && 1 < below.length && !below.contains repositoryName

/-- A copy into itself goes on until its paths are too long. -/
def endless (l target : Location) : CopyFailure :=
  ⟨Location.text l, Location.text target, unreachableText .tooLong (Location.text target)⟩

end LocalCI.Node
