import LocalCI.FileTree.Lookup

/-! Writing entries below a directory. Directories on the way are made, and links on the way are
followed; a file is written through a link that stands in its place. -/
namespace LocalCI.Node

def resolveD (root : Node) (base : Location) (p : Path) : Location :=
  match resolve root base p with
  | .ok l => l
  | .error _ => base ++ p.parts

def write (root : Node) (base : Location) (path : String) (e : Entry) : Node :=
  let p := Path.ofString path
  let full := resolveD root base p
  match e with
  | .dir => ensureDir full root
  | .file c => put (.file c) full (ensureDir full.dropLast root)
  | .link target =>
    let holder := resolveD root base { p with parts := p.parts.dropLast }
    put (.link target) (holder ++ [p.name]) (ensureDir holder root)

def writeAll (root : Node) (base : Location) (entries : List (String × Entry)) : Node :=
  entries.foldl (fun root (path, e) => root.write base path e) root

end LocalCI.Node
