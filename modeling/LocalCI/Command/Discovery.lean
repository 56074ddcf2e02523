import LocalCI.Report
import LocalCI.Workflow.File

/-! Finding the workflow file a command is about. -/
namespace LocalCI.Command

def scriptName : String := "actrun_workflow.py"

/-- Entries of the directory of workflows whose name says they are YAML. -/
def yamlFiles (m : Machine) (dir : Path) : Except Fault (List Path) := do
  match ← m.files.find m.cwd dir with
  | some (.dir entries) =>
    return (entries.map fun e => dir.child e.1).filter fun p =>
      Workflow.yamlSuffixes.contains p.suffix
  | _ => return []

/-- All workflow files below a directory, sorted by the parts of their paths. -/
def workflowFiles (m : Machine) (root : Path) : Except Fault (List Path) := do
  let script := root.child scriptName
  let yaml ← yamlFiles m ((root.child ".github").child "workflows")
  let found := yaml ++ if ← m.pathExists script then [script] else []
  return found.mergeSort fun p q => !decide (q.parts < p.parts)

def notFound (given : String) : List Line :=
  Report.error "Workflow file not found" s!"Could not find workflow file: {given}" []
    "Specify an existing file:\n  actrun run --workflow .github/workflows/docs.yml"

def noneFound : List Line :=
  Report.error "No workflow file found" "Could not find any workflow files."
    ["Looked for:", "  .github/workflows/*.yml", s!"  {scriptName}"]
    "Specify a workflow explicitly:\n  actrun run --workflow my_workflow.yml"

def severalFound (files : List Path) : List Line :=
  Report.error "Multiple workflow files found"
    "Found multiple workflow files. Please specify which one to use:"
    ["\n".intercalate (files.map fun f => "  " ++ f.text)]
    "Specify a workflow explicitly:\n  actrun run --workflow .github/workflows/docs.yml"

/-- The workflow file, or what to say if there is not exactly one. A file that is named has to exist. -/
def discover (m : Machine) (given : Option String) (root : Path) :
    Except Fault (Except (List Line) Path) := do
  match given.filter (· ≠ "") with
  | some name =>
    let p := Path.ofString name
    return if ← m.pathExists p then .ok p else .error (notFound name)
  | none =>
    match ← workflowFiles m root with
    | [] => return .error noneFound
    | [p] => return .ok p
    | several => return .error (severalFound several)

end LocalCI.Command
