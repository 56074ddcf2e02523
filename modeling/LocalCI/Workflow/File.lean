import LocalCI.Machine
import LocalCI.Provision

/-! Workflow files: YAML, or a script that defines a workflow. -/
namespace LocalCI.Workflow

def yamlSuffixes : List String := [".yml", ".yaml"]

/-- The text of a file, with line feeds as its only line breaks. -/
def readText (l : Location) : Act String := do
  match (← get).files.get? l with
  | some (.file (.text s)) => return String.ofList (Text.unifyBreaks s.toList)
  | some (.file (.binary bytes)) =>
    match Text.decode bytes with
    | .ok s => return String.ofList (Text.unifyBreaks s.toList)
    | .error e => throw (.undecodable e)
  | some _ => throw (.refused .isDirectory (Location.text l))
  | none => throw (.refused .missing (Location.text l))

/-- The workflow of a document, with the machine's reader and its room for texts. -/
def ofYaml (registry : Registry) (file : Path) (m : Machine) (text : String) : Except Fault Workflow :=
  match m.readYaml text with
  | .ok data => Workflow.read m.room registry file.stem data
  | .error .invalid => .error (.workflow (.invalidYaml file.name))
  | .error (.fault f) => .error f

/-- What a script in a place defines. -/
def definitions (m : Machine) (l : Location) : Except Fault (List (String × Exported)) :=
  match m.files.get? l with
  | some n => m.interpret n
  | none => .error (.refused .missing (Location.text l))

/-- Executes a workflow script and takes the workflow that it defines. -/
def ofScript (l : Location) : Act Workflow := do
  let file := Path.ofLocation l
  modify fun m =>
    { m with executed := m.executed ++ [(file.text, "actrun_workflow_" ++ file.stem)] }
  let exported ← Attempt.ofExcept (definitions (← get) l)
  Attempt.ofExcept (Exported.select file.stem exported)

/-- Loads the workflow in a file. A workflow without a name is called after its file. -/
def load (registry : Registry) (p : Path) : Act Workflow := do
  let m ← get
  let l ← Act.resolve (← Attempt.ofExcept (p.expandHome m.env m.accounts))
  let file := Path.ofLocation l
  if !(← Act.pathExists file) then throw (.workflowMissing file.text)
  if yamlSuffixes.contains file.suffix then
    Attempt.ofExcept (ofYaml registry file m (← readText l))
  else if file.suffix = ".py" then ofScript l
  else throw (.workflow (.unknownSuffix file.name))

end LocalCI.Workflow
