import LocalCI.Text.Integer
import LocalCI.Text.Unencodable
import LocalCI.Text.Utf8
import LocalCI.Value.Text

/-! Everything that can go wrong, by cause. The wording of each cause is in its `message`, and the
word that names its kind in reports is in `Fault.kind`. -/
namespace LocalCI

/-- Why a workflow file or definition is refused. -/
inductive WorkflowError where
  | duplicateNames (names : List String)
  | unknownNeed (job need : String) (known : List String)
  | cycle (stuck : List String)
  | unsupportedAction (uses : String) (known : List String)
  | noTriggers
  | triggersNotReadable
  | notList (what typeName : String)
  | notMapping (what : String)
  | jobNotMapping (job : String)
  | stepsNotList (job : String)
  | usesOrRun (place : String)
  | stepAfterDeploy (place : String)
  | secondToolchain (place job : String)
  | noFolder (uses : String)
  | rootNotMapping
  | noJobs
  | invalidYaml (file : String)
  | unknownSuffix (file : String)
  | noDefinition
  /-- Reported by an action or a process in its own words. -/
  | reported (text : String)
deriving DecidableEq, Repr

def WorkflowError.message : WorkflowError → String
  | .duplicateNames names => "Duplicate job names found: " ++ Text.quotedList names
  | .unknownNeed job need known =>
    s!"Job '{job}' needs missing job '{need}'. Known jobs: " ++ Text.quotedList known
  | .cycle stuck => "Job dependencies form a cycle. Stuck jobs: " ++ Text.quotedList stuck
  | .unsupportedAction uses known =>
    "Unsupported action " ++ Text.quoted uses ++ ". Known actions: " ++ Text.quotedList known
  | .noTriggers => "Workflow has no 'on' section"
  | .triggersNotReadable => "'on' must be a string, a list or a mapping"
  | .notList what typeName => s!"{what} must be a string or a list, got {typeName}"
  | .notMapping what => s!"{what} must be a mapping"
  | .jobNotMapping job => s!"Job '{job}' must be a mapping"
  | .stepsNotList job => s!"Job '{job}': 'steps' must be a list"
  | .usesOrRun place => s!"{place} needs exactly one of 'uses' or 'run'"
  | .stepAfterDeploy place => s!"{place}: no step may follow the deploy step"
  | .secondToolchain place job => s!"{place}: job '{job}' already selects a toolchain"
  | .noFolder uses => s!"{uses}: 'folder' is required"
  | .rootNotMapping => "Workflow root must be a mapping"
  | .noJobs => "Workflow must define at least one job under 'jobs'"
  | .invalidYaml file => s!"Invalid YAML in {file}"
  | .unknownSuffix file => s!"Workflow must be a .py, .yml or .yaml file, got: {file}"
  | .noDefinition =>
    "Workflow must return/define a Workflow or a List[Job]. " ++
    "Define workflow() -> Workflow, WORKFLOW = wf(...) or JOBS = [Job, ...]."
  | .reported text => text

/-- Why a setting cannot be used. -/
inductive ConfigError where
  | notInteger (name raw : String)
  | negative (name : String) (value : Int)
deriving DecidableEq, Repr

def ConfigError.message : ConfigError → String
  | .notInteger name raw => s!"{name} must be an integer, got " ++ Text.quoted raw
  | .negative name value => s!"{name} must not be negative, got {value}"

/-- A toolchain that could not be installed or selected. -/
structure ProvisionError where
  toolchain : String
  channel : String
  reason : String
  details : Entries := []
deriving Repr

def ProvisionError.message (e : ProvisionError) : String :=
  "\n".intercalate
    (s!"toolchain {e.toolchain}@{e.channel} unavailable: {e.reason}" ::
      e.details.map fun (key, v) => key.toText ++ "=" ++ v.toText)

/-- A deployment that failed. -/
structure PublishError where
  folder : String
  branch : String
  reason : String
deriving DecidableEq, Repr

def PublishError.message (e : PublishError) : String :=
  s!"publish of '{e.folder}' to branch '{e.branch}' failed: {e.reason}"

/-- A step that ended with a non-zero exit code. -/
structure StepError where
  job : String
  step : String
  command : String
  exitCode : Int
  out : String := ""
  err : String := ""
deriving DecidableEq, Repr

def StepError.message (e : StepError) : String :=
  s!"[{e.job}] step '{e.step}' failed (exit={e.exitCode}): {e.command}"

/-- How the operating system refuses a path or a program. -/
inductive Refusal where
  | missing
  | denied
  | alreadyThere
  | notDirectory
  | isDirectory
  | nameTooLong
  | tooManyLinks
  /-- Any other reason, with the number it has. -/
  | other (number : Nat) (text : String)
deriving DecidableEq, Repr

def Refusal.message : Refusal → String
  | .missing => "[Errno 2] No such file or directory"
  | .denied => "[Errno 13] Permission denied"
  | .alreadyThere => "[Errno 17] File exists"
  | .notDirectory => "[Errno 20] Not a directory"
  | .isDirectory => "[Errno 21] Is a directory"
  | .nameTooLong => "[Errno 36] File name too long"
  | .tooManyLinks => "[Errno 40] Too many levels of symbolic links"
  | .other number text => s!"[Errno {number}] {text}"

def Refusal.kind : Refusal → String
  | .missing => "FileNotFoundError"
  | .denied => "PermissionError"
  | .alreadyThere => "FileExistsError"
  | .notDirectory => "NotADirectoryError"
  | .isDirectory => "IsADirectoryError"
  | .nameTooLong => "OSError"
  | .tooManyLinks => "OSError"
  | .other _ _ => "OSError"

/-- An entry that could not be copied: from where, to where, and why. -/
structure CopyFailure where
  source : String
  target : String
  reason : String
deriving DecidableEq, Repr

def CopyFailure.text (f : CopyFailure) : String :=
  "(" ++ ", ".intercalate [Text.quoted f.source, Text.quoted f.target, Text.quoted f.reason] ++ ")"

inductive Fault where
  | workflow (e : WorkflowError)
  | config (e : ConfigError)
  | provision (e : ProvisionError)
  | publish (e : PublishError)
  | refused (how : Refusal) (path : String)
  | workflowMissing (path : String)
  | copyFailed (failures : List CopyFailure)
  | commandFailed (args : List String) (code : Int) (err : Option String)
  | undecodable (e : Text.Undecodable)
  | unencodable (e : Text.Unencodable)
  | symlinkLoop (path : String)
  | homeUnknown
  | nulInPath
  | blankCommand
  | notPath (typeName : String)
  | notStep (typeName : String)
  | namelessStep (typeName : String)
  | noExitCode (code : Scalar)
  | noInteger (e : Text.IntegerError)
  | noReal (text : String)
  | realOverflow
  | emptyNumber
  | noBoolean (text : String)
  | noTimestamp
  | timestampNotText
  | tooDeep
  | noDate (e : DateError)
  | noCharacter (code : Nat)
  | runtime (text : String)
  | badValue (text : String)
  | interrupted (text : String)
  /-- Code from outside ends the whole program with a status. -/
  | exited (status : Int)
  /-- Code from outside fails in a way of its own. What is not ordinary passes the handlers of faults. -/
  | raised (kind text : String) (ordinary : Bool)
deriving Repr

namespace Fault

/-- The word for the kind of fault. -/
def kind : Fault → String
  | .workflow _ => "WorkflowError"
  | .config _ => "ConfigError"
  | .provision _ => "ProvisionError"
  | .publish _ => "PublishError"
  | .refused how _ => how.kind
  | .workflowMissing _ => "FileNotFoundError"
  | .copyFailed _ => "Error"
  | .commandFailed _ _ _ => "CalledProcessError"
  | .undecodable _ => "UnicodeDecodeError"
  | .unencodable _ => "UnicodeEncodeError"
  | .symlinkLoop _ => "RuntimeError"
  | .homeUnknown => "RuntimeError"
  | .nulInPath => "ValueError"
  | .blankCommand => "IndexError"
  | .notPath _ => "TypeError"
  | .notStep _ => "TypeError"
  | .namelessStep _ => "AttributeError"
  | .noExitCode (.real .nan) => "ValueError"
  | .noExitCode (.real _) => "OverflowError"
  | .noExitCode _ => "TypeError"
  | .noInteger _ => "ValueError"
  | .noReal _ => "ValueError"
  | .realOverflow => "OverflowError"
  | .emptyNumber => "IndexError"
  | .noBoolean _ => "KeyError"
  | .noTimestamp => "AttributeError"
  | .timestampNotText => "TypeError"
  | .tooDeep => "RecursionError"
  | .noDate _ => "ValueError"
  | .noCharacter code => if code < 0x80000000 then "ValueError" else "OverflowError"
  | .runtime _ => "RuntimeError"
  | .badValue _ => "ValueError"
  | .interrupted _ => "KeyboardInterrupt"
  | .exited _ => "SystemExit"
  | .raised kind _ _ => kind

def message : Fault → String
  | .workflow e => e.message
  | .config e => e.message
  | .provision e => e.message
  | .publish e => e.message
  | .refused how path => how.message ++ ": " ++ Text.quoted path
  | .workflowMissing path => s!"Workflow file not found: {path}"
  | .copyFailed failures => Text.bracketed (failures.map CopyFailure.text)
  | .commandFailed args code _ =>
    "Command '" ++ Text.quotedList args ++ s!"' returned non-zero exit status {code}."
  | .undecodable e => e.message
  | .unencodable e => e.message
  | .symlinkLoop path => "Symlink loop from " ++ Text.quoted path
  | .homeUnknown => "Could not determine home directory."
  | .nulInPath => "embedded null byte"
  | .blankCommand => "list index out of range"
  | .notPath typeName => s!"unsupported operand type(s) for /: 'PosixPath' and '{typeName}'"
  | .notStep typeName => s!"Unsupported step type: {typeName}"
  | .namelessStep typeName => s!"'{typeName}' object has no attribute 'name'"
  | .noExitCode (.real .nan) => "cannot convert float NaN to integer"
  | .noExitCode (.real _) => "cannot convert float infinity to integer"
  | .noExitCode code =>
    "int() argument must be a string, a bytes-like object or a real number, not '" ++
    code.typeName ++ "'"
  | .noInteger e => e.message
  | .noReal text => "could not convert string to float: " ++ Text.quoted text
  | .realOverflow => "int too large to convert to float"
  | .emptyNumber => "string index out of range"
  | .noBoolean text => Text.quoted text
  | .noTimestamp => "'NoneType' object has no attribute 'groupdict'"
  | .timestampNotText => "expected string or bytes-like object, got 'list'"
  | .tooDeep => "maximum recursion depth exceeded"
  | .noDate e => e.message
  | .noCharacter code =>
    if code < 0x80000000 then "chr() arg not in range(0x110000)"
    else "Python int too large to convert to C int"
  | .runtime text => text
  | .badValue text => text
  | .interrupted text => text
  | .exited status => toString status
  | .raised _ text _ => text

/-- Whether a program or a path was not found. -/
def isMissing : Fault → Bool
  | .refused .missing _ => true
  | .workflowMissing _ => true
  | _ => false

/-- Whether the user broke off. -/
def isInterrupt : Fault → Bool
  | .interrupted _ => true
  | _ => false

/-- Whether a handler of ordinary faults sees it: an interrupt and an order to end go on. -/
def isOrdinary : Fault → Bool
  | .interrupted _ => false
  | .exited _ => false
  | .raised _ _ ordinary => ordinary
  | _ => true

/-- The status of a program that ends with the fault. -/
def status : Fault → Int
  | .exited status => status
  | _ => 1

end Fault

def Value.Obstacle.fault : Value.Obstacle → Fault
  | .number => .noInteger .unwritable
  | .depth => .tooDeep

/-- The text of a value that can be written where there is room for so many inside of it. -/
def Value.asText (room : Nat) (v : Value) : Except Fault String := (v.write room).mapError Obstacle.fault

def Scalar.asText (room : Nat) (s : Scalar) : Except Fault String := (Value.scalar s).asText room

end LocalCI
