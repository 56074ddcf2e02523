/-! What the commands say about themselves. -/
namespace LocalCI.Command

/-- The pages of help: one for the program and one for each command. -/
inductive Page where
  | program
  | run
  | plan
  | check
deriving DecidableEq, Repr

namespace Page

/-- The command as it is typed. -/
def command : Page → String
  | .program => "actrun"
  | .run => "actrun run"
  | .plan => "actrun plan"
  | .check => "actrun check"

def usage (p : Page) : String :=
  "Usage: " ++ p.command ++ " [OPTIONS]" ++ if p = .program then " COMMAND [ARGS]..." else ""

def body : Page → List String
  | .program =>
    ["  actrun: run CI workflows (trigger, toolchain, steps, deploy) locally.",
     "",
     "Options:",
     "  --debug  Enable debug mode (show stack traces and detailed output)",
     "  --help   Show this message and exit.",
     "",
     "Commands:",
     "  check  Tell whether an event would start a run (exit 0) or not (exit 1).",
     "  plan   Print triggers, jobs and steps without running anything.",
     "  run    Run a workflow for one trigger event."]
  | .run =>
    ["  Run a workflow for one trigger event.",
     "",
     "Options:",
     "  --workflow TEXT               Workflow file (.yml/.yaml/.py); discovered when",
     "                                omitted",
     "  --event TEXT                  Trigger event kind (push, pull_request)",
     "  --branch TEXT                 Branch the event refers to",
     "  --workspace TEXT              Directory the steps run in",
     "  --remote TEXT                 Git remote name or URL to deploy to",
     "  --fail-fast / --no-fail-fast  Skip every remaining job after the first failure",
     "                                [default: fail-fast]",
     "  --deploy / --no-deploy        Run deployment on success  [default: deploy]",
     "  --help                        Show this message and exit."]
  | .plan =>
    ["  Print triggers, jobs and steps without running anything.",
     "",
     "Options:",
     "  --workflow TEXT   Workflow file (.yml/.yaml/.py); discovered when omitted",
     "  --workspace TEXT  Directory to discover the workflow in",
     "  --help            Show this message and exit."]
  | .check =>
    ["  Tell whether an event would start a run (exit 0) or not (exit 1).",
     "",
     "Options:",
     "  --event TEXT     Trigger event kind (push, pull_request)  [required]",
     "  --branch TEXT    Branch the event refers to  [required]",
     "  --workflow TEXT  Use this workflow's triggers instead of the defaults",
     "  --help           Show this message and exit."]

def help (p : Page) : List String := [p.usage, ""] ++ p.body

end Page
end LocalCI.Command
