import LocalCI.Routine
import LocalCI.Text.Blank
import LocalCI.Text.Lowercase
import LocalCI.Text.Search
import LocalCI.Text.Sorted

/-! Actions a step can use, by name. Version and case of a reference do not matter. -/
namespace LocalCI

/-- How starting a program or calling an action can fail by itself. -/
inductive Failure where
  | refused (how : Refusal)
  /-- The program ran to its end, but what it printed is no text. -/
  | undecodable (e : Text.Undecodable)
  | runtime (text : String)
  | badValue (text : String)
  | workflow (text : String)
  | interrupted (text : String)
deriving DecidableEq, Repr

/-- The fault of a failure of the named program. -/
def Failure.fault (program : String) : Failure → Fault
  | .refused how => .refused how program
  | .undecodable e => .undecodable e
  | .runtime text => .runtime text
  | .badValue text => .badValue text
  | .workflow text => .workflow (.reported text)
  | .interrupted text => .interrupted text

/-- An action that always does the same: it takes some time, then fails or sets variables in its own
environment, drops its parameters and reports an exit code and output. -/
structure Script where
  micros : Nat := 0
  failure : Option Failure := none
  exports : Env := {}
  code : Scalar := .int 0
  out : Option String := some ""
  err : Option String := some ""
deriving DecidableEq, Repr

def Script.routine (label : String) (s : Script) : Routine Reply :=
  .wait s.micros
    (match s.failure with
    | some failure => .fail (failure.fault label)
    | none => .setParams [] (.exporting s.exports ⟨s.code, s.out, s.err⟩))

/-- What carries out an action step. -/
inductive Handler where
  | checkout
  /-- Any other action. What it does depends on the parameters it is given. -/
  | custom (label : String) (body : Entries → Routine Reply)

namespace Handler

def label : Handler → String
  | .checkout => "checkout"
  | .custom label _ => label

def scripted (label : String) (script : Script) : Handler :=
  .custom label fun _ => script.routine label

instance : Repr Handler := ⟨fun h _ => repr h.label⟩

end Handler

namespace Action

/-- The name a reference such as `Owner/Action@v2` uses: what stands before the first at sign, in
lower case and without blanks around it. -/
def nameOf (uses : String) : String :=
  Text.lower (Text.strip ((Text.cut? '@' uses).map Prod.fst |>.getD uses))

/-- Actions that select a toolchain rather than run as a step. -/
def toolchainNames : List String := ["actions-rs/toolchain", "dtolnay/rust-toolchain"]

/-- Actions that name a deployment rather than run as a step. -/
def deployNames : List String :=
  ["jamesives/github-pages-deploy-action", "peaceiris/actions-gh-pages"]

end Action

/-- Handlers under their names, in the order of their first registration. -/
structure Registry where
  handlers : List (String × Handler)
deriving Repr

namespace Registry

def builtin : Registry := ⟨[("actions/checkout", .checkout)]⟩

def find? (r : Registry) (name : String) : Option Handler :=
  (r.handlers.find? fun h => h.1 = name).map Prod.snd

def names (r : Registry) : List String := Text.sorted (r.handlers.map Prod.fst)

def register (r : Registry) (name : String) (h : Handler) : Registry :=
  ⟨Named.put (Action.nameOf name) h r.handlers⟩

def resolve (r : Registry) (uses : String) : Except WorkflowError Handler :=
  match r.find? (Action.nameOf uses) with
  | some h => .ok h
  | none => .error (.unsupportedAction uses r.names)

end Registry
end LocalCI
