import LocalCI.Text.Blank
import LocalCI.Text.Lowercase
import LocalCI.Text.Quoted
import LocalCI.Text.Search
import LocalCI.Text.Similar

/-! Options on a command line, and the ways to use them wrongly. -/
namespace LocalCI.Command

inductive UsageError where
  | noSuchOption (name : String) (similar : List String)
  | argumentNeeded (name : String)
  | noValueTaken (name : String)
  | missingOption (name : String)
  | notBoolean (name value : String)
  | extraArguments (args : List String)
  | noSuchCommand (name : String)
  | missingCommand
deriving DecidableEq, Repr

namespace UsageError

def message : UsageError → String
  | .noSuchOption name [] => s!"No such option: {name}"
  | .noSuchOption name [one] => s!"No such option: {name} Did you mean {one}?"
  | .noSuchOption name several =>
    s!"No such option: {name} (Possible options: " ++ ", ".intercalate several ++ ")"
  | .argumentNeeded name => s!"Option '{name}' requires an argument."
  | .noValueTaken name => s!"Option '{name}' does not take a value."
  | .missingOption name => s!"Missing option '{name}'."
  | .notBoolean name value =>
    s!"Invalid value for '{name}': " ++ Text.quoted value ++ " is not a valid boolean."
  | .extraArguments [one] => s!"Got unexpected extra argument ({one})"
  | .extraArguments args => "Got unexpected extra arguments (" ++ " ".intercalate args ++ ")"
  | .noSuchCommand name => "No such command " ++ Text.quoted name ++ "."
  | .missingCommand => "Missing command."

/-- Whether the message stands alone, without the usage of the command. -/
def isBare : UsageError → Bool
  | .argumentNeeded _ => true
  | .noValueTaken _ => true
  | _ => false

end UsageError

/-- What an option does: it takes a text, or it sets what it is about to yes or no. -/
inductive OptionKind where
  | text
  | flag (on : Bool)
deriving DecidableEq, Repr

structure OptionForm where
  name : String
  /-- What the option is about; several may be about the same thing. -/
  about : String
  kind : OptionKind
deriving DecidableEq, Repr

inductive OptionValue where
  | text (s : String)
  | flag (on : Bool)
deriving DecidableEq, Repr

/-- Options in the order given, and the other arguments. -/
structure Parsed where
  given : List (String × OptionValue) := []
  rest : List String := []
deriving DecidableEq, Repr

namespace Parsed

def give (o : OptionForm) (v : OptionValue) (p : Parsed) : Parsed :=
  { p with given := (o.about, v) :: p.given }

/-- The last value given counts. -/
def value? (p : Parsed) (about : String) : Option OptionValue := p.given.reverse.lookup about

def text? (p : Parsed) (about : String) : Option String :=
  match p.value? about with
  | some (.text s) => some s
  | _ => none

def flag? (p : Parsed) (about : String) : Option Bool :=
  match p.value? about with
  | some (.flag b) => some b
  | _ => none

end Parsed

/-- The name of an option and a value attached to it. -/
def splitOption (arg : String) : String × Option String :=
  match Text.cut? '=' arg with
  | some (name, value) => (name, some value)
  | none => (arg, none)

/-- An option that is not known: with one hyphen its first letter is to blame. -/
def unknownOption (forms : List OptionForm) (arg : String) : UsageError :=
  if Text.startsWith arg "--" then
    let name := (splitOption arg).1
    .noSuchOption name (Text.similarTo name (forms.map (·.name)))
  else .noSuchOption (String.ofList (arg.toList.take 2)) []

def isOption (arg : String) : Bool := Text.startsWith arg "-" && 1 < arg.length

/-- Reads options; two hyphens end them. If they are not `mixed` with other arguments, the first
other argument ends them too. -/
def parse (forms : List OptionForm) (mixed : Bool) : List String → Except UsageError Parsed
  | [] => .ok {}
  | arg :: rest =>
    if arg = "--" then .ok { rest := rest }
    else if !isOption arg then
      if mixed then (parse forms mixed rest).map fun p => { p with rest := arg :: p.rest }
      else .ok { rest := arg :: rest }
    else
      let (name, attached) := splitOption arg
      match forms.find? (·.name = name) with
      | none => .error (unknownOption forms arg)
      | some o =>
        match o.kind, attached with
        | .flag on, none => (parse forms mixed rest).map (·.give o (.flag on))
        | .flag _, some _ => .error (.noValueTaken name)
        | .text, some v => (parse forms mixed rest).map (·.give o (.text v))
        | .text, none =>
          match rest with
          | [] => .error (.argumentNeeded name)
          | v :: rest => (parse forms mixed rest).map (·.give o (.text v))

/-- The words for yes and no, in any case and with blanks around them. -/
def boolean? (text : String) : Option Bool :=
  let word := Text.lower (Text.strip text)
  if ["1", "true", "t", "yes", "y", "on"].contains word then some true
  else if ["0", "false", "f", "no", "n", "off"].contains word then some false
  else none

end LocalCI.Command
