import LocalCI.Calendar
import LocalCI.Text.Integer

/-! Dates and moments as they are written in a YAML scalar. -/
namespace LocalCI.Yaml

inductive Timestamp where
  | date (d : Date)
  | moment (m : Moment)
deriving DecidableEq, Repr

namespace Timestamp

/-- Between `least` and `most` ASCII digits, as many as there are. -/
def digits? (least most : Nat) (cs : List Char) : Option (List Char × List Char) :=
  let ds := (cs.take most).takeWhile Char.isDigit
  if ds.length < least then none else some (ds, cs.drop ds.length)

def value (ds : List Char) : Nat := Text.ofDigits 10 (ds.map fun d => d.toNat - 0x30)

def char? (p : Char → Bool) : List Char → Option (List Char)
  | c :: rest => if p c then some rest else none
  | [] => none

def isBlank (c : Char) : Bool := c = ' ' || c = '\t'

/-- Year, month and day; the last two may have one digit. -/
def date? (cs : List Char) : Option (Date × List Char) := do
  let (year, cs) ← digits? 4 4 cs
  let cs ← char? (· = '-') cs
  let (month, cs) ← digits? 1 2 cs
  let cs ← char? (· = '-') cs
  let (day, cs) ← digits? 1 2 cs
  return (⟨value year, value month, value day⟩, cs)

/-- What divides the date from the time. -/
def divider? (cs : List Char) : Option (List Char) :=
  match char? (fun c => c = 'T' || c = 't') cs with
  | some cs => some cs
  | none => (char? isBlank cs).map (·.dropWhile isBlank)

/-- The first six digits of a fraction of a second. -/
def fraction (cs : List Char) : Nat × List Char :=
  match cs with
  | '.' :: rest =>
    let ds := rest.takeWhile Char.isDigit
    (value (ds.take 6 ++ List.replicate (6 - ds.length) '0'), rest.drop ds.length)
  | _ => (0, cs)

/-- The offset in minutes from universal time, at the end of the text. -/
def offset? (cs : List Char) : Option (Option Int) :=
  if cs.isEmpty then some none
  else match cs.dropWhile isBlank with
    | ['Z'] => some (some 0)
    | c :: rest =>
      if c ≠ '+' && c ≠ '-' then none
      else do
        let (hours, rest) ← digits? 1 2 rest
        let minutes ←
          if rest.isEmpty then some []
          else do
            let (minutes, rest) ← digits? 2 2 (← char? (· = ':') rest)
            if rest.isEmpty then some minutes else none
        let total : Int := value hours * 60 + value minutes
        return some (if c = '-' then -total else total)
    | [] => none

def time? (d : Date) (cs : List Char) : Option Timestamp := do
  let (hour, cs) ← digits? 1 2 (← divider? cs)
  let (minute, cs) ← digits? 2 2 (← char? (· = ':') cs)
  let (second, cs) ← digits? 2 2 (← char? (· = ':') cs)
  let (micro, cs) := fraction cs
  let offset ← offset? cs
  return .moment ⟨d, value hour, value minute, value second, micro, offset⟩

/-- Reads a timestamp by its form alone; its date need not exist. -/
def read? (cs : List Char) : Option Timestamp := do
  let (d, rest) ← date? cs
  if rest.isEmpty then return .date d else time? d rest

/-- A plain scalar is a date only with all its digits. -/
def isImplicit (cs : List Char) : Bool :=
  match read? cs with
  | some (.date _) => cs.length = 10
  | some (.moment _) => true
  | none => false

def error? : Timestamp → Option DateError
  | .date d => d.error?
  | .moment m => m.error?

end Timestamp
end LocalCI.Yaml
