import LocalCI.Yaml.Timestamp

/-! The type of a node: named by a tag, or for a plain scalar given by the form of its text. -/
namespace LocalCI.Yaml

inductive Tag where
  | null
  | bool
  | int
  | float
  | timestamp
  | text
  | binary
  | sequence
  | mapping
  | set
  /-- A list of pairs, each written as a mapping of one entry. -/
  | pairs
  /-- The key `<<`, which takes in the entries of other mappings. -/
  | merge
  /-- The key `=`. -/
  | standard
  | other (name : String)
deriving DecidableEq, Repr

namespace Tag

def isScalar : Tag → Bool
  | .null | .bool | .int | .float | .timestamp | .text | .binary => true
  | _ => false

def isCollection : Tag → Bool
  | .sequence | .mapping | .set | .pairs => true
  | _ => false

def space : String := "tag:yaml.org,2002:"

def named : List (String × Tag) :=
  [("null", .null), ("bool", .bool), ("int", .int), ("float", .float), ("timestamp", .timestamp),
   ("str", .text), ("binary", .binary), ("seq", .sequence), ("map", .mapping), ("set", .set),
   ("omap", .pairs), ("pairs", .pairs), ("merge", .merge), ("value", .standard)]

def ofName (name : String) : Tag :=
  ((named.find? fun t => space ++ t.1 = name).map (·.2)).getD (.other name)

def isDigitOrBar (c : Char) : Bool := c.isDigit || c = '_'

def dropSign : List Char → List Char
  | '-' :: cs => cs
  | '+' :: cs => cs
  | cs => cs

/-- A digit and then digits or underscores, as far as they go. -/
def number? : List Char → Option (List Char)
  | c :: cs => if c.isDigit then some (cs.dropWhile isDigitOrBar) else none
  | [] => none

/-- Nothing, or an exponent with its sign. -/
def isExponent : List Char → Bool
  | [] => true
  | e :: s :: ds =>
    (e = 'e' || e = 'E') && (s = '-' || s = '+') && !ds.isEmpty && ds.all Char.isDigit
  | _ => false

/-- Groups below sixty, each after a colon, as far as they go: how many, and what follows. -/
def sixtieths : Nat → List Char → Nat × List Char
  | 0, cs => (0, cs)
  | fuel + 1, cs =>
    match cs with
    | ':' :: a :: b :: rest =>
      if a.isDigit && a.toNat ≤ 0x35 && b.isDigit then
        let (n, rest) := sixtieths fuel rest
        (n + 1, rest)
      else if a.isDigit then
        let (n, rest) := sixtieths fuel (b :: rest)
        (n + 1, rest)
      else (0, cs)
    | [':', a] => if a.isDigit then (1, []) else (0, cs)
    | _ => (0, cs)

/-- A point, digits or underscores, and what follows. -/
def fraction? : List Char → Option (List Char)
  | '.' :: cs => some (cs.dropWhile isDigitOrBar)
  | _ => none

def isFloat (cs : List Char) : Bool :=
  let body := dropSign cs
  let decimal := ((number? body).bind fraction?).elim false isExponent
  let pointFirst := match cs with
    | '.' :: rest => (number? rest).elim false isExponent
    | _ => false
  let sexagesimal := (number? body).elim false fun rest =>
    let (n, rest) := sixtieths rest.length rest
    n ≠ 0 && (fraction? rest).elim false List.isEmpty
  decimal || pointFirst || sexagesimal ||
    [".inf", ".Inf", ".INF"].contains (String.ofList body) ||
    [".nan", ".NaN", ".NAN"].contains (String.ofList cs)

def isHexOrBar (c : Char) : Bool :=
  isDigitOrBar c || ('a' ≤ c && c ≤ 'f') || ('A' ≤ c && c ≤ 'F')

def isInt (cs : List Char) : Bool :=
  match dropSign cs with
  | ['0'] => true
  | '0' :: 'b' :: rest => !rest.isEmpty && rest.all fun c => c = '0' || c = '1' || c = '_'
  | '0' :: 'x' :: rest => !rest.isEmpty && rest.all isHexOrBar
  | '0' :: rest => rest.all fun c => ('0' ≤ c && c ≤ '7') || c = '_'
  | body => (number? body).elim false fun rest => (sixtieths rest.length rest).2.isEmpty

def boolWords : List String :=
  ["yes", "Yes", "YES", "no", "No", "NO", "true", "True", "TRUE", "false", "False", "FALSE",
   "on", "On", "ON", "off", "Off", "OFF"]

/-- The type of a plain scalar. -/
def ofPlain (text : String) : Tag :=
  let cs := text.toList
  let cs := if 1 < cs.length && cs.getLast? = some '\n' then cs.dropLast else cs
  let word := String.ofList cs
  if boolWords.contains word then .bool
  else if isFloat cs then .float
  else if isInt cs then .int
  else if word = "<<" then .merge
  else if ["", "~", "null", "Null", "NULL"].contains word then .null
  else if Timestamp.isImplicit cs then .timestamp
  else if word = "=" then .standard
  else if ["!", "&", "*"].contains word then .other (space ++ "yaml")
  else .text

end Tag
end LocalCI.Yaml
