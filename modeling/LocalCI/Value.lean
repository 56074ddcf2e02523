import LocalCI.Calendar
import LocalCI.Number.Binary64

/-! Data as a workflow file holds it: scalars, lists, mappings, sets and pairs. A key is always a
scalar, entries keep the order in which they were written, and a key that occurs again replaces the
value but not the place of the first. A collection may hold itself; it is then a loop, and inside of
it a mention of its label stands for the whole. -/
namespace LocalCI

inductive Scalar where
  | null
  | bool (b : Bool)
  | int (n : Int)
  | real (x : Binary64)
  | text (s : String)
  | bytes (b : List UInt8)
  | date (d : Date)
  | moment (m : Moment)
deriving DecidableEq, Repr

inductive Value where
  | scalar (s : Scalar)
  | list (items : List Value)
  | map (entries : List (Scalar × Value))
  | set (elements : List Scalar)
  | pair (first second : Value)
  /-- A collection that holds itself. The label tells it from others. -/
  | loop (label : Nat) (body : Value)
  /-- The loop of that label around this place. -/
  | again (label : Nat)
deriving Repr

abbrev Entries := List (Scalar × Value)

namespace Scalar

/-- Truth values, whole numbers and reals are the same key when they are the same number, so no two
not-a-numbers are. -/
def sameKey : Scalar → Scalar → Bool
  | .bool a, .bool b => a == b
  | .bool a, .int n => (if a then 1 else 0) == n
  | .int n, .bool a => (if a then 1 else 0) == n
  | .bool a, .real x => x.equalsInt (if a then 1 else 0)
  | .real x, .bool a => x.equalsInt (if a then 1 else 0)
  | .int m, .int n => m == n
  | .int n, .real x => x.equalsInt n
  | .real x, .int n => x.equalsInt n
  | .real x, .real y => x.equals y
  | .moment a, .moment b =>
    match a.instant?, b.instant? with
    | some s, some t => s == t
    | none, none => a == b
    | _, _ => false
  | a, b => a == b

/-- Null, false, zero, the empty text and no bytes are empty; every other scalar counts as true. -/
def isTruthy : Scalar → Bool
  | .null => false
  | .bool b => b
  | .int n => n != 0
  | .real x => !x.isZero
  | .text s => s != ""
  | .bytes b => !b.isEmpty
  | .date _ => true
  | .moment _ => true

def typeName : Scalar → String
  | .null => "NoneType"
  | .bool _ => "bool"
  | .int _ => "int"
  | .real _ => "float"
  | .text _ => "str"
  | .bytes _ => "bytes"
  | .date _ => "date"
  | .moment _ => "datetime"

end Scalar

namespace Entries

/-- The value under a key. -/
def find? (entries : Entries) (key : Scalar) : Option Value :=
  (List.find? (fun e => e.1.sameKey key) entries).map Prod.snd

/-- The value under a text key. -/
def get? (entries : Entries) (key : String) : Option Value := find? entries (.text key)

/-- Replaces the value under the key, or adds the key at the end. -/
def put : Entries → Scalar → Value → Entries
  | [], key, v => [(key, v)]
  | (k, w) :: rest, key, v => if k.sameKey key then (k, v) :: rest else (k, w) :: put rest key v

/-- The mapping that results when the pairs are put in one after another. -/
def ofPairs (pairs : List (Scalar × Value)) : Entries :=
  pairs.foldl (fun entries (key, v) => put entries key v) []

end Entries

namespace Value

abbrev null : Value := .scalar .null

abbrev text (s : String) : Value := .scalar (.text s)

def isNull : Value → Bool
  | .scalar .null => true
  | _ => false

/-- Empty lists and mappings are empty like the empty scalars. -/
def isTruthy : Value → Bool
  | .scalar s => s.isTruthy
  | .list items => !items.isEmpty
  | .map entries => !entries.isEmpty
  | .set elements => !elements.isEmpty
  | .pair _ _ => true
  | .loop _ body => isTruthy body
  | .again _ => true

def typeName : Value → String
  | .scalar s => s.typeName
  | .list _ => "list"
  | .map _ => "dict"
  | .set _ => "set"
  | .pair _ _ => "tuple"
  | .loop _ body => typeName body
  | .again _ => ""

mutual

/-- Puts a loop in for the mentions of its label. -/
def close (label : Nat) (whole : Value) : Value → Value
  | .list items => .list (closeAll label whole items)
  | .map entries => .map (closeEntries label whole entries)
  | .pair first second => .pair (close label whole first) (close label whole second)
  | .loop l body => if l = label then .loop l body else .loop l (close label whole body)
  | .again l => if l = label then whole else .again l
  | v => v

def closeAll (label : Nat) (whole : Value) : List Value → List Value
  | [] => []
  | v :: rest => close label whole v :: closeAll label whole rest

def closeEntries (label : Nat) (whole : Value) : List (Scalar × Value) → List (Scalar × Value)
  | [] => []
  | (key, v) :: rest => (key, close label whole v) :: closeEntries label whole rest

end

/-- The value as it shows itself to a reader: a loop is opened, so that its parts are whole. -/
def view : Value → Value
  | .loop label body => close label (.loop label body) body
  | v => v

/-- The name of the type where a value is used as an operand; dates have a longer one there. -/
def operandName : Value → String
  | .scalar (.date d) => "datetime." ++ (Scalar.date d).typeName
  | .scalar (.moment m) => "datetime." ++ (Scalar.moment m).typeName
  | v => v.typeName

end Value

/-- The value under a text key, and null where there is none. -/
def Entries.valueAt (entries : Entries) (key : String) : Value :=
  (Entries.get? entries key).getD .null

end LocalCI
