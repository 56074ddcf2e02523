import LocalCI.Number.Decimal
import LocalCI.Text.Base64
import LocalCI.Value
import LocalCI.Yaml.Cursor
import LocalCI.Yaml.Tag

/-! What the text of a scalar means under a tag. -/
namespace LocalCI.Yaml

open LocalCI.Text

/-- The number that groups of base sixty stand for, the last one counting ones. -/
def ofSixtieths (groups : List Int) : Int := groups.foldl (fun n g => n * 60 + g) 0

def digitsOf (base : Nat) (cs : List Char) : Except Fault Int :=
  (integerIn base (String.ofList cs)).mapError .noInteger

def intBody (body : List Char) : Except Fault Int :=
  match body with
  | [] => .error .emptyNumber
  | ['0'] => .ok 0
  | '0' :: 'b' :: rest => digitsOf 2 rest
  | '0' :: 'x' :: rest => digitsOf 16 rest
  | '0' :: _ => digitsOf 8 body
  | _ =>
    if body.contains ':' then ((splitChars ':' body).mapM (digitsOf 10)).map ofSixtieths
    else digitsOf 10 body

/-- A whole number: binary, octal, decimal, hexadecimal or in base sixty. -/
def intOf (text : String) : Except Fault Int :=
  match text.toList.filter (· ≠ '_') with
  | [] => .error .emptyNumber
  | '-' :: body => (intBody body).map fun n => -n
  | '+' :: body => intBody body
  | body => intBody body

/-- Groups of base sixty, the last one first, summed up; every step rounds. A place value has to be
a real itself. -/
def sumSixtieths : Nat → Binary64 → List Binary64 → Except Fault Binary64
  | _, sum, [] => .ok sum
  | place, sum, g :: rest =>
    match Binary64.ofNat place with
    | .infinite _ => .error .realOverflow
    | scale => sumSixtieths (place * 60) (sum.add (g.mul scale)) rest

def decimalOf (cs : List Char) : Except Fault Binary64 :=
  match Binary64.read? (String.ofList cs) with
  | some x => .ok x
  | none => .error (.noReal (String.ofList cs))

def realBody (body : List Char) : Except Fault Binary64 :=
  let whole := String.ofList body
  if whole = ".inf" then .ok (.infinite false)
  else if whole = ".nan" then .ok .nan
  else if body.contains ':' then do
    sumSixtieths 1 (Binary64.ofNat 0) (← (splitChars ':' body).mapM decimalOf).reverse
  else decimalOf body

/-- The text of a real in small letters, without the marks that only group digits. -/
def realText (text : String) : List Char :=
  (lower (String.ofList (text.toList.filter (· ≠ '_')))).toList

/-- Whether a real is written with the word for a not-a-number. -/
def isNanWord (text : String) : Bool :=
  match realText text with
  | '-' :: body => String.ofList body = ".nan"
  | '+' :: body => String.ofList body = ".nan"
  | body => String.ofList body = ".nan"

def realOf (text : String) : Except Fault Binary64 :=
  match realText text with
  | [] => .error .emptyNumber
  | '-' :: body => (realBody body).map Binary64.neg
  | '+' :: body => realBody body
  | body => realBody body

def boolOf (text : String) : Except Fault Bool :=
  let word := lower text
  if ["yes", "true", "on"].contains word then .ok true
  else if ["no", "false", "off"].contains word then .ok false
  else .error (.noBoolean word)

def timestampOf (text : String) : Except Fault Scalar :=
  let cs := text.toList
  let cs := if cs.getLast? = some '\n' then cs.dropLast else cs
  match Timestamp.read? cs with
  | none => .error .noTimestamp
  | some t =>
    match t.error?, t with
    | some e, _ => .error (.noDate e)
    | none, .date d => .ok (.date d)
    | none, .moment m => .ok (.moment m)

/-- Bytes in base 64; the text may hold ASCII only. -/
def binaryOf (text : String) : Except Trouble (List UInt8) :=
  if text.toList.any fun c => 0x80 ≤ c.toNat then .error .invalid
  else match base64? text with
    | some bytes => .ok bytes
    | none => .error .invalid

/-- The scalar that a text stands for under the tag of a scalar type. -/
def scalarOf (tag : Tag) (text : String) : Except Trouble Scalar :=
  match tag with
  | .null => .ok .null
  | .text => .ok (.text text)
  | .binary => (binaryOf text).map .bytes
  | .bool => ((boolOf text).map .bool).mapError .fault
  | .int => ((intOf text).map .int).mapError .fault
  | .float => ((realOf text).map .real).mapError .fault
  | .timestamp => (timestampOf text).mapError .fault
  | _ => .error .invalid

end LocalCI.Yaml
