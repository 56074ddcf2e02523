import LocalCI.Text.Blank
import LocalCI.Text.Digit
import LocalCI.Text.Quoted
import LocalCI.Text.Search

/-! Reading whole numbers: blanks around the number, a sign, and digits of any script with single
underscores between them. The four ASCII separators are no blanks here. Long decimal numbers are
neither read nor written. -/
namespace LocalCI.Text

/-- More decimal digits than this are refused. -/
def digitLimit : Nat := 4300

def isNumberBlank (c : Char) : Bool := isBlank c && !(0x1C ≤ c.toNat && c.toNat ≤ 0x1F)

def trimNumber (cs : List Char) : List Char :=
  ((cs.dropWhile isNumberBlank).reverse.dropWhile isNumberBlank).reverse

def radixDigit? (base : Nat) (c : Char) : Option Nat :=
  let n := c.toNat
  let value? :=
    if 0x61 ≤ n && n ≤ 0x66 then some (n - 0x61 + 10)
    else if 0x41 ≤ n && n ≤ 0x46 then some (n - 0x41 + 10)
    else digitValue? c
  value?.filter (· < base)

/-- Digits in groups divided by one underscore each; no group is empty. -/
def groupedDigits? (base : Nat) (cs : List Char) : Option (List Nat) :=
  let groups := splitChars '_' cs
  if groups.any List.isEmpty then none else groups.flatten.mapM (radixDigit? base)

def ofDigits (base : Nat) (digits : List Nat) : Nat := digits.foldl (fun n d => n * base + d) 0

/-- A leading `0b`, `0o` or `0x` that agrees with the base, and one underscore after it. -/
def dropRadixMark (base : Nat) (cs : List Char) : List Char :=
  let marks := if base = 2 then ['b', 'B'] else if base = 8 then ['o', 'O']
    else if base = 16 then ['x', 'X'] else []
  match cs with
  | '0' :: c :: '_' :: rest => if marks.contains c then rest else cs
  | '0' :: c :: rest => if marks.contains c then rest else cs
  | _ => cs

def sign : List Char → Bool × List Char
  | '-' :: rest => (true, rest)
  | '+' :: rest => (false, rest)
  | rest => (false, rest)

/-- Why a whole number cannot be read, or not be written. -/
inductive IntegerError where
  | malformed (base : Nat) (text : String)
  | tooLong (digits : Nat)
  | unwritable
deriving DecidableEq, Repr

def IntegerError.message : IntegerError → String
  | .malformed base text =>
    s!"invalid literal for int() with base {base}: " ++
    String.ofList ((quoted text).toList.take 200)
  | .tooLong digits =>
    s!"Exceeds the limit ({digitLimit} digits) for integer string conversion: " ++
    s!"value has {digits} digits; use sys.set_int_max_str_digits() to increase the limit"
  | .unwritable =>
    s!"Exceeds the limit ({digitLimit} digits) for integer string conversion; " ++
    "use sys.set_int_max_str_digits() to increase the limit"

/-- Whether a number has no more decimal digits than are written. -/
def isWritable (n : Int) : Bool := n.natAbs < Nat.pow 10 digitLimit

/-- Reads a whole number in a base. Only decimal numbers have a limit. -/
def integerIn (base : Nat) (s : String) : Except IntegerError Int :=
  let (negative, body) := sign (trimNumber s.toList)
  match groupedDigits? base (dropRadixMark base body) with
  | none => .error (.malformed base s)
  | some digits =>
    if base = 10 && digits.length > digitLimit then .error (.tooLong digits.length)
    else
      let n : Int := ofDigits base digits
      .ok (if negative then -n else n)

def integer (s : String) : Except IntegerError Int := integerIn 10 s

end LocalCI.Text
