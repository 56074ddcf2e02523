import LocalCI.Number.Binary64
import LocalCI.Text.Integer
import LocalCI.Text.Lowercase

/-! Reading decimals as double-precision numbers. -/
namespace LocalCI.Binary64

open LocalCI.Text

/-- The number nearest to `digits * 10 ^ tens`. Exponents out of all range are settled first, so that
no power grows with the text. -/
def ofDecimal (negative : Bool) (digits : Nat) (tens : Int) : Binary64 :=
  let size : Int := digits.log2 / 3 + 1
  if digits = 0 then .finite negative 0 leastExponent
  else if 400 < tens then .infinite negative
  else if size + tens < -400 then .finite negative 0 leastExponent
  else if 0 ≤ tens then ofRatio negative (digits * power 10 tens.toNat) 1
  else ofRatio negative digits (power 10 (-tens).toNat)

/-- The digits of one part of a decimal; the part may be empty. -/
def part? (cs : List Char) : Option (List Nat) :=
  if cs.isEmpty then some [] else groupedDigits? 10 cs

def exponentPart? (cs : List Char) : Option Int :=
  let (negative, body) := sign cs
  (groupedDigits? 10 body).map fun ds =>
    let n : Int := ofDigits 10 ds
    if negative then -n else n

/-- Whole digits, an optional point with more digits, and an optional exponent. -/
def unsigned? (negative : Bool) (cs : List Char) : Option Binary64 :=
  let (mantissa, tens?) := match cutChars 'e' cs with
    | some (l, r) => (l, exponentPart? r)
    | none => (cs, some 0)
  let (whole, fraction) := (cutChars '.' mantissa).getD (mantissa, [])
  match part? whole, part? fraction, tens? with
  | some ws, some fs, some tens =>
    if ws.isEmpty && fs.isEmpty then none
    else some (ofDecimal negative (ofDigits 10 (ws ++ fs)) (tens - fs.length))
  | _, _, _ => none

def read? (s : String) : Option Binary64 :=
  let (negative, body) := sign (trimNumber s.toList)
  let word := lower (String.ofList body)
  if word = "inf" || word = "infinity" then some (.infinite negative)
  else if word = "nan" then some .nan
  else unsigned? negative word.toList

end LocalCI.Binary64
