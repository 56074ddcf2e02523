/-! Double-precision numbers as exact values, rounded to nearest with ties to even. A finite number
is `mantissa * 2 ^ exponent`; every operation here computes exactly and rounds once, so nothing
rests on machine arithmetic. Both zeros are kept. -/
namespace LocalCI

inductive Binary64 where
  | finite (negative : Bool) (mantissa : Nat) (exponent : Int)
  | infinite (negative : Bool)
  | nan
deriving DecidableEq, Repr

namespace Binary64

/-- The product of `n` factors `b`. -/
def power (b n : Nat) : Nat := Nat.pow b n

def leastExponent : Int := -1074

def greatestExponent : Int := 971

/-- The fraction `num / (den * 2 ^ e)`, as a numerator and a denominator. -/
def scaleDown (num den : Nat) (e : Int) : Nat × Nat :=
  if 0 ≤ e then (num, den * power 2 e.toNat) else (num * power 2 (-e).toNat, den)

/-- The whole number nearest to `num / den`; of two, the even one. -/
def roundToEven (num den : Nat) : Nat :=
  let q := num / den
  let twice := 2 * (num % den)
  if twice < den then q else if den < twice then q + 1 else q + q % 2

/-- The exponent at which `num / den` has a mantissa of 53 binary digits, or the least one. -/
def exponentFor (num den : Nat) : Int :=
  let low : Int := (num.log2 : Int) - (den.log2 : Int) - 53
  let (n, d) := scaleDown num den low
  max leastExponent (if n < d * power 2 53 then low else low + 1)

/-- The number nearest to `num / den`. -/
def ofRatio (negative : Bool) (num den : Nat) : Binary64 :=
  if num = 0 then .finite negative 0 leastExponent
  else
    let e := exponentFor num den
    let (n, d) := scaleDown num den e
    let m := roundToEven n d
    let (m, e) := if m = power 2 53 then (power 2 52, e + 1) else (m, e)
    if greatestExponent < e then .infinite negative else .finite negative m e

/-- The number nearest to `n * 2 ^ e`; an exact zero takes the given sign. -/
def ofScaled (zeroNegative : Bool) (n : Int) (e : Int) : Binary64 :=
  let negative := if n = 0 then zeroNegative else n < 0
  if 0 ≤ e then ofRatio negative (n.natAbs * power 2 e.toNat) 1
  else ofRatio negative n.natAbs (power 2 (-e).toNat)

def ofNat (n : Nat) : Binary64 := ofRatio false n 1

def neg : Binary64 → Binary64
  | .finite s m e => .finite (!s) m e
  | .infinite s => .infinite (!s)
  | .nan => .nan

def signed (negative : Bool) (m : Nat) : Int := if negative then -(m : Int) else m

def add : Binary64 → Binary64 → Binary64
  | .nan, _ => .nan
  | _, .nan => .nan
  | .infinite s, .infinite t => if s = t then .infinite s else .nan
  | .infinite s, _ => .infinite s
  | _, .infinite t => .infinite t
  | .finite s m e, .finite t n f =>
    let low := min e f
    ofScaled (s && t)
      (signed s (m * power 2 (e - low).toNat) + signed t (n * power 2 (f - low).toNat)) low

def mul : Binary64 → Binary64 → Binary64
  | .nan, _ => .nan
  | _, .nan => .nan
  | .finite s m e, .finite t n f => ofScaled (s != t) (signed s m * signed t n) (e + f)
  | .infinite s, .finite t n _ => if n = 0 then .nan else .infinite (s != t)
  | .finite s m _, .infinite t => if m = 0 then .nan else .infinite (s != t)
  | .infinite s, .infinite t => .infinite (s != t)

def isZero : Binary64 → Bool
  | .finite _ m _ => m == 0
  | _ => false

/-- Whether two numbers are equal. The zeros are; a not-a-number equals nothing. -/
def equals : Binary64 → Binary64 → Bool
  | .nan, .nan => false
  | x, y => x == y || (x.isZero && y.isZero)

/-- Whether the number is exactly the whole number `n`. -/
def equalsInt (x : Binary64) (n : Int) : Bool :=
  match x with
  | .finite s m e =>
    if 0 ≤ e then signed s (m * power 2 e.toNat) == n else signed s m == n * power 2 (-e).toNat
  | _ => false

/-- The number without its fraction. -/
def truncate? : Binary64 → Option Int
  | .finite s m e =>
    some (signed s (if 0 ≤ e then m * power 2 e.toNat else m / power 2 (-e).toNat))
  | _ => none

end Binary64
end LocalCI
