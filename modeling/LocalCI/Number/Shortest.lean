import LocalCI.Number.Binary64

/-! The fewest decimal digits that read back as the same number, and of those the nearest to it. -/
namespace LocalCI.Binary64

/-- The decimals that round to a number are those between two bounds. They and the number itself are
counted in quarters of the last binary place, so all three are whole. -/
structure Interval where
  low : Nat
  middle : Nat
  high : Nat
  /-- The bounds themselves belong to it just for an even mantissa. -/
  closed : Bool

def interval (m : Nat) (e : Int) : Interval :=
  let below := if m = power 2 52 && leastExponent < e then 1 else 2
  ⟨4 * m - below, 4 * m, 4 * m + 2, m % 2 == 0⟩

/-- Two units as whole numbers in the right ratio: `10 ^ tens` and `2 ^ twos`. -/
def commonUnits (tens twos : Int) : Nat × Nat :=
  (power 10 tens.toNat * power 2 (-twos).toNat, power 2 twos.toNat * power 10 (-tens).toNat)

def Interval.holds (i : Interval) (unit10 unit2 d : Nat) : Bool :=
  let x := d * unit10
  if i.closed then i.low * unit2 ≤ x && x ≤ i.high * unit2
  else i.low * unit2 < x && x < i.high * unit2

/-- The nearest multiple of `10 ^ tens` inside the interval, of two equally near the even one. -/
def Interval.nearest? (i : Interval) (tens twos : Int) : Option Nat :=
  let (unit10, unit2) := commonUnits tens twos
  let v := i.middle * unit2
  let d := v / unit10
  let lower := i.holds unit10 unit2 d
  let upper := i.holds unit10 unit2 (d + 1)
  let gap := 2 * (v % unit10)
  if lower && upper then some (if gap < unit10 || (gap == unit10 && d % 2 == 0) then d else d + 1)
  else if lower then some d
  else if upper then some (d + 1)
  else none

/-- The place of the decimal point: the least `k` from `start` on with the number below `10 ^ k`. -/
def pointFrom (middle : Nat) (twos : Int) : Nat → Int → Int
  | 0, k => k
  | fuel + 1, k =>
    let (unit10, unit2) := commonUnits k twos
    if middle * unit2 < unit10 then k else pointFrom middle twos fuel (k + 1)

def point (middle : Nat) (twos : Int) : Int :=
  let bits : Int := (middle.log2 : Int) + twos
  pointFrom middle twos 4 (bits * 30103 / 100000 - 1)

/-- Tries ever finer grids; the seventeenth always has a hit. -/
def digitsFrom (i : Interval) (twos point : Int) : Nat → Int → Nat × Int
  | 0, count => (i.nearest? (point - count) twos |>.getD 0, point - count)
  | fuel + 1, count =>
    match i.nearest? (point - count) twos with
    | some d => (d, point - count)
    | none => digitsFrom i twos point fuel (count + 1)

/-- Digits `d` and a power `k` of ten: the decimal `d * 10 ^ k` stands for `m * 2 ^ e`, `m > 0`. -/
def shortest (m : Nat) (e : Int) : Nat × Int :=
  let i := interval m e
  digitsFrom i (e - 2) (point i.middle (e - 2)) 17 1

/-- Drops zeros at the end of the digits. -/
def dropZeros (ds : List Char) : List Char := (ds.reverse.dropWhile (· == '0')).reverse

/-- Positional from 0.0001 up to 16 whole digits, and always with a point; otherwise an exponent
with its sign and at least two digits. -/
def layout (digits : List Char) (point : Int) : List Char :=
  if -4 < point && point ≤ 16 then
    if point ≤ 0 then '0' :: '.' :: (List.replicate (-point).toNat '0' ++ digits)
    else
      let k := point.toNat
      if digits.length ≤ k then digits ++ List.replicate (k - digits.length) '0' ++ ['.', '0']
      else digits.take k ++ '.' :: digits.drop k
  else
    let exponent := point - 1
    let ds := Nat.toDigits 10 exponent.natAbs
    let mantissa := match digits with
      | [] => []
      | [d] => [d]
      | d :: rest => d :: '.' :: rest
    mantissa ++ ['e', if exponent < 0 then '-' else '+'] ++
      List.replicate (2 - ds.length) '0' ++ ds

def text : Binary64 → String
  | .nan => "nan"
  | .infinite s => if s then "-inf" else "inf"
  | .finite s m e =>
    let mark := if s then ['-'] else []
    if m = 0 then String.ofList (mark ++ ['0', '.', '0'])
    else
      let (d, k) := shortest m e
      let ds := Nat.toDigits 10 d
      String.ofList (mark ++ layout (dropZeros ds) (k + ds.length))

end LocalCI.Binary64
