import LocalCI.Value

/-! The order in which a set lists its numbers. Each of them has a residue, which leads to places in a
table that is larger than the set. It takes the first place that is free, and the set is listed place
by place. -/
namespace LocalCI

namespace Binary64

/-- The greatest whole number of 61 binary digits, a prime. -/
def modulus : Nat := 0x1FFFFFFFFFFFFFFF

/-- A residue with its sign. Minus one is not used; minus two stands for it. -/
def signedResidue (negative : Bool) (n : Nat) : Int :=
  if negative then (if n = 1 then -2 else -(n : Int)) else n

/-- Halves are residues too, because doubling 61 times changes nothing. -/
def residue? : Binary64 → Option Int
  | .finite s m e => some (signedResidue s (m * power 2 (e.emod 61).toNat % modulus))
  | .infinite s => some (signedResidue s 314159)
  | .nan => none

end Binary64

namespace Scalar

/-- Equal numbers have equal residues, whatever their type. -/
def residue? : Scalar → Option Int
  | .bool b => some (if b then 1 else 0)
  | .int n => some (Binary64.signedResidue (n < 0) (n.natAbs % Binary64.modulus))
  | .real x => x.residue?
  | _ => none

end Scalar

namespace SetOrder

/-- A power of two above twice the number of elements; small sets fit in eight places. -/
def tableSize (count : Nat) : Nat :=
  if count < 5 then 8 else Nat.pow 2 (Nat.log2 (2 * count) + 1)

/-- This many places in a row are tried, unless the table ends before. -/
def rowLength : Nat := 10

def freeIn (table : Array (Option Scalar)) (start : Nat) : Option Nat :=
  let row := if start + rowLength ≤ table.size then rowLength else 1
  (List.range' start row).find? fun i => (table.getD i none).isNone

/-- The first free place. From row to row, less and less of the residue is left. -/
def placeFor (table : Array (Option Scalar)) : Nat → Nat → Nat → Nat
  | 0, _, start => start
  | fuel + 1, rest, start =>
    match freeIn table start with
    | some i => i
    | none =>
      let rest := rest / 32
      placeFor table fuel rest ((start * 5 + 1 + rest) % table.size)

def add (table : Array (Option Scalar)) (s : Scalar) (residue : Int) : Array (Option Scalar) :=
  let rest := (residue.emod 0x10000000000000000).toNat
  table.setIfInBounds (placeFor table (table.size + 64) rest (rest % table.size)) (some s)

/-- Numbers by their places; other elements as they were put in. -/
def list (elements : List Scalar) : List Scalar :=
  match elements.mapM fun s => s.residue?.map fun r => (s, r) with
  | none => elements
  | some numbers =>
    let empty : Array (Option Scalar) := Array.replicate (tableSize elements.length) none
    (numbers.foldl (fun table (s, r) => add table s r) empty).toList.filterMap id

end SetOrder
end LocalCI
