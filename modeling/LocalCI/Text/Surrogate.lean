/-! Surrogate code points. An escape may name one although it is no character; it is kept as the
character `0xF0000` further on, in a plane for private use. -/
namespace LocalCI.Text

def surrogateShift : Nat := 0xF0000

def isSurrogate (n : Nat) : Bool := 0xD800 ≤ n && n ≤ 0xDFFF

/-- The character kept for a code point. -/
def charOf (n : Nat) : Char := Char.ofNat (if isSurrogate n then n + surrogateShift else n)

/-- The code point that a character is kept for. -/
def codeOf (c : Char) : Nat :=
  let n := c.toNat - surrogateShift
  if isSurrogate n then n else c.toNat

end LocalCI.Text
