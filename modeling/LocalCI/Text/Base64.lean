/-! Bytes written in base 64. Characters outside the alphabet are passed over, and nothing is read
after the padding of an incomplete group of four. -/
namespace LocalCI.Text

def sextet? (c : Char) : Option Nat :=
  if 'A' ≤ c && c ≤ 'Z' then some (c.toNat - 0x41)
  else if 'a' ≤ c && c ≤ 'z' then some (c.toNat - 0x61 + 26)
  else if c.isDigit then some (c.toNat - 0x30 + 52)
  else if c = '+' then some 62
  else if c = '/' then some 63
  else none

/-- Reads on after `place` characters of a group of four: `left` holds the bits that are not yet part
of a byte, `pads` counts the padding since the last of them. -/
def bytesFrom (place left pads : Nat) : List Char → Option (List UInt8)
  | [] => if place = 0 then some [] else none
  | c :: rest =>
    if c = '=' then
      if place < 2 then bytesFrom place left pads rest
      else if 4 ≤ place + pads + 1 then some []
      else bytesFrom place left (pads + 1) rest
    else match sextet? c, place with
      | none, _ => bytesFrom place left pads rest
      | some n, 0 => bytesFrom 1 n 0 rest
      | some n, 1 => (bytesFrom 2 (n % 16) 0 rest).map ((left * 4 + n / 16).toUInt8 :: ·)
      | some n, 2 => (bytesFrom 3 (n % 4) 0 rest).map ((left * 16 + n / 4).toUInt8 :: ·)
      | some n, _ => (bytesFrom 0 0 0 rest).map ((left * 64 + n).toUInt8 :: ·)

/-- The bytes that a text stands for; none if the last group of four is incomplete. -/
def base64? (s : String) : Option (List UInt8) := bytesFrom 0 0 0 s.toList

end LocalCI.Text
