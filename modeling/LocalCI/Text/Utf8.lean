import LocalCI.Text.Quoted

/-! Decoding bytes as UTF-8, with the place and the reason where it stops. -/
namespace LocalCI.Text

/-- The bytes from `start` up to `stop` that cannot be decoded. -/
structure Undecodable where
  first : UInt8
  start : Nat
  stop : Nat
  reason : String
deriving DecidableEq, Repr

def Undecodable.message (e : Undecodable) : String :=
  let place :=
    if e.stop = e.start + 1 then
      "byte 0x" ++ String.ofList (hexDigits 2 e.first.toNat) ++ s!" in position {e.start}"
    else s!"bytes in position {e.start}-{e.stop - 1}"
  "'utf-8' codec can't decode " ++ place ++ ": " ++ e.reason

/-- How many bytes a character takes that starts with this one. -/
def sequenceLength? (b : UInt8) : Option Nat :=
  let n := b.toNat
  if n < 0x80 then some 1
  else if n < 0xC2 then none
  else if n < 0xE0 then some 2
  else if n < 0xF0 then some 3
  else if n < 0xF5 then some 4
  else none

/-- Whether `b` may follow the first byte: neither an overlong form, a surrogate nor a code point
past the last one begins so. -/
def isSecondByte (first b : UInt8) : Bool :=
  let n := b.toNat
  let lo := if first.toNat = 0xE0 then 0xA0 else if first.toNat = 0xF0 then 0x90 else 0x80
  let hi := if first.toNat = 0xED then 0x9F else if first.toNat = 0xF4 then 0x8F else 0xBF
  lo ≤ n && n ≤ hi

def isFollowByte (b : UInt8) : Bool := 0x80 ≤ b.toNat && b.toNat ≤ 0xBF

/-- The bytes at the front that fit the sequence begun by `first`. -/
def fitting (first : UInt8) (wanted : Nat) (rest : List UInt8) : List UInt8 :=
  match rest.take wanted with
  | [] => []
  | b :: more => if isSecondByte first b then b :: more.takeWhile isFollowByte else []

def leadBits (wanted : Nat) (first : UInt8) : Nat :=
  if wanted = 0 then first.toNat else first.toNat % (1 <<< (6 - wanted))

def codePoint (first : UInt8) (follow : List UInt8) : Nat :=
  follow.foldl (fun n b => n * 64 + b.toNat % 64) (leadBits follow.length first)

/-- `skip` bytes of the character last read are still to be passed. -/
def decodeFrom : Nat → Nat → List UInt8 → Except Undecodable (List Char)
  | _, _, [] => .ok []
  | place, skip + 1, _ :: rest => decodeFrom (place + 1) skip rest
  | place, 0, b :: rest =>
    match sequenceLength? b with
    | none => .error ⟨b, place, place + 1, "invalid start byte"⟩
    | some n =>
      let follow := fitting b (n - 1) rest
      if follow.length = n - 1 then
        (decodeFrom (place + 1) (n - 1) rest).map (Char.ofNat (codePoint b follow) :: ·)
      else if follow.length = rest.length then
        .error ⟨b, place, place + 1 + rest.length, "unexpected end of data"⟩
      else .error ⟨b, place, place + 1 + follow.length, "invalid continuation byte"⟩

def decode (bytes : List UInt8) : Except Undecodable String :=
  (decodeFrom 0 0 bytes).map String.ofList

end LocalCI.Text
