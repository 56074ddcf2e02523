import LocalCI.Text.Printable
import LocalCI.Text.Surrogate

/-! Texts and bytes in quotes, so that every character can be told apart. Single quotes are used
unless the text has one and has no double quote. -/
namespace LocalCI.Text

def hexDigits (width n : Nat) : List Char :=
  let ds := Nat.toDigits 16 n
  List.replicate (width - ds.length) '0' ++ ds

def escapeChar (quote c : Char) : List Char :=
  if c = quote || c = '\\' then ['\\', c]
  else if c = '\n' then ['\\', 'n']
  else if c = '\r' then ['\\', 'r']
  else if c = '\t' then ['\\', 't']
  else if isPrintable c then [c]
  else if codeOf c < 0x100 then '\\' :: 'x' :: hexDigits 2 (codeOf c)
  else if codeOf c < 0x10000 then '\\' :: 'u' :: hexDigits 4 (codeOf c)
  else '\\' :: 'U' :: hexDigits 8 (codeOf c)

def escapeByte (quote : Char) (b : UInt8) : List Char :=
  if b < 0x80 then escapeChar quote (Char.ofNat b.toNat) else '\\' :: 'x' :: hexDigits 2 b.toNat

def quoteFor (cs : List Char) : Char :=
  if cs.contains '\'' && !cs.contains '"' then '"' else '\''

def quoted (s : String) : String :=
  let cs := s.toList
  let q := quoteFor cs
  String.ofList (q :: (cs.flatMap (escapeChar q) ++ [q]))

/-- Bytes in quotes, those outside ASCII by their number. -/
def quotedBytes (bytes : List UInt8) : String :=
  let q := quoteFor (bytes.map fun b => Char.ofNat b.toNat)
  String.ofList ('b' :: q :: (bytes.flatMap (escapeByte q) ++ [q]))

/-- Items in square brackets, with a comma and a space between them. -/
def bracketed (items : List String) : String := "[" ++ ", ".intercalate items ++ "]"

def quotedList (items : List String) : String := bracketed (items.map quoted)

end LocalCI.Text
