import LocalCI.Text.Quoted

/-! Texts that cannot be written as UTF-8, because surrogates have no encoding. -/
namespace LocalCI.Text

def isKeptSurrogate (c : Char) : Bool := isSurrogate (codeOf c)

/-- The first surrogates of a text that stand together, and the place of the first of them. -/
structure Unencodable where
  start : Nat
  codes : List Nat
deriving DecidableEq, Repr

namespace Unencodable

def message (e : Unencodable) : String :=
  let place := match e.codes with
    | [code] => "character '\\u" ++ String.ofList (hexDigits 4 code) ++ s!"' in position {e.start}"
    | codes => s!"characters in position {e.start}-{e.start + codes.length - 1}"
  "'utf-8' codec can't encode " ++ place ++ ": surrogates not allowed"

/-- Nothing for a text that can be encoded. -/
def find? (s : String) : Option Unencodable :=
  let start := (s.toList.takeWhile fun c => !isKeptSurrogate c).length
  match (s.toList.drop start).takeWhile isKeptSurrogate with
  | [] => none
  | found => some ⟨start, found.map codeOf⟩

end Unencodable

/-- The text with the numbers of surrogates in their place. -/
def escapeSurrogates (s : String) : String :=
  String.ofList (s.toList.flatMap fun c =>
    if isKeptSurrogate c then '\\' :: 'u' :: hexDigits 4 (codeOf c) else [c])

end LocalCI.Text
