/-! Blank characters, and the trimming and word splitting they define. -/
namespace LocalCI.Text

/-- White space: the ASCII blanks and separators, next line, and the Unicode space separators. The
zero-width space and the byte order mark are not among them. -/
def isBlank (c : Char) : Bool :=
  let n := c.toNat
  (0x09 ≤ n && n ≤ 0x0D) || (0x1C ≤ n && n ≤ 0x20) || n == 0x85 || n == 0xA0 || n == 0x1680 ||
  (0x2000 ≤ n && n ≤ 0x200A) || n == 0x2028 || n == 0x2029 || n == 0x202F || n == 0x205F ||
  n == 0x3000

def trimStart (cs : List Char) : List Char := cs.dropWhile isBlank

def trimEnd (cs : List Char) : List Char := (cs.reverse.dropWhile isBlank).reverse

def trim (cs : List Char) : List Char := trimEnd (trimStart cs)

/-- The text without the blanks around it. -/
def strip (s : String) : String := String.ofList (trim s.toList)

def stripEnd (s : String) : String := String.ofList (trimEnd s.toList)

/-- A blank text has nothing but blanks, so nothing is left of it by `strip`. -/
def isBlankText (s : String) : Bool := s.toList.all isBlank

def wordsFrom : List Char → List Char → List (List Char)
  | word, [] => if word.isEmpty then [] else [word.reverse]
  | word, c :: rest =>
    if isBlank c then
      if word.isEmpty then wordsFrom [] rest else word.reverse :: wordsFrom [] rest
    else wordsFrom (c :: word) rest

/-- The maximal runs of characters that are not blank. -/
def words (s : String) : List String := (wordsFrom [] s.toList).map String.ofList

end LocalCI.Text
