/-! Looking for one text inside another: cutting, splitting and replacing. -/
namespace LocalCI.Text

def occursIn (needle : List Char) : List Char → Bool
  | [] => needle.isEmpty
  | c :: rest => needle.isPrefixOf (c :: rest) || occursIn needle rest

/-- Whether `needle` is a substring of `s`. -/
def contains (s needle : String) : Bool := occursIn needle.toList s.toList

def startsWith (s start : String) : Bool := start.toList.isPrefixOf s.toList

/-- What follows `start`, if the text starts with it. -/
def after? (start s : String) : Option String :=
  if startsWith s start then some (String.ofList (s.toList.drop start.length)) else none

def cutChars (c : Char) : List Char → Option (List Char × List Char)
  | [] => none
  | d :: rest => if d = c then some ([], rest) else (cutChars c rest).map fun (l, r) => (d :: l, r)

/-- The parts before and after the first `c`. -/
def cut? (c : Char) (s : String) : Option (String × String) :=
  (cutChars c s.toList).map fun (l, r) => (String.ofList l, String.ofList r)

def splitChars (c : Char) : List Char → List (List Char)
  | [] => [[]]
  | d :: rest =>
    if d = c then [] :: splitChars c rest
    else match splitChars c rest with
      | [] => [[d]]
      | part :: parts => (d :: part) :: parts

/-- The parts between the occurrences of `c`: one more than there are occurrences. -/
def split (c : Char) (s : String) : List String := (splitChars c s.toList).map String.ofList

/-- Replaces from left to right; `skip` characters of the last match are still to be passed. -/
def replaceFrom (old new : List Char) : Nat → List Char → List Char
  | _, [] => []
  | skip + 1, _ :: rest => replaceFrom old new skip rest
  | 0, c :: rest =>
    if old.isPrefixOf (c :: rest) then new ++ replaceFrom old new (old.length - 1) rest
    else c :: replaceFrom old new 0 rest

/-- Every occurrence of the non-empty text `old` that does not overlap an earlier one becomes `new`. -/
def replaceAll (old new s : String) : String :=
  String.ofList (replaceFrom old.toList new.toList 0 s.toList)

/-- The last `n` characters. -/
def lastChars (n : Nat) (s : String) : String :=
  let cs := s.toList
  String.ofList (cs.drop (cs.length - n))

end LocalCI.Text
