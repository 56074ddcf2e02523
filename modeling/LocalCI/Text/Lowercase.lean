import LocalCI.Text.Lowercase.Table

/-! Lower-casing of whole texts. It is not character by character: a capital sigma at the end of a
word becomes the final form, and the capital I with a dot becomes two characters. -/
namespace LocalCI.Text

def within (ranges : List (Nat × Nat)) (c : Char) : Bool :=
  let n := c.toNat
  ranges.any fun (lo, hi) => lo ≤ n && n ≤ hi

def CaseRun.covers (run : CaseRun) (n : Nat) : Bool :=
  run.lo ≤ n && n ≤ run.hi && (n - run.lo) % run.step == 0

def lowerChar (c : Char) : Char :=
  if c.toNat < 0x80 then c.toLower
  else match caseRuns.find? (·.covers c.toNat) with
    | some run => Char.ofNat (Int.toNat (c.toNat + run.shift))
    | none => c

/-- Whether the next character that is not passed over is a letter with case. -/
def meetsCased (cs : List Char) : Bool :=
  match cs.dropWhile (within passedOver) with
  | [] => false
  | c :: _ => within casedLetters c

/-- `before` holds the characters already read, the nearest first. -/
def lowerFrom : List Char → List Char → List Char
  | _, [] => []
  | before, c :: rest =>
    let low :=
      if c = 'Σ' then [if meetsCased before && !meetsCased rest then 'ς' else 'σ']
      else if c = 'İ' then ['i', Char.ofNat 0x307]
      else [lowerChar c]
    low ++ lowerFrom (c :: before) rest

def lower (s : String) : String := String.ofList (lowerFrom [] s.toList)

end LocalCI.Text
