import LocalCI.Yaml.Build

/-! The data that a document holds. -/
namespace LocalCI.Yaml

/-- A value and what it has to do with loops. -/
structure Tied where
  value : Value
  /-- The labels of the loops around it that it mentions. -/
  mentions : List Nat := []
  /-- Whether there is a loop in it. -/
  looped : Bool := false

namespace Tied

/-- A collection of parts. -/
def ofParts (v : Value) (parts : List Tied) : Tied :=
  ⟨v, parts.flatMap mentions, parts.any looped⟩

/-- Makes a loop of a collection that mentions one. -/
def close (label : Nat) (t : Tied) : Tied :=
  if t.mentions.isEmpty then t
  else ⟨.loop label t.value, t.mentions.filter (· ≠ label), true⟩

end Tied

/-- The values of collections without loops that are known, by the collections' numbers. -/
abbrev Tying := StateM (Array (Option Value))

/-- The value of a part inside of the collections whose numbers are given. -/
def tie (collections : Array Collection) : Nat → List Nat → Part → Tying Tied
  | 0, _, _ => return ⟨.null, [], false⟩
  | _ + 1, _, .scalar a => return ⟨.scalar a.scalar, [], false⟩
  | fuel + 1, around, .collection number => do
    if around.contains number then return ⟨.again number, [number], false⟩
    match (← get)[number]? with
    | some (some v) => return ⟨v, [], false⟩
    | _ =>
      let inside := tie collections fuel (number :: around)
      let body ←
        match collections[number]? with
        | some (.list items) => do
          let parts ← items.mapM inside
          pure (Tied.ofParts (.list (parts.map Tied.value)) parts)
        | some (.map entries) => do
          let parts ← entries.mapM fun (_, part) => inside part
          pure (Tied.ofParts (.map ((entries.map Prod.fst).zip (parts.map Tied.value))) parts)
        | some (.set elements) => pure (Tied.ofParts (.set elements) [])
        | some (.pairs items) => do
          let pairs ← items.zipIdx.mapM fun ((first, second), index) => do
            let first ← inside first
            let second ← inside second
            let pair := Tied.ofParts (.pair first.value second.value) [first, second]
            return pair.close (collections.size * (index + 1) + number)
          pure (Tied.ofParts (.list (pairs.map Tied.value)) pairs)
        | none => pure ⟨.null, [], false⟩
      let whole := body.close number
      if !whole.looped then modify fun known => known.setIfInBounds number (some whole.value)
      return whole

/-- The data of a text's one document; an empty text holds null. -/
def read (text : String) : Except Trouble Value := do
  match ← Document.read? text with
  | none => return .null
  | some d =>
    let (root, collections) ← d.build
    let known : Array (Option Value) := Array.replicate collections.size none
    return ((tie collections (collections.size + 1) [] root).run known).1.value

end LocalCI.Yaml
