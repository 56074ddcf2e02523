import LocalCI.Fault
import Mathlib.Data.List.Basic

/-! What keeps a value from being written as a text: a whole number that is too long, or too many values
inside of one another. Data is read part by part, so what a reader meets is a part of the data. -/
namespace LocalCI

theorem Scalar.isWritable_of_empty {s : Scalar} (empty : s.isTruthy = false) :
    s.isWritable = true := by
  cases s with
  | int n =>
    have zero : n = 0 := by simpa [isTruthy] using empty
    subst zero
    unfold isWritable Text.isWritable
    -- The limit is a large number; that it is a power is all that counts.
    generalize Text.digitLimit = limit
    exact decide_eq_true (Nat.pow_pos (by decide))
  | _ => rfl

namespace Value

mutual

/-- Every whole number in it is short enough to be written. -/
def isWritable : Value → Bool
  | .scalar s => s.isWritable
  | .list items => allWritable items
  | .map entries => entriesWritable entries
  | .set elements => elements.all Scalar.isWritable
  | .pair first second => first.isWritable && second.isWritable
  | .loop _ body => body.isWritable
  | .again _ => true

def allWritable : List Value → Bool
  | [] => true
  | v :: rest => v.isWritable && allWritable rest

def entriesWritable : Entries → Bool
  | [] => true
  | (key, v) :: rest => (key.isWritable && v.isWritable) && entriesWritable rest

end

mutual

/-- How many values are written inside of one another. -/
def height : Value → Nat
  | .scalar _ => 0
  | .list items => heightAll items
  | .map entries => heightEntries entries
  | .set elements => if elements.isEmpty then 0 else 2
  | .pair first second => max first.height second.height + 1
  | .loop _ body => body.height
  | .again _ => 0

def heightAll : List Value → Nat
  | [] => 0
  | v :: rest => max (v.height + 1) (heightAll rest)

def heightEntries : Entries → Nat
  | [] => 0
  | (_, v) :: rest => max (v.height + 1) (heightEntries rest)

end

/-- What the obstacle tells of something that can be `writable` and has a height. -/
def Obstacle.Tells (room : Nat) (writable : Bool) (height : Nat) : Obstacle → Prop
  | .number => writable = false
  | .depth => room < height

section Obstacles

variable {room : Nat} {o : Obstacle}

theorem Obstacle.Tells.mono {others : Nat} {writable another : Bool} {height higher : Nat}
    (tells : o.Tells others writable height) (writes : writable = false → another = false)
    (rises : others < height → room < higher) : o.Tells room another higher := by
  cases o with
  | number => exact writes tells
  | depth => exact rises tells

mutual

/-- An obstacle is there for a reason. -/
theorem obstacleWithin_tells {room : Nat} {around : List Nat} :
    (v : Value) → obstacleWithin room around v = some o → o.Tells room v.isWritable v.height
  | .scalar s, found => by
    rw [obstacleWithin] at found
    split at found
    · cases found
    · cases found
      simpa [Obstacle.Tells, isWritable] using ‹¬ s.isWritable = true›
  | .list items, found => obstacleAmong_tells items found
  | .map entries, found => obstacleInEntries_tells entries found
  | .set elements, found => by
    rw [obstacleWithin] at found
    split at found
    · cases found
    next filled =>
      split at found
      next few =>
        cases found
        simpa [Obstacle.Tells, height, filled] using few
      next =>
        split at found
        · cases found
        next long =>
          cases found
          simpa [Obstacle.Tells, isWritable] using long
  | .pair first second, found => by
    cases room with
    | zero =>
      cases found
      simp [Obstacle.Tells, height]
    | succ room =>
      rw [obstacleWithin] at found
      rcases Option.or_eq_some_iff.mp found with found | ⟨_, found⟩
      · exact (obstacleWithin_tells first found).mono (by simp_all [isWritable]) (by simp [height]; omega)
      · exact (obstacleWithin_tells second found).mono (by simp_all [isWritable]) (by simp [height]; omega)
  | .loop label body, found => by
    rw [obstacleWithin] at found
    split at found
    · cases found
    · exact obstacleWithin_tells body found
  | .again _, found => nomatch found

theorem obstacleAmong_tells {room : Nat} {around : List Nat} :
    (items : List Value) → obstacleAmong room around items = some o →
      o.Tells room (allWritable items) (heightAll items)
  | [], found => nomatch found
  | v :: rest, found => by
    cases room with
    | zero =>
      cases found
      simp only [Obstacle.Tells, heightAll]
      omega
    | succ room =>
      rw [obstacleAmong] at found
      rcases Option.or_eq_some_iff.mp found with found | ⟨_, found⟩
      · exact (obstacleWithin_tells v found).mono (by simp_all [allWritable]) (by simp [heightAll]; omega)
      · exact (obstacleAmong_tells rest found).mono (by simp_all [allWritable])
          (by simp [heightAll]; omega)

theorem obstacleInEntries_tells {room : Nat} {around : List Nat} :
    (entries : Entries) → obstacleInEntries room around entries = some o →
      o.Tells room (entriesWritable entries) (heightEntries entries)
  | [], found => nomatch found
  | (key, v) :: rest, found => by
    cases room with
    | zero =>
      cases found
      simp only [Obstacle.Tells, heightEntries]
      omega
    | succ room =>
      rw [obstacleInEntries] at found
      split at found
      next long =>
        cases found
        simp_all [Obstacle.Tells, entriesWritable]
      next =>
        rcases Option.or_eq_some_iff.mp found with found | ⟨_, found⟩
        · exact (obstacleWithin_tells v found).mono (by simp_all [entriesWritable])
            (by simp [heightEntries]; omega)
        · exact (obstacleInEntries_tells rest found).mono (by simp_all [entriesWritable])
            (by simp [heightEntries]; omega)

end

end Obstacles

/-- Nothing keeps the value from being written. -/
def fits (room : Nat) (v : Value) : Bool := (v.obstacle? room).isNone

section Text

variable {room : Nat} {v : Value}

theorem asText_eq (room : Nat) (v : Value) : v.asText room =
    match v.obstacle? room with
    | none => .ok v.toText
    | some o => .error o.fault := by
  unfold asText write
  cases v.obstacle? room <;> rfl

theorem asText_of_fits (fit : v.fits room = true) : v.asText room = .ok v.toText := by
  rw [asText_eq, Option.isNone_iff_eq_none.mp fit]

theorem asText_ok_iff {t : String} : v.asText room = .ok t ↔ v.fits room = true ∧ v.toText = t := by
  rw [asText_eq, fits]
  cases v.obstacle? room <;> simp

theorem obstacleWithin_of_empty {around : List Nat} :
    (v : Value) → v.isTruthy = false → obstacleWithin room around v = none
  | .scalar s, empty => by rw [obstacleWithin, if_pos (Scalar.isWritable_of_empty empty)]
  | .list [], _ => rfl
  | .map [], _ => rfl
  | .set [], _ => rfl
  | .loop label body, empty => by
    rw [obstacleWithin]
    split
    · rfl
    · exact obstacleWithin_of_empty body empty

/-- What counts as empty can always be written. -/
theorem fits_of_empty (empty : v.isTruthy = false) : v.fits room = true := by
  rw [fits, obstacle?, obstacleWithin_of_empty v empty, Option.isNone_none]

end Text

section Parts

theorem allWritable_iff {items : List Value} :
    allWritable items = true ↔ ∀ v ∈ items, v.isWritable = true := by
  induction items with
  | nil => simp [allWritable]
  | cons v rest ih => simp [allWritable, ih]

theorem entriesWritable_iff {entries : Entries} :
    entriesWritable entries = true ↔
      ∀ e ∈ entries, e.1.isWritable = true ∧ e.2.isWritable = true := by
  induction entries with
  | nil => simp [entriesWritable]
  | cons e rest ih => simp [entriesWritable, ih]

mutual

theorem close_isWritable {label : Nat} {whole : Value} (short : whole.isWritable = true) :
    (v : Value) → v.isWritable = true → (close label whole v).isWritable = true
  | .scalar _, own => own
  | .set _, own => own
  | .list items, own => closeAll_isWritable short items own
  | .map entries, own => closeEntries_isWritable short entries own
  | .pair first second, own => by
    simp only [close, isWritable, Bool.and_eq_true] at own ⊢
    exact ⟨close_isWritable short first own.1, close_isWritable short second own.2⟩
  | .loop l body, own => by
    unfold close
    split
    · exact own
    · exact close_isWritable short body own
  | .again l, own => by
    unfold close
    split
    · exact short
    · exact own

theorem closeAll_isWritable {label : Nat} {whole : Value} (short : whole.isWritable = true) :
    (items : List Value) → allWritable items = true → allWritable (closeAll label whole items) = true
  | [], own => own
  | v :: rest, own => by
    simp only [closeAll, allWritable, Bool.and_eq_true] at own ⊢
    exact ⟨close_isWritable short v own.1, closeAll_isWritable short rest own.2⟩

theorem closeEntries_isWritable {label : Nat} {whole : Value} (short : whole.isWritable = true) :
    (entries : Entries) → entriesWritable entries = true →
      entriesWritable (closeEntries label whole entries) = true
  | [], own => own
  | (key, v) :: rest, own => by
    simp only [closeEntries, entriesWritable, Bool.and_eq_true] at own ⊢
    exact ⟨⟨own.1.1, close_isWritable short v own.1.2⟩, closeEntries_isWritable short rest own.2⟩

end

/-- Opening a loop brings no other numbers in. -/
theorem view_isWritable {v : Value} (short : v.isWritable = true) : v.view.isWritable = true := by
  cases v with
  | loop label body => exact close_isWritable short body short
  | _ => exact short

def entries (v : Value) : Entries :=
  match v.view with
  | .map entries => entries
  | _ => []

def items (v : Value) : List Value :=
  match v.view with
  | .list items => items
  | _ => []

variable {v : Value}

theorem entries_of_view {entries : Entries} (seen : v.view = .map entries) : v.entries = entries := by
  simp only [Value.entries, seen]

theorem items_of_view {items : List Value} (seen : v.view = .list items) : v.items = items := by
  simp only [Value.items, seen]

theorem entries_isWritable (short : v.isWritable = true) : entriesWritable v.entries = true := by
  unfold entries
  split
  next entries seen =>
    have all := view_isWritable short
    rwa [seen] at all
  next => rfl

theorem items_isWritable (short : v.isWritable = true) : ∀ u ∈ v.items, u.isWritable = true := by
  unfold items
  split
  next items seen =>
    have all := view_isWritable short
    rw [seen] at all
    exact allWritable_iff.mp all
  next => simp

/-- What a reader can meet in the data: its entries and items, theirs, and null where nothing is. -/
inductive Part (data : Value) : Value → Prop where
  | whole : Part data data
  | absent : Part data .null
  | item {v u : Value} : Part data v → u ∈ v.items → Part data u
  | key {v : Value} {e : Scalar × Value} : Part data v → e ∈ v.entries → Part data (.scalar e.1)
  | value {v : Value} {e : Scalar × Value} : Part data v → e ∈ v.entries → Part data e.2

/-- A part has no other numbers than the data. -/
theorem Part.isWritable {data : Value} (part : data.Part v) (short : data.isWritable = true) :
    v.isWritable = true := by
  induction part with
  | whole => exact short
  | absent => rfl
  | item _ member ih => exact items_isWritable ih _ member
  | key _ member ih => exact (entriesWritable_iff.mp (entries_isWritable ih) _ member).1
  | value _ member ih => exact (entriesWritable_iff.mp (entries_isWritable ih) _ member).2

/-- Entries that are parts of the data. -/
def Parts (data : Value) (entries : Entries) : Prop :=
  ∀ e ∈ entries, data.Part (.scalar e.1) ∧ data.Part e.2

theorem Part.entries {data : Value} (part : data.Part v) : data.Parts v.entries :=
  fun _ member => ⟨part.key member, part.value member⟩

theorem Parts.find? {data : Value} {entries : Entries} (parts : data.Parts entries) {key : Scalar}
    (found : Entries.find? entries key = some v) : data.Part v := by
  obtain ⟨e, listed, rfl⟩ := Option.map_eq_some_iff.mp found
  exact (parts e (List.mem_of_find?_eq_some listed)).2

theorem Parts.valueAt {data : Value} {entries : Entries} (parts : data.Parts entries) (key : String) :
    data.Part (Entries.valueAt entries key) := by
  unfold Entries.valueAt Entries.get?
  cases found : Entries.find? entries (.text key) with
  | none => exact .absent
  | some v => exact parts.find? found

end Parts

end Value
end LocalCI
