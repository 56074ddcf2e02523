import LocalCI.Value.Text

/-! The text of a value that is not empty is not empty either. -/
namespace LocalCI

theorem Binary64.layout_ne_nil (digits : List Char) (point : Int) : layout digits point ≠ [] := by
  unfold layout
  split
  · split
    · simp
    · dsimp only
      split <;> simp
  · simp

theorem Binary64.text_ne_empty (x : Binary64) : x.text ≠ "" := by
  cases x with
  | nan => decide
  | infinite negative => cases negative <;> decide
  | finite negative m e =>
    rw [text]
    split
    · simp [← String.toList_inj]
    · simp [← String.toList_inj, layout_ne_nil]

theorem toString_int_ne_empty (n : Int) : toString n ≠ "" := by
  have digits : ∀ k : Nat, k.repr ≠ "" := fun k empty => by
    have none := congrArg String.toList empty
    rw [Nat.toList_repr] at none
    exact Nat.toDigits_ne_nil none
  rw [Int.toString_eq_repr]
  unfold Int.repr
  split
  · exact digits _
  · rw [ne_eq, String.append_eq_empty_iff]
    exact fun empty => digits _ empty.2

theorem Date.itemText_ne_empty (d : Date) : d.itemText ≠ "" := by
  unfold itemText
  simp only [ne_eq, String.append_eq_empty_iff]
  exact fun empty => absurd empty.2 (by decide)

theorem Moment.itemText_ne_empty (m : Moment) : m.itemText ≠ "" := by
  unfold itemText
  simp only [ne_eq, String.append_eq_empty_iff]
  exact fun empty => absurd empty.2 (by decide)

namespace Scalar

/-- The only scalar whose text is empty is the empty text. -/
theorem toText_ne_empty {s : Scalar} (filled : s ≠ .text "") : s.toText ≠ "" := by
  cases s with
  | null => decide
  | bool b => cases b <;> decide
  | int n => exact toString_int_ne_empty n
  | real x => exact x.text_ne_empty
  | text t => simpa [toText] using filled
  | bytes b => simp [toText, Text.quotedBytes, ← String.toList_inj]
  | date d => simp [toText, Date.text]
  | moment m => simp [toText, Moment.text]

/-- Among others, even the empty text is in quotes. -/
theorem itemText_ne_empty (s : Scalar) : s.itemText ≠ "" := by
  cases s with
  | text t => simp [itemText, Text.quoted, ← String.toList_inj]
  | date d => exact d.itemText_ne_empty
  | moment m => exact m.itemText_ne_empty
  | null | bool | int | real | bytes =>
    rw [itemText]
    · exact toText_ne_empty nofun
    all_goals nofun

end Scalar

namespace Value

theorem dots_ne_empty (v : Value) : v.dots ≠ "" := by
  cases v <;> simp [dots]

theorem lookup_ne_empty {around : List (Nat × String)} (filled : ∀ e ∈ around, e.2 ≠ "") (label : Nat) :
    (around.lookup label).getD "..." ≠ "" := by
  cases found : around.lookup label with
  | none => decide
  | some text =>
    obtain ⟨before, after, rfl, _⟩ := List.lookup_eq_some_iff.mp found
    exact filled (label, text) (by simp)

theorem textWithin_ne_empty : ∀ {around : List (Nat × String)} (v : Value),
    (∀ e ∈ around, e.2 ≠ "") → textWithin around v ≠ ""
  | _, .scalar s, _ => s.itemText_ne_empty
  | _, .list items, _ => by simp [textWithin, Text.bracketed]
  | _, .map entries, _ => by simp [textWithin, braced]
  | _, .set elements, _ => by
    rw [textWithin, setText]
    split <;> simp [braced]
  | _, .pair first second, _ => by simp [textWithin]
  | around, .loop label body, filled => by
    rw [textWithin]
    split
    · exact dots_ne_empty body
    · exact textWithin_ne_empty body (List.forall_mem_cons.mpr ⟨dots_ne_empty body, filled⟩)
  | around, .again label, filled => by
    rw [textWithin]
    exact lookup_ne_empty filled label

theorem toText_ne_empty {v : Value} (truthy : v.isTruthy = true) : v.toText ≠ "" := by
  cases v with
  | scalar s =>
    refine Scalar.toText_ne_empty ?_
    rintro rfl
    cases truthy
  | _ => exact textWithin_ne_empty _ nofun

end Value

end LocalCI
