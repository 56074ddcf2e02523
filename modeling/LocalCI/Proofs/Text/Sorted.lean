import LocalCI.Text.Sorted
import Mathlib.Data.List.Perm.Basic
import Mathlib.Data.List.Sort
import Mathlib.Data.String.Basic

/-! Sorting keeps the texts and puts them in the order of their keys; of equal texts the first is kept
where each counts once. -/
namespace LocalCI.Text

variable {s : String} {texts : List String}

section Keyed

variable {α : Type} [LinearOrder α] (key : String → α)

theorem insertBy_eq_orderedInsert (s : String) (texts : List String) :
    insertBy key s texts = texts.orderedInsert (fun a b => key a ≤ key b) s := by
  induction texts with
  | nil => rfl
  | cons t rest ih =>
    by_cases less : key t < key s
    · simp [insertBy, less, not_le.mpr less, ih]
    · simp [insertBy, less, not_lt.mp less]

theorem sortedBy_eq_insertionSort (texts : List String) :
    sortedBy key texts = texts.insertionSort fun a b => key a ≤ key b := by
  induction texts with
  | nil => rfl
  | cons s rest ih =>
    rw [List.insertionSort_cons, ← ih, ← insertBy_eq_orderedInsert]
    rfl

variable {key}

/-- Texts that stand in the order of their keys stay as they are. -/
theorem sortedBy_of_pairwise (ordered : texts.Pairwise fun a b => key a < key b) :
    sortedBy key texts = texts := by
  rw [sortedBy_eq_insertionSort]
  exact (ordered.imp fun less => le_of_lt less).insertionSort_eq

end Keyed

theorem mem_sorted : s ∈ sorted texts ↔ s ∈ texts := by
  rw [sorted, sortedBy_eq_insertionSort, List.mem_insertionSort]

/-- Different texts are sorted into a strictly increasing list. -/
theorem pairwise_sorted (distinct : texts.Nodup) : (sorted texts).Pairwise (· < ·) := by
  rw [sorted, sortedBy_eq_insertionSort]
  have ordered := List.pairwise_insertionSort (fun a b => id a ≤ id b) texts
  have different := (List.perm_insertionSort (fun a b => id a ≤ id b) texts).nodup_iff.mpr distinct
  exact (ordered.and different).imp fun both => lt_of_le_of_ne both.1 both.2

theorem mem_distinct : s ∈ distinct texts ↔ s ∈ texts := by
  induction texts with
  | nil => simp [distinct]
  | cons t rest ih => by_cases same : s = t <;> simp [distinct, ih, same]

theorem nodup_distinct (texts : List String) : (distinct texts).Nodup := by
  induction texts with
  | nil => exact List.nodup_nil
  | cons t rest ih => exact List.nodup_cons.mpr ⟨by simp, ih.filter _⟩

theorem distinct_append_of_not_mem (new : s ∉ texts) :
    distinct (texts ++ [s]) = distinct texts ++ [s] := by
  induction texts with
  | nil => rfl
  | cons t rest ih =>
    obtain ⟨different, new⟩ := List.ne_and_not_mem_of_not_mem_cons new
    simp [distinct, ih new, different]

theorem distinct_append_of_mem (listed : s ∈ texts) : distinct (texts ++ [s]) = distinct texts := by
  induction texts with
  | nil => cases listed
  | cons t rest ih =>
    rw [List.cons_append, distinct, distinct]
    by_cases later : s ∈ rest
    · rw [ih later]
    · obtain rfl := (List.mem_cons.mp listed).resolve_right later
      simp [distinct_append_of_not_mem later]

/-- Any list that has the same texts, each once, is as long. -/
theorem length_distinct {others : List String} (once : others.Nodup)
    (same : ∀ s, s ∈ others ↔ s ∈ texts) : (distinct texts).length = others.length := by
  refine List.Perm.length_eq ((List.perm_ext_iff_of_nodup (nodup_distinct texts) once).mpr fun s => ?_)
  rw [same, mem_distinct]

end LocalCI.Text
