/-! Values under names, in the order in which the names came. -/
namespace LocalCI.Named

variable {α β : Type}

/-- Replaces the value under a name, or adds the name at the end. -/
def put (name : String) (a : α) : List (String × α) → List (String × α)
  | [] => [(name, a)]
  | e :: rest => if e.1 = name then (name, a) :: rest else e :: put name a rest

theorem find?_put (name other : String) (a : α) (entries : List (String × α)) :
    ((put name a entries).find? fun e => e.1 = other).map Prod.snd =
      if name = other then some a else (entries.find? fun e => e.1 = other).map Prod.snd := by
  induction entries with
  | nil => by_cases h : name = other <;> simp [put, h]
  | cons e rest ih =>
    by_cases he : e.1 = name
    · by_cases h : name = other <;> simp [put, he, h]
    · by_cases h : e.1 = other
      · have hn : ¬ name = other := fun same => he (h.trans same.symm)
        rw [put, if_neg he]
        simp only [List.find?_cons, h, decide_true, if_neg hn]
      · simpa only [put, if_neg he, List.find?_cons, h, decide_false] using ih

theorem put_of_not_mem {name : String} {entries : List (String × α)}
    (absent : name ∉ entries.map Prod.fst) (a : α) : put name a entries = entries ++ [(name, a)] := by
  induction entries with
  | nil => rfl
  | cons e rest ih =>
    rw [List.map_cons, List.mem_cons, not_or] at absent
    rw [put, if_neg (Ne.symm absent.1), ih absent.2, List.cons_append]

theorem put_append {name : String} {before : List (String × α)}
    (absent : name ∉ before.map Prod.fst) (a old : α) (after : List (String × α)) :
    put name a (before ++ (name, old) :: after) = before ++ (name, a) :: after := by
  induction before with
  | nil => simp [put]
  | cons e rest ih =>
    rw [List.map_cons, List.mem_cons, not_or] at absent
    rw [List.cons_append, put, if_neg (Ne.symm absent.1), ih absent.2, List.cons_append]

/-- Changing every value makes no difference to where the names stand. -/
theorem map_put (f : α → β) (name : String) (a : α) (entries : List (String × α)) :
    (put name a entries).map (fun e => (e.1, f e.2)) =
      put name (f a) (entries.map fun e => (e.1, f e.2)) := by
  induction entries with
  | nil => rfl
  | cons e rest ih => by_cases same : e.1 = name <;> simp [put, same, ih]

theorem all_put {P : α → Bool} {name : String} {a : α} {entries : List (String × α)} (here : P a = true)
    (others : entries.all (fun e => P e.2) = true) :
    (put name a entries).all (fun e => P e.2) = true := by
  induction entries with
  | nil => simp [put, here]
  | cons e rest ih =>
    rw [List.all_cons, Bool.and_eq_true] at others
    unfold put
    split
    next => rw [List.all_cons, here, others.2, Bool.and_self]
    next => rw [List.all_cons, others.1, ih others.2, Bool.and_self]

end LocalCI.Named
