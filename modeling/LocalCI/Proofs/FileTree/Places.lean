import LocalCI.FileTree.Write
import LocalCI.Proofs.FileTree.Links

/-! Changing a tree at one place. Every place that does not lie there is left alone, making directories
changes nothing that is there, and what is put at a place can be removed again. -/
namespace LocalCI.Node

/-- What is at a place, without what lies below it. -/
def entryAt (root : Node) (l : Location) : Option Entry := (root.get? l).map entry

section Entries

variable {name other : String} {entries : List (String × Node)} {f g : Option Node → Option Node}

theorem entryAt_cons (root : Node) (name : String) (rest : Location) :
    root.entryAt (name :: rest) = (root.child? name).bind (·.entryAt rest) := by
  rw [entryAt, get?]
  cases root.child? name <;> rfl

/-- Where nothing is, there is nothing below. -/
theorem entryAt_of_absent {root : Node} {place l : Location} (absent : root.get? place = none)
    (inside : place <+: l) : root.entryAt l = none := by
  obtain ⟨more, rfl⟩ := inside
  rw [entryAt, get?_append, absent]
  rfl

theorem child?_eq_none_iff : (dir entries).child? name = none ↔ name ∉ (dir entries).names := by
  simp only [child?, names, Node.entries, Option.map_eq_none_iff, List.find?_eq_none, decide_eq_true_eq,
    List.mem_map, not_exists, not_and]

/-- A change that does nothing to the entry does nothing to the directory. -/
theorem alterEntry_eq_self (same : f ((dir entries).child? name) = (dir entries).child? name) :
    alterEntry name f entries = entries := by
  induction entries with
  | nil =>
    have none : f none = none := same
    simp [alterEntry, none]
  | cons e rest ih =>
    by_cases here : e.1 = name
    · have kept : f (some e.2) = some e.2 := by simpa [child?, here] using same
      rw [alterEntry, if_pos here, kept, ← here]
    · rw [alterEntry, if_neg here, ih (by simpa [child?, here] using same)]

/-- Of two changes to one entry, the first of which leaves an entry there, the second sees the first. -/
theorem alterEntry_alterEntry (keeps : ∀ n, (f (some n)).isSome = true) :
    alterEntry name g (alterEntry name f entries) = alterEntry name (fun n => g (f n)) entries := by
  induction entries with
  | nil =>
    cases made : f none with
    | none => simp [alterEntry, made]
    | some n => cases changed : g (some n) <;> simp [alterEntry, made, changed]
  | cons e rest ih =>
    by_cases here : e.1 = name
    · obtain ⟨n, made⟩ := Option.isSome_iff_exists.mp (keeps e.2)
      simp [alterEntry, here, made]
    · rw [alterEntry, if_neg here, alterEntry, if_neg here, ih, alterEntry, if_neg here]

/-- Removing an entry leaves the others as they are. -/
theorem alterEntry_none (name : String) (entries : List (String × Node)) :
    alterEntry name (fun _ => none) entries = entries.filter fun e => e.1 ≠ name := by
  induction entries with
  | nil => rfl
  | cons e rest ih =>
    by_cases here : e.1 = name
    · simp [alterEntry, here]
    · rw [alterEntry, if_neg here, ih, List.filter_cons_of_pos (by simpa using here)]

theorem child?_alterEntry_none : (dir (alterEntry name (fun _ => none) entries)).child? name = none := by
  rw [alterEntry_none]
  refine child?_eq_none_iff.mpr fun member => ?_
  obtain ⟨e, kept, same⟩ := List.mem_map.mp member
  exact absurd same (by simpa using (List.mem_filter.mp kept).2)

end Entries

section Alter

variable {f : Option Node → Option Node} {node root : Node} {name : String} {l rest : Location}

/-- What a change further down does to the entry it goes through. -/
def alterBelow (f : Option Node → Option Node) : Location → Option Node → Option Node
  | [] => f
  | name :: rest => Option.map (alter f (name :: rest))

theorem alter_cons (entries : List (String × Node)) :
    alter f (name :: rest) (.dir entries) = .dir (alterEntry name (alterBelow f rest) entries) := by
  cases rest <;> rfl

theorem alter_of_leaf (leaf : root.isDir = false) : alter f (name :: rest) root = root := by
  cases root with
  | dir entries => cases leaf
  | _ => cases rest <;> rfl

/-- A change at one place is seen only there and below. -/
theorem entryAt_alter {w : Location} (outside : ¬ w <+: l) :
    (alter f w root).entryAt l = root.entryAt l := by
  induction w generalizing l root with
  | nil => exact absurd List.nil_prefix outside
  | cons name w ih =>
    cases root with
    | dir entries =>
      rw [alter_cons]
      cases l with
      | nil => rfl
      | cons other l =>
        rw [entryAt_cons, entryAt_cons]
        by_cases same : other = name
        · subst same
          have further : ¬ w <+: l := fun inside => outside (List.cons_prefix_cons.mpr ⟨rfl, inside⟩)
          cases w with
          | nil => exact absurd List.nil_prefix further
          | cons next w =>
            rw [alterBelow, child?_alterEntry_self (fun _ => rfl)]
            cases (dir entries).child? other with
            | none => rfl
            | some child => exact ih further
        · rw [child?_alterEntry_of_ne same]
    | _ => rw [alter_of_leaf rfl]

/-- What is put in the place of something is found there. -/
theorem get?_put_append {old : Node} (there : root.get? l = some old) (more : Location) :
    (put node l root).get? (l ++ more) = node.get? more := by
  induction l generalizing root with
  | nil => rfl
  | cons name rest ih =>
    obtain ⟨child, first, later⟩ := Option.bind_eq_some_iff.mp there
    rw [List.cons_append, get?, child?_put_self first, Option.bind_some]
    exact ih later

/-- What is put into a directory is found there. -/
theorem get?_put_child {entries : List (String × Node)} (there : root.get? l = some (.dir entries))
    (name : String) : (put node (l ++ [name]) root).get? (l ++ [name]) = some node := by
  induction l generalizing root with
  | nil =>
    cases there
    rw [List.nil_append, get?, put, alter_cons, alterBelow, child?_alterEntry_self fun _ => rfl]
    rfl
  | cons first rest ih =>
    obtain ⟨child, found, later⟩ := Option.bind_eq_some_iff.mp there
    rw [List.cons_append, get?, child?_put_self found, Option.bind_some]
    exact ih later

/-- Where nothing is, there is nothing to remove. -/
theorem remove_of_absent (filled : l ≠ []) (absent : root.get? l = none) : remove l root = root := by
  induction l generalizing root with
  | nil => exact absurd rfl filled
  | cons name rest ih =>
    cases root with
    | dir entries =>
      rw [remove, alter_cons]
      refine congrArg dir (alterEntry_eq_self ?_)
      cases found : (dir entries).child? name with
      | none => cases rest <;> rfl
      | some child =>
        rw [get?, found, Option.bind_some] at absent
        cases rest with
        | nil => cases absent
        | cons next rest => exact congrArg some (ih (List.cons_ne_nil _ _) absent)
    | _ => exact alter_of_leaf rfl

/-- Places that do not lie in each other are not changed by each other. -/
theorem get?_put_of_apart {w : Location} (outside : ¬ w <+: l) (around : ¬ l <+: w) :
    (put node w root).get? l = root.get? l := by
  induction w generalizing l root with
  | nil => exact absurd List.nil_prefix outside
  | cons name w ih =>
    cases l with
    | nil => exact absurd List.nil_prefix around
    | cons other l =>
      rw [get?, get?]
      by_cases same : other = name
      · subst same
        rw [List.cons_prefix_cons, not_and] at outside around
        cases w with
        | nil => exact absurd List.nil_prefix (outside rfl)
        | cons next w =>
          cases root with
          | dir entries =>
            rw [put, alter_cons, alterBelow, child?_alterEntry_self (fun _ => rfl)]
            cases (dir entries).child? other with
            | none => rfl
            | some child => exact ih (outside rfl) (around rfl)
          | _ => rfl
      · rw [child?_put_of_ne same]

/-- What is put in its own place changes nothing. -/
theorem put_of_get? (there : root.get? l = some node) : put node l root = root := by
  induction l generalizing root with
  | nil => exact (Option.some.inj there).symm
  | cons name rest ih =>
    obtain ⟨child, first, later⟩ := Option.bind_eq_some_iff.mp there
    obtain ⟨entries, rfl, _⟩ := exists_of_child? first
    rw [put, alter_cons]
    refine congrArg dir (alterEntry_eq_self ?_)
    rw [first]
    cases rest with
    | nil => exact later.symm
    | cons next rest => exact congrArg some (ih later)

/-- Of two changes at one place, the first of which leaves something there, the second sees the first. -/
theorem alter_alter {g : Option Node → Option Node} (keeps : ∀ n, (f (some n)).isSome = true)
    (filled : l ≠ []) : alter g l (alter f l root) = alter (fun n => g (f n)) l root := by
  induction l generalizing root with
  | nil => exact absurd rfl filled
  | cons name rest ih =>
    cases root with
    | dir entries =>
      rw [alter_cons, alter_cons, alter_cons]
      refine congrArg dir ?_
      cases rest with
      | nil => exact alterEntry_alterEntry keeps
      | cons next rest =>
        refine (alterEntry_alterEntry fun _ => rfl).trans ?_
        refine congrArg (alterEntry name · entries) (funext fun n => ?_)
        cases n with
        | none => rfl
        | some child => exact congrArg some (ih (List.cons_ne_nil _ _))
    | _ =>
      exact (congrArg (alter g _) (alter_of_leaf rfl)).trans
        ((alter_of_leaf rfl).trans (alter_of_leaf rfl).symm)

/-- A change below a place is a change at the place. -/
theorem alter_append (l : Location) {more : Location} (filled : more ≠ []) (root : Node) :
    alter f (l ++ more) root = alter (Option.map (alter f more)) l root := by
  induction l generalizing root with
  | nil => rfl
  | cons name rest ih =>
    cases root with
    | dir entries =>
      rw [List.cons_append, alter_cons, alter_cons]
      refine congrArg (fun f => dir (alterEntry name f entries)) ?_
      cases rest with
      | nil =>
        cases more with
        | nil => exact absurd rfl filled
        | cons => rfl
      | cons next rest => exact congrArg Option.map (funext ih)
    | _ => rw [List.cons_append, alter_of_leaf rfl, alter_of_leaf rfl]

theorem alter_put (filled : l ≠ []) :
    alter f l (put node l root) = alter (fun _ => f (some node)) l root :=
  alter_alter (fun _ => rfl) filled

/-- What is put at a place is removed from it with what was there before. -/
theorem remove_put (filled : l ≠ []) : remove l (put node l root) = remove l root := alter_put filled

theorem put_put (filled : l ≠ []) (other : Node) : put other l (put node l root) = put other l root :=
  alter_put filled

/-- What is removed from below a place is removed with it. -/
theorem remove_remove_append (filled : l ≠ []) (name : String) (root : Node) :
    remove l (remove (l ++ [name]) root) = remove l root := by
  rw [remove, remove, alter_append l (List.cons_ne_nil _ _), alter_alter (fun _ => rfl) filled, remove]

/-- Removing from a directory that was put is putting it without the entry. -/
theorem remove_append_put (filled : l ≠ []) (name : String) (entries : List (String × Node))
    (root : Node) : remove (l ++ [name]) (put (.dir entries) l root) =
      put (.dir (entries.filter fun e => e.1 ≠ name)) l root := by
  rw [remove, alter_append l (List.cons_ne_nil _ _), alter_put filled, ← alterEntry_none]
  rfl

/-- What is removed is gone. -/
theorem get?_remove (filled : l ≠ []) (root : Node) : (remove l root).get? l = none := by
  induction l generalizing root with
  | nil => exact absurd rfl filled
  | cons name rest ih =>
    cases root with
    | dir entries =>
      rw [remove, alter_cons, get?]
      cases rest with
      | nil => rw [alterBelow, child?_alterEntry_none, Option.bind_none]
      | cons next rest =>
        rw [alterBelow, child?_alterEntry_self fun _ => rfl]
        cases (dir entries).child? name with
        | none => rfl
        | some child => exact ih (List.cons_ne_nil _ _) child
    | _ =>
      rw [remove, alter_of_leaf rfl]
      rfl

end Alter

end LocalCI.Node
