import LocalCI.Proofs.FileTree.Places

/-! What writing to a tree keeps. Files and links are put, directories are made, and nothing is taken
away: where a directory was there is one still, or something else is in its way. -/
namespace LocalCI.Node

/-- Something holds of every directory on the way to a place. It is told what is left of the way. -/
def Along (Q : Location → Node → Prop) : Location → Node → Prop
  | [], _ => True
  | name :: rest, n => Q (name :: rest) n ∧ ∀ child, n.child? name = some child → Along Q rest child

/-- What holds of directories on a way lasts when entries are added to them or replaced. -/
structure Lasting (Q : Location → Node → Prop) : Prop where
  leaf : ∀ {w leaf}, leaf.isDir = false → Q w leaf
  altered : ∀ {w name f entries}, (∀ n, (f (some n)).isSome = true) → Q w (.dir entries) →
    Q w (.dir (alterEntry name f entries))
  made : ∀ {name rest entries}, Q (name :: rest) (.dir entries) →
    (dir entries).child? name = none → Along Q rest emptyDir

section Along

variable {Q : Location → Node → Prop} (lasting : Lasting Q) {w l : Location} {root node : Node}

include lasting

theorem along_of_leaf {leaf : Node} (isLeaf : leaf.isDir = false) (w : Location) : Along Q w leaf := by
  cases w with
  | nil => trivial
  | cons name rest =>
    refine ⟨lasting.leaf isLeaf, fun child found => ?_⟩
    cases leaf with
    | dir entries => cases isLeaf
    | _ => cases found

/-- What is put on the way has to keep what is left of it. -/
theorem Along.put (along : Along Q w root) (fits : ∀ rest, w = l ++ rest → Along Q rest node) :
    Along Q w (put node l root) := by
  induction w generalizing l root with
  | nil => trivial
  | cons name w ih =>
    cases l with
    | nil => exact fits _ rfl
    | cons first l =>
      obtain ⟨here, below⟩ := along
      cases root with
      | dir entries =>
        rw [Node.put, alter_cons]
        have keeps : ∀ n, (alterBelow (fun _ => some node) l (some n)).isSome = true := by
          cases l <;> exact fun _ => rfl
        refine ⟨lasting.altered keeps here, fun child found => ?_⟩
        by_cases same : name = first
        · subst same
          rw [child?_alterEntry_self keeps] at found
          cases l with
          | nil =>
            obtain rfl := Option.some.inj found
            exact fits w rfl
          | cons next l =>
            obtain ⟨old, there, rfl⟩ := Option.map_eq_some_iff.mp found
            exact ih (below old there) fun rest way => fits rest (congrArg (name :: ·) way)
        · rw [child?_alterEntry_of_ne same] at found
          exact below child found
      | _ =>
        rw [put_of_leaf rfl]
        exact along_of_leaf lasting rfl _

theorem Along.ensureDir (along : Along Q w root) : Along Q w (ensureDir l root) := by
  induction w generalizing l root with
  | nil => trivial
  | cons name w ih =>
    cases l with
    | nil => exact along
    | cons first l =>
      obtain ⟨here, below⟩ := along
      cases root with
      | dir entries =>
        rw [Node.ensureDir]
        refine ⟨lasting.altered (fun _ => rfl) here, fun child found => ?_⟩
        by_cases same : name = first
        · subst same
          rw [child?_alterEntry_self fun _ => rfl] at found
          obtain rfl := Option.some.inj found
          cases there : (dir entries).child? name with
          | none => exact ih (lasting.made here there)
          | some old => exact ih (below old there)
        · rw [child?_alterEntry_of_ne same] at found
          exact below child found
      | _ => exact along_of_leaf lasting rfl _

theorem Along.write (along : Along Q w root) (base : Location) (path : String) (e : Entry) :
    Along Q w (root.write base path e) := by
  cases e with
  | dir => exact along.ensureDir lasting
  | file c => exact (along.ensureDir lasting).put lasting fun rest _ => along_of_leaf lasting rfl rest
  | link target =>
    exact (along.ensureDir lasting).put lasting fun rest _ => along_of_leaf lasting rfl rest

theorem Along.writeAll (along : Along Q w root) (base : Location) (entries : List (String × Entry)) :
    Along Q w (root.writeAll base entries) := by
  induction entries generalizing root with
  | nil => exact along
  | cons e rest ih => exact ih (along.write lasting base e.1 e.2)

end Along

section Directories

/-- The next name of the way is there, if this is a directory. -/
def Present : Location → Node → Prop
  | name :: _, n => n.child? name = none → n.isDir = false
  | [], _ => True

theorem present_lasting : Lasting Present where
  leaf := by
    intro w leaf isLeaf
    cases w with
    | nil => trivial
    | cons name rest => exact fun _ => isLeaf
  altered := by
    intro w name f entries keeps present
    cases w with
    | nil => trivial
    | cons next rest =>
      intro absent
      by_cases same : next = name
      · subst same
        rw [child?_alterEntry_self keeps] at absent
        cases there : (dir entries).child? next with
        | none => cases present there
        | some child =>
          rw [there] at absent
          have kept := keeps child
          rw [absent] at kept
          cases kept
      · rw [child?_alterEntry_of_ne same] at absent
        cases present absent
  made present absent := by cases present absent

theorem present_of_get? {w : Location} {root n : Node} (there : root.get? w = some n) :
    Along Present w root := by
  induction w generalizing root with
  | nil => trivial
  | cons name rest ih =>
    obtain ⟨child, first, later⟩ := Option.bind_eq_some_iff.mp there
    refine ⟨fun absent => ?_, fun other found => ?_⟩
    · cases first.symm.trans absent
    · obtain rfl := Option.some.inj (first.symm.trans found)
      exact ih later

/-- Directories were made at the place or below it, and nothing else changed. -/
def MakesBelow (place : Location) (before after : Node) : Prop :=
  ∀ l, after.entryAt l = before.entryAt l ∨
    place <+: l ∧ before.entryAt l = none ∧ after.entryAt l = some .dir

variable {place more : Location} {root : Node}

theorem makesBelow_refl (place : Location) (root : Node) : MakesBelow place root root :=
  fun _ => Or.inl rfl

/-- Making directories goes on below the first name, and leaves the others alone. -/
theorem entryAt_ensureDir_cons (name other : String) (l q : Location) (entries : List (String × Node)) :
    (ensureDir (name :: l) (dir entries)).entryAt (other :: q) =
      if other = name then (ensureDir l (((dir entries).child? name).getD emptyDir)).entryAt q
      else (dir entries).entryAt (other :: q) := by
  rw [entryAt_cons, Node.ensureDir]
  split
  next same =>
    rw [same, child?_alterEntry_self fun _ => rfl]
    rfl
  next apart => rw [child?_alterEntry_of_ne apart, entryAt_cons]

/-- Making directories changes nothing that is there. -/
theorem makesBelow_ensureDir_nil (l : Location) (root : Node) : MakesBelow [] root (ensureDir l root) := by
  induction l generalizing root with
  | nil => exact makesBelow_refl [] root
  | cons name l ih =>
    cases root with
    | dir entries =>
      intro q
      cases q with
      | nil => exact Or.inl rfl
      | cons other q =>
        rw [entryAt_ensureDir_cons, entryAt_cons]
        split
        next same =>
          subst same
          cases (dir entries).child? other with
          | some child =>
            exact (ih child q).imp_right fun ⟨_, new, made⟩ => ⟨List.nil_prefix, new, made⟩
          | none =>
            -- A directory that is made here was not there, and neither was anything below it.
            rcases ih emptyDir q with empty | ⟨_, _, made⟩
            · cases q with
              | nil => exact Or.inr ⟨List.nil_prefix, rfl, empty⟩
              | cons => exact Or.inl empty
            · exact Or.inr ⟨List.nil_prefix, rfl, made⟩
        next => exact Or.inl rfl
    | _ => exact makesBelow_refl [] _

/-- On a way where nothing is missing, nothing is made before its end. -/
theorem makesBelow_ensureDir (present : Along Present place root) :
    MakesBelow place root (ensureDir (place ++ more) root) := by
  induction place generalizing root with
  | nil => exact makesBelow_ensureDir_nil more root
  | cons name place ih =>
    obtain ⟨here, below⟩ := present
    cases root with
    | dir entries =>
      intro q
      cases q with
      | nil => exact Or.inl rfl
      | cons other q =>
        rw [List.cons_append, entryAt_ensureDir_cons, entryAt_cons]
        split
        next same =>
          subst same
          cases there : (dir entries).child? other with
          | none => cases here there
          | some child =>
            exact (ih (below child there) q).imp_right fun ⟨inside, new, made⟩ =>
              ⟨List.cons_prefix_cons.mpr ⟨rfl, inside⟩, new, made⟩
        next => exact Or.inl rfl
    | _ => exact makesBelow_refl _ _

theorem ensureDir_of_present (present : Along Present (place ++ more) root) :
    ensureDir place root = root := by
  induction place generalizing root with
  | nil => rfl
  | cons name place ih =>
    obtain ⟨here, below⟩ := present
    cases root with
    | dir entries =>
      refine congrArg dir (alterEntry_eq_self ?_)
      cases there : (dir entries).child? name with
      | none => cases here there
      | some child => exact congrArg some (ih (below child there))
    | _ => rfl

/-- Directories on the way to something inside of a directory are made inside of it. -/
theorem makesBelow_of_prefix {l target : Location} (present : Along Present place root)
    (inside : place <+: target) (part : l <+: target) : MakesBelow place root (ensureDir l root) := by
  rcases List.prefix_or_prefix_of_prefix inside part with ⟨more, rfl⟩ | ⟨more, rfl⟩
  · exact makesBelow_ensureDir present
  · rw [ensureDir_of_present present]
    exact makesBelow_refl _ root

end Directories
end LocalCI.Node
