import LocalCI.Proofs.FileTree.Following

/-! What a copy holds. The copy of a folder is put at a place apart from it. If the links of the folder
lead to something, and not to that place or around it, and no path is too long, all of it is copied, and
the copy shows on every path what the folder shows there, but for names that no copy holds. What else is
at the place does not matter. -/
namespace LocalCI

theorem intercalate_snoc (sep name : List Char) {parts : List (List Char)} (filled : parts ≠ []) :
    sep.intercalate (parts ++ [name]) = sep.intercalate parts ++ sep ++ name := by
  induction parts with
  | nil => exact absurd rfl filled
  | cons part rest ih =>
    cases rest with
    | nil => simp [List.intercalate_cons_cons]
    | cons next rest =>
      rw [List.cons_append, List.cons_append, List.intercalate_cons_cons, ← List.cons_append,
        ih (List.cons_ne_nil _ _), List.intercalate_cons_cons]
      simp only [List.append_assoc]

theorem Location.text_snoc {l : Location} (filled : l ≠ []) (name : String) :
    Location.text (l ++ [name]) = Location.text l ++ "/" ++ name := by
  have letters : ['/'].intercalate (l.map String.toList ++ [name.toList]) = _ :=
    intercalate_snoc ['/'] name.toList (by simpa using filled)
  apply String.toList_injective
  simpa [Location.text, Path.text, Path.ofLocation, String.toList_intercalate] using letters

namespace Node

/-- The tree with these entries at a place. -/
def holding (place : Location) (root : Node) (entries : List (String × Node)) : Node :=
  put (.dir entries) place root

/-- The text of a path from a base. -/
def pathText (base : Location) (path : List String) : String :=
  path.foldl (fun text name => text ++ "/" ++ name) (Location.text base)

theorem pathText_snoc (base : Location) (path : List String) (name : String) :
    pathText base (path ++ [name]) = pathText base path ++ "/" ++ name := by
  rw [pathText, List.foldl_append]
  rfl

theorem overlong?_eq_none {name source target : String} (short : overlong? name source target = none) :
    source.utf8ByteSize ≤ pathLimit ∧ target.utf8ByteSize ≤ pathLimit := by
  unfold overlong? at short
  split at short
  next => cases short
  next fits =>
    split at short
    next => cases short
    next fits' =>
      rw [Bool.or_eq_true, not_or, decide_eq_true_eq] at fits
      exact ⟨Nat.not_lt.mp fits.2, Nat.not_lt.mp fits'⟩

/-- An entry can be read on its path, and written on its path from the place. -/
structure Fits (base place : Location) (path : List String) (name : String) : Prop where
  short : overlong? name (pathText base path) (pathText place path) = none
  askable : Askable (place ++ path)

/-- What a path from a base leads to can be copied to a place. Each of its links leads to something that
does not hold that place, links lie in each other at most so deep, no path is too long, and what no copy
holds may be as it will. -/
inductive Copyable (root : Node) (base place : Location) : Nat → List String → Node → Prop where
  | file {depth path c} : Copyable root base place depth path (.file c)
  | dir {depth path entries} :
      (∀ e ∈ entries, e.1 ≠ repositoryName → Fits base place (path ++ [e.1]) e.1) →
      (∀ e ∈ entries, e.1 ≠ repositoryName → Copyable root base place depth (path ++ [e.1]) e.2) →
      Copyable root base place depth path (.dir entries)
  | link {depth path target l n} : follow root linkLimit base path = .ok l → root.get? l = some n →
      ¬ l <+: place → Copyable root base place depth path n →
      Copyable root base place (depth + 1) path (.link target)

section Holding

variable {place l : Location} {root node : Node} {entries : List (String × Node)}

theorem holding_extends (there : (root.get? place).isSome = true) (entries : List (String × Node)) :
    Extends (holding place root []) (holding place root entries) := by
  obtain ⟨old, there⟩ := Option.isSome_iff_exists.mp there
  intro l e found
  by_cases inside : place <+: l
  · -- Where the place is empty there is only the place itself.
    obtain ⟨more, rfl⟩ := inside
    rw [entryAt, holding, get?_put_append there] at found ⊢
    cases more with
    | nil => exact found
    | cons name more => cases found
  · rw [holding, put, entryAt_alter inside] at found ⊢
    exact found

theorem get?_holding_self (there : (root.get? place).isSome = true) (entries : List (String × Node)) :
    (holding place root entries).get? place = some (.dir entries) := by
  obtain ⟨old, there⟩ := Option.isSome_iff_exists.mp there
  have whole : (holding place root entries).get? (place ++ []) = some (.dir entries) :=
    get?_put_append there []
  rwa [List.append_nil] at whole

theorem get?_holding (found : (holding place root []).get? l = some node) (around : ¬ l <+: place)
    (there : (root.get? place).isSome = true) (entries : List (String × Node)) :
    (holding place root entries).get? l = some node := by
  have outside : ¬ place <+: l := by
    rintro ⟨more, rfl⟩
    obtain ⟨old, there⟩ := Option.isSome_iff_exists.mp there
    rw [holding, get?_put_append there] at found
    cases more with
    | nil => exact around (by simp)
    | cons name more => cases found
  rw [holding, get?_put_of_apart outside around] at found ⊢
  exact found

end Holding

/-- A path leads to what it is said to lead to, unless that is a link still to be followed. -/
def LeadsTo (root : Node) (base : Location) (path : List String) (n : Node) : Prop :=
  (∃ target, n = .link target) ∨ ∃ l, follow root linkLimit base path = .ok l ∧ root.get? l = some n

/-- The copy of what a path leads to, whatever else is where the copy is put. -/
structure CopiesTo (root : Node) (base place : Location) (depth : Nat) (path : List String)
    (n copy : Node) : Prop where
  made : ∀ {fuel}, depth ≤ fuel → ∀ entries, copyFollowing (holding place root entries) base fuel path
    (pathText base path) (pathText place path) n = ⟨some copy, []⟩
  shows : ∀ entries, LeadsTo (holding place root entries) base path n → ∀ {rest}, Askable rest →
    repositoryName ∉ rest → copy.entryAt rest = shown (holding place root entries) base (path ++ rest)
  lacks : ∀ {rest}, repositoryName ∈ rest → copy.entryAt rest = none
  linkless : copy.linkCount = 0

section Copying

variable {root : Node} {base place : Location} {depth : Nat} {path : List String}

/-- Copying a directory copies each of its entries the same way. -/
theorem copyFollowing_eq (root : Node) (base : Location) (fuel : Nat) :
    copyFollowing root base fuel = copyWith fun path source target =>
      copyFollowing root base fuel path source target (.link "") := by
  cases fuel <;> rfl

theorem copyFollowing_link {n : Node} {l : Location} {fuel : Nat} {source target link : String}
    (followed : follow root linkLimit base path = .ok l) (found : root.get? l = some n) :
    copyFollowing root base (fuel + 1) path source target (.link link) =
      copyFollowing root base fuel path source target n := by
  rw [copyFollowing, copyWith, followed]
  dsimp only
  rw [found]

/-- The copies of the entries of a directory. -/
structure EntriesCopyTo (root : Node) (base place : Location) (depth : Nat) (path : List String)
    (entries copies : List (String × Node)) : Prop where
  made : ∀ {fuel}, depth ≤ fuel → ∀ others,
    copyEntriesWith (fun path source target =>
      copyFollowing (holding place root others) base fuel path source target (.link ""))
      path (pathText base path) (pathText place path) entries = ⟨copies, []⟩
  found : ∀ {name n}, name ≠ repositoryName → (dir entries).child? name = some n →
    ∃ copy, (dir copies).child? name = some copy ∧
      CopiesTo root base place depth (path ++ [name]) n copy
  missing : ∀ {name}, (dir entries).child? name = none ∨ name = repositoryName →
    (dir copies).child? name = none
  linkless : linkCountEntries copies = 0

theorem exists_entriesCopyTo {entries : List (String × Node)}
    (fits : ∀ e ∈ entries, e.1 ≠ repositoryName → Fits base place (path ++ [e.1]) e.1)
    (each : ∀ e ∈ entries, e.1 ≠ repositoryName →
      ∃ copy, CopiesTo root base place depth (path ++ [e.1]) e.2 copy) :
    ∃ copies, EntriesCopyTo root base place depth path entries copies := by
  induction entries with
  | nil => exact ⟨[], fun _ _ => rfl, nofun, fun _ => rfl, rfl⟩
  | cons e rest ih =>
    obtain ⟨copies, others⟩ := ih (fun e member => fits e (List.mem_cons_of_mem _ member))
      fun e member => each e (List.mem_cons_of_mem _ member)
    obtain ⟨name, n⟩ := e
    by_cases repository : name = repositoryName
    · refine ⟨copies, ?_, ?_, ?_, others.linkless⟩
      · intro fuel enough entries
        rw [copyEntriesWith, if_pos repository, others.made enough]
      · intro other m apart found
        refine others.found apart ?_
        rw [repository] at found
        simpa [child?, Ne.symm apart] using found
      · intro other none
        refine others.missing (none.imp_left fun none => ?_)
        by_cases same : name = other
        · simp [child?, same] at none
        · simpa [child?, same] using none
    · obtain ⟨copy, copied⟩ := each (name, n) List.mem_cons_self repository
      refine ⟨(name, copy) :: copies, ?_, ?_, ?_,
        Nat.add_eq_zero_iff.mpr ⟨copied.linkless, others.linkless⟩⟩
      · intro fuel enough entries
        have first := copied.made enough entries
        have short := (fits (name, n) List.mem_cons_self repository).short
        rw [pathText_snoc, pathText_snoc] at short
        rw [copyFollowing_eq, pathText_snoc, pathText_snoc] at first
        rw [copyEntriesWith, if_neg repository, others.made enough]
        dsimp only
        rw [copyUnlessLong, short, first]
        rfl
      · intro other m apart found
        by_cases same : name = other
        · subst same
          obtain rfl : n = m := by simpa [child?] using found
          exact ⟨copy, by simp [child?], copied⟩
        · obtain ⟨copy', there, copied'⟩ := others.found apart (by simpa [child?, same] using found)
          exact ⟨copy', by simpa [child?, same] using there, copied'⟩
      · intro other none
        have same : name ≠ other := by
          rintro rfl
          rcases none with none | same
          · simp [child?] at none
          · exact repository same
        have later := others.missing (none.imp_left fun none => by simpa [child?, same] using none)
        simpa [child?, same] using later

theorem copiesTo_file (root : Node) (base place : Location) (depth : Nat) (path : List String)
    (c : Content) : CopiesTo root base place depth path (.file c) (.file c) where
  made _ _ := by
    rw [copyFollowing_eq]
    rfl
  shows := by
    intro entries leads rest _ _
    obtain ⟨_, same⟩ | ⟨l, followed, found⟩ := leads
    · cases same
    · obtain ⟨left, onward⟩ := exists_shown_append followed
      rw [onward]
      cases rest with
      | nil => rw [shownWithin_nil, entryAt, entryAt, found]; rfl
      | cons name rest => rw [shownWithin_of_leaf found rfl]; rfl
  lacks member := by
    cases member <;> rfl
  linkless := rfl

theorem copiesTo_dir {entries copies : List (String × Node)}
    (copied : EntriesCopyTo root base place depth path entries copies) :
    CopiesTo root base place depth path (.dir entries) (.dir copies) where
  made enough others := by
    rw [copyFollowing_eq, copyWith, copied.made enough]
  shows := by
    intro others leads rest askable apart
    obtain ⟨_, same⟩ | ⟨l, followed, found⟩ := leads
    · cases same
    · cases rest with
      | nil =>
        obtain ⟨left, onward⟩ := exists_shown_append followed
        rw [onward, shownWithin_nil, entryAt, entryAt, found]
        rfl
      | cons name rest =>
        obtain ⟨⟨other, short⟩, askable⟩ := List.forall_mem_cons.mp askable
        obtain ⟨first, apart⟩ := List.ne_and_not_mem_of_not_mem_cons apart
        rw [entryAt_cons]
        cases there : (dir entries).child? name with
        | none =>
          obtain ⟨left, onward⟩ := exists_shown_append followed
          rw [copied.missing (Or.inl there), onward, shownWithin_of_missing found there other]
          rfl
        | some n =>
          obtain ⟨copy, present, copiesTo⟩ := copied.found (Ne.symm first) there
          have leads : LeadsTo (holding place root others) base (path ++ [name]) n := by
            by_cases link : ∃ target, n = .link target
            · exact Or.inl link
            · have plain : ∀ target, n ≠ .link target := not_exists.mp link
              refine Or.inr ⟨l ++ [name], follow_snoc followed found there plain other short, ?_⟩
              rw [get?_child, found]
              exact there
          rw [present, Option.bind_some, copiesTo.shows others leads askable apart,
            List.append_assoc]
          rfl
  lacks := by
    intro rest member
    cases rest with
    | nil => cases member
    | cons name rest =>
      rw [entryAt_cons]
      by_cases repository : name = repositoryName
      · rw [copied.missing (Or.inr repository)]
        rfl
      · have later : repositoryName ∈ rest := (List.mem_cons.mp member).resolve_left (Ne.symm repository)
        cases there : (dir entries).child? name with
        | none => rw [copied.missing (Or.inl there)]; rfl
        | some n =>
          obtain ⟨copy, present, copiesTo⟩ := copied.found repository there
          rw [present]
          exact copiesTo.lacks later
  linkless := copied.linkless

/-- A link is copied as what it leads to. -/
theorem copiesTo_link {n copy : Node} {l : Location} {target : String}
    (there : (root.get? place).isSome = true)
    (followed : follow (holding place root []) linkLimit base path = .ok l)
    (found : (holding place root []).get? l = some n) (around : ¬ l <+: place)
    (copied : CopiesTo root base place depth path n copy) :
    CopiesTo root base place (depth + 1) path (.link target) copy := by
  have reached := fun entries => follow_mono (holding_extends there entries) followed nofun
  have present := get?_holding found around there
  refine ⟨?_, ?_, copied.lacks, copied.linkless⟩
  · intro fuel enough entries
    obtain ⟨less, rfl⟩ : ∃ less, fuel = less + 1 := ⟨fuel - 1, by omega⟩
    have made := copied.made (show depth ≤ less by omega) entries
    rw [copyFollowing_link (reached entries) (present entries), made]
  · intro entries _ rest
    exact copied.shows entries (Or.inr ⟨l, reached entries, present entries⟩)

/-- Everything copyable is copied. -/
theorem Copyable.exists_copiesTo {n : Node} (there : (root.get? place).isSome = true)
    (copyable : Copyable (holding place root []) base place depth path n) :
    ∃ copy, CopiesTo root base place depth path n copy := by
  induction copyable with
  | file => exact ⟨_, copiesTo_file root base place _ _ _⟩
  | dir fits _ ih =>
    obtain ⟨copies, copied⟩ := exists_entriesCopyTo fits ih
    exact ⟨_, copiesTo_dir copied⟩
  | link followed found around _ ih =>
    obtain ⟨copy, copied⟩ := ih
    exact ⟨copy, copiesTo_link there followed found around copied⟩

theorem Copyable.exists_entriesCopyTo {entries : List (String × Node)}
    (copyable : Copyable (holding place root []) base place depth path (.dir entries))
    (there : (root.get? place).isSome = true) :
    ∃ copies, EntriesCopyTo root base place depth path entries copies := by
  cases copyable with
  | dir fits each =>
    exact Node.exists_entriesCopyTo fits fun e member apart => (each e member apart).exists_copiesTo there

end Copying
end Node
end LocalCI
