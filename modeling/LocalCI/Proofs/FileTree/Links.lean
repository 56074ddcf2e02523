import LocalCI.FileTree.Copy
import Mathlib.Data.List.Nodup
import Mathlib.Data.List.Perm.Subperm

/-! The links of a tree. As many places hold a link as the tree has links, and a tree without links is
copied whole. -/
namespace LocalCI.Node

section Places

theorem get?_append (root : Node) (l more : Location) :
    root.get? (l ++ more) = (root.get? l).bind (·.get? more) := by
  induction l generalizing root with
  | nil => rfl
  | cons name rest ih =>
    rw [List.cons_append, get?, get?, Option.bind_assoc]
    exact congrArg _ (funext fun n => ih n)

theorem get?_child (root : Node) (here : Location) (name : String) :
    root.get? (here ++ [name]) = (root.get? here).bind (·.child? name) := by
  rw [get?_append]
  refine congrArg _ (funext fun n => ?_)
  rw [get?]
  cases n.child? name <;> rfl

/-- A child is one of the entries. -/
theorem exists_of_child? {n child : Node} {name : String} (found : n.child? name = some child) :
    ∃ entries, n = .dir entries ∧ (name, child) ∈ entries := by
  cases n with
  | dir entries =>
    obtain ⟨e, first, rfl⟩ := Option.map_eq_some_iff.mp found
    have same : e.1 = name := by simpa using List.find?_some first
    exact ⟨entries, rfl, by rw [← same]; exact List.mem_of_find?_eq_some first⟩
  | _ => cases found

mutual

/-- The places of the links. -/
def links : Node → List Location
  | .file _ => []
  | .link _ => [[]]
  | .dir entries => linksEntries entries

def linksEntries : List (String × Node) → List Location
  | [] => []
  | (name, n) :: rest => (links n).map (name :: ·) ++ linksEntries rest

end

mutual

theorem length_links : ∀ n : Node, n.links.length = n.linkCount
  | .file _ => rfl
  | .link _ => rfl
  | .dir entries => length_linksEntries entries

theorem length_linksEntries : ∀ entries, (linksEntries entries).length = linkCountEntries entries
  | [] => rfl
  | (name, n) :: rest => by
    rw [linksEntries, List.length_append, List.length_map, length_links n, length_linksEntries rest,
      linkCountEntries]

end

theorem mem_linksEntries {entries : List (String × Node)} {name : String} {n : Node} {l : Location}
    (member : (name, n) ∈ entries) (place : l ∈ n.links) : name :: l ∈ linksEntries entries := by
  induction entries with
  | nil => cases member
  | cons e rest ih =>
    rw [linksEntries, List.mem_append]
    rcases List.mem_cons.mp member with rfl | later
    · exact Or.inl (List.mem_map_of_mem place)
    · exact Or.inr (ih later)

theorem mem_links {root : Node} {l : Location} {target : String}
    (found : root.get? l = some (.link target)) : l ∈ root.links := by
  induction l generalizing root with
  | nil =>
    cases found
    exact List.mem_singleton_self _
  | cons name rest ih =>
    obtain ⟨child, first, later⟩ := Option.bind_eq_some_iff.mp found
    obtain ⟨entries, rfl, member⟩ := exists_of_child? first
    exact mem_linksEntries member (ih later)

/-- Different places that hold links are no more than there are links. -/
theorem length_le_linkCount {root : Node} {places : List Location} (different : places.Nodup)
    (linked : ∀ l ∈ places, ∃ target, root.get? l = some (.link target)) :
    places.length ≤ root.linkCount := by
  rw [← length_links]
  refine (different.subperm fun l member => ?_).length_le
  obtain ⟨target, found⟩ := linked l member
  exact mem_links found

end Places

section WithoutLinks

theorem linkCount_le_of_mem {entries : List (String × Node)} {e : String × Node} (member : e ∈ entries) :
    e.2.linkCount ≤ linkCountEntries entries := by
  induction entries with
  | nil => cases member
  | cons first rest ih =>
    rw [linkCountEntries]
    rcases List.mem_cons.mp member with rfl | later
    · exact Nat.le_add_right _ _
    · exact Nat.le_add_left_of_le (ih later)

theorem linkCount_child?_le {n child : Node} {name : String} (found : n.child? name = some child) :
    child.linkCount ≤ n.linkCount := by
  obtain ⟨entries, rfl, member⟩ := exists_of_child? found
  exact linkCount_le_of_mem member

theorem linkCount_get?_le {root n : Node} {l : Location} (found : root.get? l = some n) :
    n.linkCount ≤ root.linkCount := by
  induction l generalizing root with
  | nil =>
    cases found
    exact Nat.le_refl _
  | cons name rest ih =>
    obtain ⟨child, first, later⟩ := Option.bind_eq_some_iff.mp found
    exact Nat.le_trans (ih later) (linkCount_child?_le first)

mutual

/-- Something in it has a path that is too long, where it is or where it is copied to. -/
def overruns (source target : String) : Node → Bool
  | .dir entries => entriesOverrun source target entries
  | _ => false

def entriesOverrun (source target : String) : List (String × Node) → Bool
  | [] => false
  | (name, n) :: rest =>
    let source' := source ++ "/" ++ name
    let target' := target ++ "/" ++ name
    (name ≠ repositoryName &&
      ((overlong? name source' target').isSome || overruns source' target' n)) ||
    entriesOverrun source target rest

end

mutual

/-- Where nothing is too long, only links can fail to be copied. -/
theorem copyWith_failures
    {onLink : List String → String → String → Copied (Option Node)} {path : List String}
    {source target : String} : ∀ {n : Node}, n.linkCount = 0 →
    ((copyWith onLink path source target n).failures = [] ↔ overruns source target n = false)
  | .file _, _ => iff_of_true rfl rfl
  | .link _, linkless => absurd linkless Nat.one_ne_zero
  | .dir entries, linkless => by
    rw [copyWith, overruns]
    exact copyEntriesWith_failures linkless

theorem copyEntriesWith_failures
    {onLink : List String → String → String → Copied (Option Node)} {path : List String}
    {source target : String} : ∀ {entries : List (String × Node)}, linkCountEntries entries = 0 →
    ((copyEntriesWith onLink path source target entries).failures = [] ↔
      entriesOverrun source target entries = false)
  | [], _ => iff_of_true rfl rfl
  | (name, n) :: rest, linkless => by
    obtain ⟨first, others⟩ := Nat.add_eq_zero_iff.mp linkless
    have here : (copyWith onLink (path ++ [name]) (source ++ "/" ++ name) (target ++ "/" ++ name)
        n).failures = [] ↔ _ := copyWith_failures first
    have later : (copyEntriesWith onLink path source target rest).failures = [] ↔ _ :=
      copyEntriesWith_failures others
    rw [copyEntriesWith, entriesOverrun]
    split
    next own => simpa [own] using later
    next other =>
      cases long : overlong? name (source ++ "/" ++ name) (target ++ "/" ++ name) with
      | some refused => simp [copyUnlessLong, long, other]
      | none => simp [copyUnlessLong, long, other, here, later]

end

theorem copyOf_failures {root n : Node} (base source target : Location) (linkless : n.linkCount = 0) :
    (root.copyOf base source target n).failures = [] ↔
      n.overruns (Location.text source) (Location.text target) = false :=
  copyWith_failures linkless

end WithoutLinks

section Put

variable {name other : String} {entries : List (String × Node)} {f : Option Node → Option Node}

theorem child?_alterEntry_of_ne (apart : other ≠ name) :
    (dir (alterEntry name f entries)).child? other = (dir entries).child? other := by
  induction entries with
  | nil => cases made : f none <;> simp [alterEntry, child?, made, apart.symm]
  | cons e rest ih =>
    simp only [child?] at ih
    by_cases here : e.1 = name
    · cases made : f (some e.2) with
      | some n => simp [alterEntry, child?, made, here, apart.symm]
      | none =>
        have others : ∀ e : String × Node, (e.1 ≠ name ∧ e.1 = other) = (e.1 = other) := by
          intro e
          exact propext ⟨And.right, fun same => ⟨same ▸ apart, same⟩⟩
        simp [alterEntry, child?, made, here, apart.symm, List.find?_filter, others]
    · by_cases first : e.1 = other
      · rw [alterEntry, if_neg here]
        simp [child?, first]
      · rw [alterEntry, if_neg here]
        simpa [child?, first] using ih

theorem child?_alterEntry_self (keeps : ∀ n, (f (some n)).isSome = true) :
    (dir (alterEntry name f entries)).child? name = f ((dir entries).child? name) := by
  induction entries with
  | nil => cases made : f none <;> simp [alterEntry, child?, made]
  | cons e rest ih =>
    by_cases here : e.1 = name
    · obtain ⟨n, made⟩ := Option.isSome_iff_exists.mp (keeps e.2)
      simp [alterEntry, child?, made, here]
    · simpa [alterEntry, child?, here] using ih

variable {node root child : Node} {rest : Location}

/-- There is nothing to put below a file. -/
theorem put_of_leaf (leaf : root.isDir = false) : put node (name :: rest) root = root := by
  cases root with
  | dir entries => cases leaf
  | _ => cases rest <;> rfl

theorem child?_put_of_ne (apart : other ≠ name) :
    (put node (name :: rest) root).child? other = root.child? other := by
  cases root with
  | dir entries => cases rest <;> exact child?_alterEntry_of_ne apart
  | _ => rw [put_of_leaf rfl]

theorem child?_put_self (found : root.child? name = some child) :
    (put node (name :: rest) root).child? name = some (put node rest child) := by
  obtain ⟨entries, rfl, _⟩ := exists_of_child? found
  cases rest with
  | nil => exact child?_alterEntry_self fun _ => rfl
  | cons next rest =>
    refine (child?_alterEntry_self fun _ => rfl).trans ?_
    rw [found]
    rfl

end Put

end LocalCI.Node
