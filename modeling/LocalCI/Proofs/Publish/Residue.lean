import LocalCI.Proofs.FileTree.Following
import LocalCI.Proofs.Footprint
import Mathlib.Data.List.Nodup
import Mathlib.Data.List.Perm.Subperm

/-! What a publish leaves behind: nothing. Its worktree is new, all it changes itself is where the path of
the worktree leads, and if git leaves the worktree where it is, that is the worktree, which is gone at the
end, however the publish ends. What differs elsewhere was written by git. -/
namespace LocalCI.Publisher

open Attempt

section Worktree

theorem worktreeName_inj {k n : Nat} : worktreeName k = worktreeName n ↔ k = n := by
  constructor
  · intro same
    have digits : Nat.toDigits 10 k = Nat.toDigits 10 n := by
      simpa [worktreeName] using congrArg String.toList same
    have numbers := congrArg (Nat.ofDigitChars 10 · 0) digits
    simpa [Nat.ofDigitChars_toDigits] using numbers
  · exact congrArg worktreeName

/-- Of one name more than are taken, one is free. -/
theorem worktreeName_freeNumber (taken : List String) (first : Nat) :
    worktreeName (freeNumber taken first) ∉ taken := by
  unfold freeNumber
  cases found : (List.range' first (taken.length + 1)).find? fun number =>
      !taken.contains (worktreeName number) with
  | some number => simpa using List.find?_some found
  | none =>
    have all : (List.range' first (taken.length + 1)).map worktreeName ⊆ taken := by
      intro name member
      obtain ⟨number, listed, rfl⟩ := List.mem_map.mp member
      simpa using List.find?_eq_none.mp found number listed
    have different : ((List.range' first (taken.length + 1)).map worktreeName).Nodup :=
      (List.nodup_range' 1).map fun _ _ => worktreeName_inj.mp
    have few := (different.subperm all).length_le
    rw [List.length_map, List.length_range'] at few
    omega

theorem worktreeName_ne_parent (number : Nat) : worktreeName number ≠ ".." := by
  intro same
  have letters := congrArg (fun name => name.toList.head?) same
  simp only [worktreeName, String.toList_append, List.head?_append] at letters
  cases letters

end Worktree

/-- A worktree, by the path of the temporary directory, the place this was at when the worktree was made,
and the number of the worktree. -/
structure Worktree where
  temp : Location
  holder : Location
  number : Nat

namespace Worktree

variable (w : Worktree)

def name : String := worktreeName w.number

/-- The path that is given to git. -/
def path : Location := w.temp ++ [w.name]

/-- Where the worktree was made. -/
def place : Location := w.holder ++ [w.name]

/-- The worktree is found by its path, or by its name in the temporary directory. -/
def LeadsTo (files : Node) (l : Location) : Prop :=
  files.enter w.path = .ok l ∨ ∃ holder, files.enter w.temp = .ok holder ∧ l = holder ++ [w.name]

/-- The worktree is a directory where it was made, and this is where the temporary directory is, with or
without it. -/
structure Stands (files : Node) : Prop where
  held : (files.remove w.place).enter w.temp = .ok w.holder
  isDir : files.entryAt w.place = some .dir

end Worktree

/-- A program that git is. -/
def IsGit (args : List String) (_ : Option String) : Prop := args.head? = some "git"

/-- But for what is at the place, the files are the same. At the root there is everything. -/
def AltersAt (place : Location) (before after : Node) : Prop :=
  place ≠ [] → after.remove place = before.remove place

/-- What a publish may change itself: what is where its worktree is found. -/
def Worktree.Alters (w : Worktree) (before after : Node) : Prop :=
  ∃ l, w.LeadsTo before l ∧ AltersAt l before after

/-- Of a publish that worked in a worktree there is nothing left. Programs changed the files as listed,
`early` before the worktree was made and `late` after it. -/
structure Undone (m ended : Machine) (w : Worktree) (early late : List (Node × Node)) : Prop where
  /-- All it changes itself is in the worktree; every other change is made by git. -/
  footprint : m.Footprint (AltersAt w.place) IsGit (early ++ late) ended
  gone : ended.files.get? w.place = none
  /-- Where git changes nothing, everything is as it was. In the worktree it may change what it likes. -/
  elsewhere : ∀ l, (∀ c ∈ early, c.2.entryAt l = c.1.entryAt l) →
    w.place <+: l ∨ (∀ c ∈ late, c.2.entryAt l = c.1.entryAt l) →
    ended.files.entryAt l = m.files.entryAt l
  /-- If git keeps to the worktree, the files are those there were. -/
  whole : (∀ c ∈ early, c.2 = c.1) → (∀ c ∈ late, c.2.remove w.place = c.1.remove w.place) →
    ended.files = m.files

/-- A publish that worked in a worktree changed nothing itself but where the worktree was found. If no
program puts something else in its place, nothing is left of it. -/
structure LeavesNothing (m ended : Machine) (w : Worktree) (early late : List (Node × Node)) :
    Prop where
  temporary : w.temp = m.temp
  /-- Unless git changed something before, the worktree was made where the temporary directory is. -/
  held : (∀ c ∈ early, c.2 = c.1) → m.files.enter m.temp = .ok w.holder
  /-- Every change that is not made by git is made where the worktree is found then. -/
  footprint : m.Footprint w.Alters IsGit (early ++ late) ended
  undone : (∀ c ∈ late, w.Stands c.2) → Undone m ended w early late

section Altering

variable {place : Location} {before after : Node}

theorem altersAt_remove (place : Location) (root : Node) : AltersAt place root (root.remove place) :=
  fun filled => Node.remove_of_absent filled (Node.get?_remove filled root)

theorem altersAt_put (node : Node) (place : Location) (root : Node) :
    AltersAt place root (Node.put node place root) := Node.remove_put

theorem AltersAt.entryAt (alters : AltersAt place before after) {l : Location} (outside : ¬ place <+: l) :
    after.entryAt l = before.entryAt l := by
  have filled : place ≠ [] := by
    rintro rfl
    exact outside List.nil_prefix
  have same := congrArg (·.entryAt l) (alters filled)
  rwa [Node.remove, Node.remove, Node.entryAt_alter outside, Node.entryAt_alter outside] at same

end Altering

namespace Worktree

variable {w : Worktree} {files after : Node}

theorem place_ne_nil : w.place ≠ [] := by simp [place]

theorem Stands.enter (stands : w.Stands files) : files.enter w.temp = .ok w.holder := by
  have absent := Node.get?_remove w.place_ne_nil files
  have apart : ¬ w.place <+: w.temp := by
    refine Node.not_prefix_of_enter stands.held (worktreeName_ne_parent _) ?_
    exact Node.entryAt_of_absent absent List.prefix_rfl
  refine Node.enter_mono (Node.extends_remove _ _) ?_ stands.held
  rw [Node.remove, Node.entryAt_alter apart]

/-- The path of a worktree that stands leads to no other place. -/
theorem Stands.leadsTo (stands : w.Stands files) {l : Location} (leads : w.LeadsTo files l) :
    l = w.place := by
  rcases leads with entered | ⟨holder, entered, rfl⟩
  · exact Node.enter_snoc stands.enter (worktreeName_ne_parent _) stands.isDir entered
  · rw [Except.ok.inj (entered.symm.trans stands.enter)]
    rfl

/-- What is changed in the worktree does not move it. -/
theorem Stands.altered (stands : w.Stands files) (alters : AltersAt w.place files after)
    (isDir : after.entryAt w.place = some .dir) : w.Stands after :=
  ⟨alters w.place_ne_nil ▸ stands.held, isDir⟩

end Worktree

section Working

variable {w : Worktree}

/-- While a publish is at work, all it changes itself is where the worktree is found, and that is where
the worktree stands as long as git lets it. -/
def Works (w : Worktree) (m n : Machine) : Prop :=
  ∃ late, m.Footprint w.Alters IsGit late n ∧
    (w.Stands m.files → (∀ c ∈ late, w.Stands c.2) →
      m.Footprint (AltersAt w.place) IsGit late n ∧ w.Stands n.files)

instance : IsPreorder Machine (Works w) where
  refl m := ⟨[], .stayed m, fun stands _ => ⟨.stayed m, stands⟩⟩
  trans := by
    rintro l m n ⟨first, before, kept⟩ ⟨later, after, kept'⟩
    refine ⟨first ++ later, before.andThen after, fun stands all => ?_⟩
    obtain ⟨start, between⟩ := kept stands fun c member => all c (List.mem_append_left _ member)
    obtain ⟨rest, stands⟩ := kept' between fun c member => all c (List.mem_append_right _ member)
    exact ⟨start.andThen rest, stands⟩

theorem git_works (args : List String) (cwd : Option String) (env : Option Env) :
    Follows (Works w) (Git.run args cwd env) := by
  intro m
  refine ⟨[(m.files, (Git.run args cwd env m).2.files)], .launched env m rfl, fun _ all => ?_⟩
  exact ⟨.launched env m rfl, all _ (List.mem_singleton_self _)⟩

/-- The files were changed at a place, and it is a directory if it was one. -/
def ChangesAt (place : Location) (m n : Machine) : Prop :=
  ∃ files, n = { m with files := files } ∧ AltersAt place m.files files ∧
    (m.files.entryAt place = some .dir → files.entryAt place = some .dir)

instance {place : Location} : IsPreorder Machine (ChangesAt place) where
  refl m := ⟨m.files, rfl, fun _ => rfl, id⟩
  trans := by
    rintro l _ _ ⟨files, rfl, first, kept⟩ ⟨files', rfl, later, kept'⟩
    exact ⟨files', rfl, fun filled => (later filled).trans (first filled), fun dir => kept' (kept dir)⟩

theorem clear_changesAt (worktree place : Location) :
    Follows (ChangesAt place) (clear worktree place) := by
  refine clear_conducts fun m name => ⟨_, rfl, fun filled => ?_, fun dir => ?_⟩
  · exact Node.remove_remove_append filled name m.files
  · rw [Node.remove, Node.entryAt_alter, dir]
    rintro ⟨more, same⟩
    simp at same

theorem copyInto_changesAt (worktree place source folder : Location) :
    Follows (ChangesAt place) (copyInto worktree place source folder) := by
  refine copyInto_conducts fun m entries => ⟨_, rfl, altersAt_put _ _ _, fun dir => ?_⟩
  obtain ⟨old, there⟩ := Node.entryAt_eq_dir dir
  have put : (Node.put (.dir entries) place m.files).get? (place ++ []) = some (.dir entries) :=
    Node.get?_put_append there []
  rw [List.append_nil] at put
  rw [Node.entryAt, put]
  rfl

/-- Copying changes what the path of the worktree leads to. -/
theorem replaceTree_works (source : Location) : Follows (Works w) (replaceTree w.path source) := by
  intro m
  cases entered : m.files.enter w.path with
  | error why =>
    rw [replaceTree, bind_of_error (Act.enter_eq_error.mpr ⟨why, entered, rfl, rfl⟩)]
    exact refl_of (Works w) m
  | ok l =>
    have changes : Follows (ChangesAt l) (do
        clear w.path l
        copyInto w.path l source (← Act.enter source)) :=
      .bind (clear_changesAt _ _) fun _ => .bind (Act.enter_conducts _) fun _ =>
        copyInto_changesAt _ _ _ _
    rw [replaceTree, bind_of_ok (Act.enter_eq_ok.mpr ⟨entered, rfl⟩)]
    obtain ⟨files, after, alters, kept⟩ := changes m
    rw [after]
    refine ⟨[], .changed m.temps ⟨l, Or.inl entered, alters⟩, fun stands _ => ?_⟩
    obtain rfl := stands.leadsTo (Or.inl entered)
    exact ⟨.changed m.temps alters, stands.altered alters (kept stands.isDir)⟩

theorem publishIn_works (p : Publisher) (d : Deploy) (source : Location) (url : String) :
    Follows (Works w) (p.publishIn d source w.path url) :=
  p.publishIn_conducts d git_works (replaceTree_works source) url

end Working

section Making

variable {w : Worktree} {files : Node}

/-- What has a free name is not there. -/
theorem get?_freeNumber (files : Node) (holder : Location) (first : Nat) :
    files.get? (holder ++ [worktreeName
      (freeNumber ((files.entriesAt holder).map Prod.fst) first)]) = none := by
  rw [Node.get?_child, Node.entriesAt]
  cases files.get? holder with
  | none => rfl
  | some n =>
    cases n with
    | dir entries => exact Node.child?_eq_none_iff.mpr (worktreeName_freeNumber _ _)
    | _ => rfl

theorem stands_of_made (entered : files.enter w.temp = .ok w.holder)
    (absent : files.get? w.place = none) : w.Stands (Node.put Node.emptyDir w.place files) where
  held := by rw [Node.remove_put w.place_ne_nil, Node.remove_of_absent w.place_ne_nil absent, entered]
  isDir := by
    obtain ⟨entries, there⟩ := Node.entryAt_eq_dir (Node.entryAt_of_enter entered)
    rw [Node.entryAt, Worktree.place, Node.get?_put_child there]
    rfl

/-- At the end the worktree is removed where its name is in the temporary directory, if it is a directory
there. -/
theorem removeTree_path (w : Worktree) (m : Machine) :
    (removeTree w.path m = m ∧ ¬ w.Stands m.files) ∨
      ∃ holder, m.files.enter w.temp = .ok holder ∧
        removeTree w.path m = { m with files := m.files.remove (holder ++ [w.name]) } := by
  have parts : w.path.dropLast = w.temp ∧ w.path.getLast?.toList = [w.name] := by simp [Worktree.path]
  unfold removeTree
  rw [parts.1, parts.2]
  cases entered : m.files.enter w.temp with
  | error why =>
    refine Or.inl ⟨rfl, fun stands => ?_⟩
    cases entered.symm.trans stands.enter
  | ok holder =>
    dsimp only
    split
    next => exact Or.inr ⟨holder, rfl, rfl⟩
    next other =>
      refine Or.inl ⟨rfl, fun stands => other ?_⟩
      obtain rfl := Except.ok.inj (entered.symm.trans stands.enter)
      exact (Node.isDir_iff_entryAt _ _).mpr stands.isDir

/-- Removing the worktree is the last change of its own. -/
theorem removeTree_footprint (w : Worktree) (m : Machine) :
    m.Footprint w.Alters IsGit [] (removeTree w.path m) := by
  rcases removeTree_path w m with ⟨same, -⟩ | ⟨holder, entered, removed⟩
  · rw [same]
    exact .stayed m
  · rw [removed]
    exact .changed m.temps ⟨_, Or.inr ⟨holder, entered, rfl⟩, altersAt_remove _ _⟩

theorem removeTree_of_stands {m : Machine} (stands : w.Stands m.files) :
    removeTree w.path m = { m with files := m.files.remove w.place } := by
  rcases removeTree_path w m with ⟨-, fallen⟩ | ⟨holder, entered, removed⟩
  · exact absurd stands fallen
  · obtain rfl := Except.ok.inj (entered.symm.trans stands.enter)
    exact removed

/-- Work in a new worktree, which is removed in the end, leaves nothing. -/
theorem leavesNothing_of_works {m e : Machine} {temps : Nat} (temporary : w.temp = m.temp)
    (entered : m.files.enter w.temp = .ok w.holder) (absent : m.files.get? w.place = none)
    (works : Works w { m with temps := temps, files := Node.put Node.emptyDir w.place m.files } e) :
    ∃ late, LeavesNothing m (removeTree w.path e) w [] late := by
  obtain ⟨late, work, kept⟩ := works
  have made : ∀ {own : Node → Node → Prop}, own m.files (Node.put Node.emptyDir w.place m.files) →
      m.Footprint own IsGit [] _ := .changed temps
  refine ⟨late, temporary, fun _ => temporary ▸ entered, ?_, fun all => ?_⟩
  · have begins : m.Footprint w.Alters IsGit [] _ :=
      made ⟨w.place, Or.inr ⟨w.holder, entered, rfl⟩, altersAt_put _ _ _⟩
    simpa using (begins.andThen work).andThen (removeTree_footprint w e)
  · obtain ⟨work, stands⟩ := kept (stands_of_made entered absent) all
    have gone := Node.get?_remove w.place_ne_nil e.files
    rw [removeTree_of_stands stands]
    refine ⟨?_, gone, fun l _ still => ?_, fun _ still => ?_⟩
    · have removes : e.Footprint (AltersAt w.place) IsGit [] _ := .changed e.temps (altersAt_remove _ _)
      simpa using ((made (altersAt_put _ _ _)).andThen work).andThen removes
    · by_cases inside : w.place <+: l
      · rw [Node.entryAt_of_absent gone inside, Node.entryAt_of_absent absent inside]
      · have quiet := work.same_of (·.entryAt l) (fun alters => alters.entryAt inside)
          (still.resolve_left inside)
        rw [Node.remove, Node.entryAt_alter inside, quiet, Node.put, Node.entryAt_alter inside]
    · have quiet := work.same_of (Node.remove w.place) (fun alters => alters w.place_ne_nil) still
      change e.files.remove w.place = m.files
      rw [quiet, Node.remove_put w.place_ne_nil, Node.remove_of_absent w.place_ne_nil absent]

end Making

/-- Git was asked and nothing was changed. -/
abbrev Asks : Machine → Machine → Prop := Machine.Acts (fun _ => True) (fun _ _ => False) IsGit

theorem git_asks (args : List String) (cwd : Option String) (env : Option Env) :
    Follows Asks (Git.run args cwd env) := fun m _ => ⟨⟨_, .launched env m rfl⟩, trivial⟩

/-- A publish changed nothing itself, or it worked in a worktree and left nothing. -/
def Spotless (m ended : Machine) : Prop :=
  (∃ changes, m.Footprint (fun _ _ => False) IsGit changes ended) ∨
    ∃ w early late, LeavesNothing m ended w early late

theorem LeavesNothing.after {l m n : Machine} {w : Worktree} {changes early late : List (Node × Node)}
    (asked : l.Footprint (fun _ _ => False) IsGit changes m) (leaves : LeavesNothing m n w early late) :
    LeavesNothing l n w (changes ++ early) late := by
  have unchanged := asked.same_of id nofun
  refine ⟨leaves.temporary.trans asked.temp, fun quiet => ?_, ?_, fun all => ?_⟩
  · have same : m.files = l.files := unchanged fun c member => quiet c (List.mem_append_left _ member)
    rw [← same, ← asked.temp]
    exact leaves.held fun c member => quiet c (List.mem_append_right _ member)
  · rw [List.append_assoc]
    exact (asked.mono nofun).andThen leaves.footprint
  · obtain ⟨footprint, gone, elsewhere, whole⟩ := leaves.undone all
    refine ⟨?_, gone, fun l quiet still => ?_, fun quiet still => ?_⟩
    · rw [List.append_assoc]
      exact (asked.mono nofun).andThen footprint
    · have before := asked.same_of (·.entryAt l) nofun
        fun c member => quiet c (List.mem_append_left _ member)
      exact (elsewhere l (fun c member => quiet c (List.mem_append_right _ member)) still).trans before
    · have before := unchanged fun c member => quiet c (List.mem_append_left _ member)
      exact (whole (fun c member => quiet c (List.mem_append_right _ member)) still).trans before

theorem Spotless.after_asks {l m n : Machine} (asks : Asks l m) (spotless : Spotless m n) :
    Spotless l n := by
  obtain ⟨⟨changes, asked⟩, -⟩ := asks trivial
  rcases spotless with ⟨later, footprint⟩ | ⟨w, early, late, leaves⟩
  · exact Or.inl ⟨changes ++ later, asked.andThen footprint⟩
  · exact Or.inr ⟨w, changes ++ early, late, leaves.after asked⟩

theorem spotless_of_asks {m n : Machine} (asks : Asks m n) : Spotless m n := Or.inl (asks trivial).1

/-- From the making of the worktree to its end. -/
theorem worktree_spotless (p : Publisher) (d : Deploy) (source : Location) (url : String) (m : Machine) :
    Spotless m ((do
      let worktree ← makeWorktree
      (p.publishIn d source worktree url).ensuring (removeTree worktree)) m).2 := by
  rcases makeWorktree_cases m with ⟨how, path, refused⟩ | ⟨holder, number, entered, free, made⟩
  · rw [bind_of_error refused]
    exact Or.inl ⟨[], .stayed m⟩
  · obtain ⟨w, temp, rfl, rfl⟩ : ∃ w : Worktree, w.temp = m.temp ∧ w.holder = holder ∧ w.number = number :=
      ⟨⟨m.temp, holder, number⟩, rfl, rfl, rfl⟩
    have absent : m.files.get? w.place = none := by
      rw [Worktree.place, Worktree.name, free]
      exact get?_freeNumber _ _ _
    have path : m.temp ++ [worktreeName w.number] = w.path := by
      rw [← temp]
      rfl
    have place : w.holder ++ [worktreeName w.number] = w.place := rfl
    rw [path, place] at made
    rw [bind_of_ok made, ensuring_apply]
    rw [← temp] at entered
    obtain ⟨late, leaves⟩ :=
      leavesNothing_of_works temp entered absent (publishIn_works p d source url _)
    exact Or.inr ⟨w, [], late, leaves⟩

end LocalCI.Publisher
