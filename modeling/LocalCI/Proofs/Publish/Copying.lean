import LocalCI.Proofs.FileTree.Links
import LocalCI.Proofs.Record

/-! Copying the folder of a publish into its worktree, and why that fails. The worktree is entered and
emptied, one entry after another, and then the folder is entered and copied. If nothing in it is a link,
all of it is copied, unless a path is too long or the worktree lies in the folder. -/
namespace LocalCI

open Attempt

namespace Publisher

/-- The worktree is entered at a place and emptied. -/
structure Empties (worktree : Location) (m : Machine) (place : Location) (n : Machine) : Prop where
  entered : m.files.enter worktree = .ok place
  cleared : clear worktree place m = (.ok (), n)

/-- What a location holds for a copy. -/
def contentAt (files : Node) (folder : Location) : Node := .dir (files.entriesAt folder)

/-- Why the folder cannot be copied into the worktree. -/
inductive Uncopied (worktree source : Location) (m : Machine) : Fault → Prop where
  /-- The worktree is not there any more, or it is no directory. -/
  | unentered {why} : m.files.enter worktree = .error why →
      Uncopied worktree source m (.refused why.refusal (Location.text worktree))
  /-- An entry of the worktree cannot be looked at, when those before it are gone. -/
  | unlooked {place before e after n f} : m.files.enter worktree = .ok place →
      m.files.entriesAt place = before ++ e :: after →
      before.forM (fun e => clearEntry worktree place e.1) m = (.ok (), n) →
      e.1 ≠ Node.repositoryName → n.pathIsDir (Path.ofLocation (worktree ++ [e.1])) = .error f →
      Uncopied worktree source m f
  /-- The folder cannot be entered once the worktree is emptied. -/
  | unread {place n why} : Empties worktree m place n → n.files.enter source = .error why →
      Uncopied worktree source m (.refused why.refusal (Location.text source))
  /-- The worktree lies deep in the folder. -/
  | endless {place n folder} : Empties worktree m place n → n.files.enter source = .ok folder →
      Node.holdsItself folder place = true →
      Uncopied worktree source m (.copyFailed [Node.endless source worktree])
  /-- The folder has links or paths that are too long, and not all that is in it can be copied. -/
  | incomplete {place n folder failures} : Empties worktree m place n →
      n.files.enter source = .ok folder → Node.holdsItself folder place = false →
      (contentAt n.files folder).linkCount ≠ 0 ∨
        (contentAt n.files folder).overruns (Location.text source) (Location.text worktree) = true →
      (n.files.copyOf folder source worktree (contentAt n.files folder)).failures = failures →
      failures ≠ [] → Uncopied worktree source m (.copyFailed failures)

variable {worktree source place folder : Location} {name : String} {m n : Machine} {f : Fault}

/-- An entry is not removed only if it cannot be looked at. -/
theorem clearEntry_eq_error : clearEntry worktree place name m = (.error f, n) ↔
    name ≠ Node.repositoryName ∧ m.pathIsDir (Path.ofLocation (worktree ++ [name])) = .error f ∧
      m = n := by
  unfold clearEntry
  split
  next other =>
    rw [bind_apply, Act.pathIsDir_apply]
    cases m.pathIsDir (Path.ofLocation (worktree ++ [name])) <;> simp [other]
  next own => simp [own]

theorem clearEntry_of_looked {answer : Bool} (other : name ≠ Node.repositoryName)
    (looked : m.pathIsDir (Path.ofLocation (worktree ++ [name])) = .ok answer) :
    clearEntry worktree place name m =
      (.ok (), { m with files := m.files.remove (place ++ [name]) }) := by
  unfold clearEntry
  rw [if_pos other, bind_apply, Act.pathIsDir_apply, looked]
  rfl

theorem clear_eq_error : clear worktree place m = (.error f, n) ↔
    ∃ before e after, m.files.entriesAt place = before ++ e :: after ∧
      before.forM (fun e => clearEntry worktree place e.1) m = (.ok (), n) ∧
      e.1 ≠ Node.repositoryName ∧ n.pathIsDir (Path.ofLocation (worktree ++ [e.1])) = .error f := by
  unfold clear
  rw [bind_of_ok (get_apply m), forM_eq_error]
  simp only [clearEntry_eq_error]
  constructor
  · rintro ⟨before, e, after, k, parts, through, other, refused, rfl⟩
    exact ⟨before, e, after, parts, through, other, refused⟩
  · rintro ⟨before, e, after, parts, through, other, refused⟩
    exact ⟨before, e, after, n, parts, through, other, refused, rfl⟩

/-- Copying fails if it would not end, or with what could not be copied. -/
theorem copyInto_fails_iff : (copyInto worktree place source folder m).1 = .error f ↔
    Node.holdsItself folder place = true ∧ f = .copyFailed [Node.endless source worktree] ∨
    Node.holdsItself folder place = false ∧
      ∃ failures, (m.files.copyOf folder source worktree (contentAt m.files folder)).failures = failures ∧
        failures ≠ [] ∧ f = .copyFailed failures := by
  unfold copyInto
  rw [bind_of_ok (get_apply m)]
  cases inside : Node.holdsItself folder place with
  | true =>
    rw [if_pos rfl, bind_apply, throw_apply]
    simp only [Except.error.injEq, true_and, reduceCtorEq, false_and, or_false]
    exact eq_comm
  | false =>
    rw [if_neg (by simp)]
    dsimp only
    rw [bind_of_ok (set_apply m _)]
    cases failed : (m.files.copyOf folder source worktree
      (.dir (m.files.entriesAt folder))).failures with
    | nil => simp [contentAt, failed]
    | cons first failures => simp [contentAt, failed, eq_comm]

/-- If nothing fails but what is copied, the folder has links or paths that are too long. -/
theorem linked_or_overruns {files content : Node}
    (failed : (files.copyOf folder source worktree content).failures ≠ []) :
    content.linkCount ≠ 0 ∨ content.overruns (Location.text source) (Location.text worktree) = true := by
  by_cases linkless : content.linkCount = 0
  · refine Or.inr ((Bool.not_eq_false _).mp fun fits => failed ?_)
    exact (Node.copyOf_failures folder source worktree linkless).mpr fits
  · exact Or.inl linkless

theorem fst_eq_error {α : Type} {x : Act α} : (x m).1 = .error f ↔ ∃ n, x m = (.error f, n) :=
  ⟨fun failed => ⟨(x m).2, Prod.ext failed rfl⟩, fun ⟨_, failed⟩ => congrArg Prod.fst failed⟩

/-- Copying fails for one of the listed reasons, and each of them makes it fail. -/
theorem replaceTree_fails_iff :
    (replaceTree worktree source m).1 = .error f ↔ Uncopied worktree source m f := by
  rw [fst_eq_error]
  unfold replaceTree
  simp only [bind_eq_error, Act.enter_eq_error, Act.enter_eq_ok, clear_eq_error]
  constructor
  · rintro ⟨u, ⟨why, refused, rfl, rfl⟩ | ⟨place, _, ⟨entered, rfl⟩, ⟨before, e, after, parts, through,
      other, refused⟩ | ⟨_, n, cleared, ⟨why, refused, rfl, rfl⟩ | ⟨folder, _, ⟨read, rfl⟩, failed⟩⟩⟩⟩
    · exact .unentered refused
    · exact .unlooked entered parts through other refused
    · exact .unread ⟨entered, cleared⟩ refused
    · rcases copyInto_fails_iff.mp (congrArg Prod.fst failed) with
        ⟨inside, rfl⟩ | ⟨outside, failures, rfl, some, rfl⟩
      · exact .endless ⟨entered, cleared⟩ read inside
      · exact .incomplete ⟨entered, cleared⟩ read outside (linked_or_overruns some) rfl some
  · intro cause
    cases cause with
    | unentered refused => exact ⟨m, Or.inl ⟨_, refused, rfl, rfl⟩⟩
    | unlooked entered parts through other refused =>
      exact ⟨_, Or.inr ⟨_, m, ⟨entered, rfl⟩, Or.inl ⟨_, _, _, parts, through, other, refused⟩⟩⟩
    | unread empties refused =>
      exact ⟨_, Or.inr ⟨_, m, ⟨empties.entered, rfl⟩, Or.inr ⟨_, _, empties.cleared,
        Or.inl ⟨_, refused, rfl, rfl⟩⟩⟩⟩
    | endless empties read inside =>
      obtain ⟨u, failed⟩ := fst_eq_error.mp (copyInto_fails_iff.mpr (Or.inl ⟨inside, rfl⟩))
      exact ⟨u, Or.inr ⟨_, m, ⟨empties.entered, rfl⟩, Or.inr ⟨_, _, empties.cleared,
        Or.inr ⟨_, _, ⟨read, rfl⟩, failed⟩⟩⟩⟩
    | incomplete empties read outside _ same failed =>
      obtain ⟨u, failed⟩ :=
        fst_eq_error.mp (copyInto_fails_iff.mpr (Or.inr ⟨outside, _, same, failed, rfl⟩))
      exact ⟨u, Or.inr ⟨_, m, ⟨empties.entered, rfl⟩, Or.inr ⟨_, _, empties.cleared,
        Or.inr ⟨_, _, ⟨read, rfl⟩, failed⟩⟩⟩⟩

end Publisher
end LocalCI
