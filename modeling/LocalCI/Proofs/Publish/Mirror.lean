import LocalCI.Proofs.FileTree.Copies
import LocalCI.Proofs.Publish.Copying

/-! The worktree as a mirror of the folder. Once its content is replaced, the worktree shows on every
path what the folder shows there with its links followed, and nothing named like a repository but its
own. That does not depend on what was in it, and replacing it again changes nothing. -/
namespace LocalCI.Publisher

open Attempt Node

/-- What the files are once the worktree mirrors the folder. -/
structure Mirrors (worktree source : Location) (before after : Node) : Prop where
  /-- The repository of the worktree is as it was. -/
  repository : ∀ path,
    after.get? (worktree ++ repositoryName :: path) = before.get? (worktree ++ repositoryName :: path)
  /-- Every other path shows what it shows in the folder, if its names can be asked for. -/
  copy : ∀ path, Askable path → repositoryName ∉ path →
    after.entryAt (worktree ++ path) = shown before source path
  lacks : ∀ name path, name ≠ repositoryName → repositoryName ∈ path →
    after.entryAt (worktree ++ name :: path) = none
  elsewhere : ∀ l, ¬ worktree <+: l → after.entryAt l = before.entryAt l
  folder : after.get? source = before.get? source

/-- Every entry that has to go can be looked at. -/
def Inspectable (worktree : Location) (entries : List (String × Node)) (m : Machine) : Prop :=
  ∀ e ∈ entries, e.1 ≠ repositoryName →
    ∃ answer, m.pathIsDir (Path.ofLocation (worktree ++ [e.1])) = .ok answer

/-- What stays of a worktree that is emptied. -/
def keptEntries (n : Node) : List (String × Node) := n.entries.filter fun e => e.1 = repositoryName

section Clearing

variable {worktree : Location} {files : Node} {m : Machine}

theorem Inspectable.smaller {entries : List (String × Node)} {smaller : Node}
    (fewer : Extends smaller m.files) (inspectable : Inspectable worktree entries m) :
    Inspectable worktree entries { m with files := smaller } := fun e member other =>
  exists_pathIsDir_of_extends fewer (inspectable e member other).choose_spec

/-- The entries that are left when these are removed, the repository apart. -/
def entriesWithout (removed entries : List (String × Node)) : List (String × Node) :=
  entries.filter fun e => e.1 = repositoryName ∨ e.1 ∉ removed.map Prod.fst

theorem entriesWithout_cons_own {first : String × Node} (own : first.1 = repositoryName)
    (removed entries : List (String × Node)) :
    entriesWithout (first :: removed) entries = entriesWithout removed entries := by
  refine List.filter_congr fun e _ => decide_eq_decide.mpr ?_
  rw [List.map_cons, List.mem_cons, own]
  tauto

theorem entriesWithout_cons {first : String × Node} (other : first.1 ≠ repositoryName)
    (removed entries : List (String × Node)) :
    entriesWithout (first :: removed) entries =
      entriesWithout removed (entries.filter fun e => e.1 ≠ first.1) := by
  rw [entriesWithout, entriesWithout, List.filter_filter]
  refine List.filter_congr fun e _ => ?_
  rw [← Bool.decide_and, decide_eq_decide, List.map_cons, List.mem_cons]
  constructor
  · rintro (own | apart)
    · exact ⟨Or.inl own, fun same => other (same ▸ own)⟩
    · tauto
  · tauto

/-- Entries that can be looked at are removed one after another, and the others stay. -/
theorem forM_clearEntry (filled : worktree ≠ []) {todo entries : List (String × Node)}
    (holds : m.files = holding worktree files entries) (inspectable : Inspectable worktree todo m) :
    todo.forM (fun e => clearEntry worktree worktree e.1) m =
      (.ok (), { m with files := holding worktree files (entriesWithout todo entries) }) := by
  induction todo generalizing m entries with
  | nil => simp [entriesWithout, ← holds]
  | cons first todo ih =>
    obtain ⟨looked, later⟩ := List.forall_mem_cons.mp inspectable
    refine bind_eq_ok.mpr ?_
    by_cases own : first.1 = repositoryName
    · rw [entriesWithout_cons_own own]
      exact ⟨(), m, by simp [clearEntry, own], ih holds later⟩
    · obtain ⟨answer, looked⟩ := looked own
      have removed : m.files.remove (worktree ++ [first.1]) =
          holding worktree files (entries.filter fun e => e.1 ≠ first.1) := by
        rw [holds, holding, remove_append_put filled, holding]
      rw [entriesWithout_cons own]
      exact ⟨(), _, clearEntry_of_looked own looked,
        ih removed (Inspectable.smaller (extends_remove _ _) later)⟩

/-- If all that has to go can be looked at, the worktree is emptied. -/
theorem clear_of_inspectable (filled : worktree ≠ []) (there : (files.get? worktree).isSome = true)
    {entries : List (String × Node)} (holds : m.files = holding worktree files entries)
    (inspectable : Inspectable worktree entries m) :
    clear worktree worktree m =
      (.ok (), { m with files := holding worktree files (keptEntries (.dir entries)) }) := by
  have listed : m.files.entriesAt worktree = entries := by
    rw [holds, entriesAt, get?_holding_self there]
    rfl
  have kept : entriesWithout entries entries = keptEntries (.dir entries) := by
    refine List.filter_congr fun e member => ?_
    simp [List.mem_map_of_mem (f := Prod.fst) member]
  unfold clear
  rw [bind_of_ok (get_apply m), listed, forM_clearEntry filled holds inspectable, kept]

end Clearing

section Kept

variable {old copies : List (String × Node)}

theorem child?_append (first later : List (String × Node)) (name : String) :
    (dir (first ++ later)).child? name = ((dir first).child? name).or ((dir later).child? name) := by
  simp only [child?, List.find?_append]
  cases first.find? fun e => e.1 = name <;> rfl

theorem child?_kept_repository (bare : (dir copies).child? repositoryName = none) :
    (dir (keptEntries (.dir old) ++ copies)).child? repositoryName = (dir old).child? repositoryName := by
  have found : (dir (keptEntries (.dir old))).child? repositoryName = (dir old).child? repositoryName := by
    simp [child?, keptEntries, Node.entries, List.find?_filter]
  rw [child?_append, bare, Option.or_none, found]

theorem child?_kept_other {name : String} (other : name ≠ repositoryName) :
    (dir (keptEntries (.dir old) ++ copies)).child? name = (dir copies).child? name := by
  have absent : (dir (keptEntries (.dir old))).child? name = none := by
    refine child?_eq_none_iff.mpr fun member => other ?_
    obtain ⟨e, kept, rfl⟩ := List.mem_map.mp member
    simpa using (List.mem_filter.mp kept).2
  rw [child?_append, absent, Option.none_or]

theorem keptEntries_append (bare : (dir copies).child? repositoryName = none) :
    keptEntries (.dir (keptEntries (.dir old) ++ copies)) = keptEntries (.dir old) := by
  have none : copies.filter (fun e => e.1 = repositoryName) = [] := by
    refine List.filter_eq_nil_iff.mpr fun e member same => child?_eq_none_iff.mp bare ?_
    exact List.mem_map.mpr ⟨e, member, by simpa using same⟩
  simp [keptEntries, Node.entries, none]

end Kept

section Replacing

variable {worktree source : Location} {files : Node} {folder copies : List (String × Node)}

/-- Where the folder can be copied, its copies come to what is kept of the worktree. -/
theorem replaceTree_of_copied {entries : List (String × Node)} {m : Machine}
    (holds : m.files = holding worktree files entries)
    (there : (files.get? worktree).isSome = true) (found : files.get? source = some (.dir folder))
    (outside : ¬ worktree <+: source) (around : ¬ source <+: worktree)
    (copied : EntriesCopyTo files source worktree linkLimit [] folder copies)
    (inspectable : Inspectable worktree entries m) :
    replaceTree worktree source m = (.ok (),
      { m with files := holding worktree files (keptEntries (.dir entries) ++ copies) }) := by
  have filled : worktree ≠ [] := by
    rintro rfl
    exact outside List.nil_prefix
  have entered : m.files.enter worktree = .ok worktree := by
    rw [holds]
    exact enter_of_get? (get?_holding_self there entries)
  have cleared := clear_of_inspectable filled there holds inspectable
  have source' : (holding worktree files (keptEntries (.dir entries))).get? source =
      some (.dir folder) := by
    rw [holding, get?_put_of_apart outside around, found]
  have apart : holdsItself source worktree = false := by
    have not : source.isPrefixOf worktree = false :=
      Bool.eq_false_iff.mpr fun is => around (List.isPrefixOf_iff_prefix.mp is)
    simp [holdsItself, not]
  have copy : copyOf (holding worktree files (keptEntries (.dir entries))) source source worktree
      (.dir folder) = ⟨some (.dir copies), []⟩ :=
    (copiesTo_dir copied).made (Nat.le_refl _) (keptEntries (.dir entries))
  refine bind_eq_ok.mpr ⟨worktree, m, Act.enter_eq_ok.mpr ⟨entered, rfl⟩, bind_eq_ok.mpr ⟨_, _, cleared,
    bind_eq_ok.mpr ⟨source, _, Act.enter_eq_ok.mpr ⟨enter_of_get? source', rfl⟩, ?_⟩⟩⟩
  unfold copyInto
  rw [bind_of_ok (get_apply _), if_neg (by simp [apart])]
  dsimp only
  rw [entriesAt, entriesAt, source', get?_holding_self there]
  dsimp only [Option.map_some, Option.getD_some, Node.entries]
  simp only [copy]
  rw [bind_of_ok (set_apply _ _), holding, put_put filled]
  rfl

/-- What was copied can be looked at. -/
theorem inspectable_of_copied {old : List (String × Node)} {m : Machine}
    (holds : m.files = holding worktree files (keptEntries (.dir old) ++ copies))
    (there : (files.get? worktree).isSome = true) (filled : worktree ≠ [])
    (copied : EntriesCopyTo files source worktree linkLimit [] folder copies)
    (fits : ∀ e ∈ folder, e.1 ≠ repositoryName → Fits source worktree [e.1] e.1) :
    Inspectable worktree (keptEntries (.dir old) ++ copies) m := by
  intro e member other
  have listed : (dir copies).child? e.1 ≠ none := by
    rcases List.mem_append.mp member with kept | member
    · exact absurd (by simpa using (List.mem_filter.mp kept).2) other
    · exact fun none => child?_eq_none_iff.mp none (List.mem_map_of_mem member)
  obtain ⟨copy, present⟩ := Option.ne_none_iff_exists'.mp listed
  obtain ⟨short, askable⟩ : Fits source worktree [e.1] e.1 := by
    have named : (dir folder).child? e.1 ≠ none := fun none => listed (copied.missing (Or.inl none))
    obtain ⟨node, found⟩ := Option.ne_none_iff_exists'.mp named
    obtain ⟨_, ⟨⟩, member⟩ := exists_of_child? found
    exact fits (e.1, node) member other
  have plain : ∀ target, copy ≠ .link target := by
    rintro target rfl
    have none : Node.linkCount (.link target) ≤ (dir copies).linkCount := linkCount_child?_le present
    rw [linkCount, linkCount, copied.linkless] at none
    cases none
  obtain ⟨above, here⟩ := List.forall_mem_append.mp askable
  obtain ⟨up, named⟩ := here e.1 (List.mem_singleton_self _)
  have content : m.files.get? worktree = some (.dir (keptEntries (.dir old) ++ copies)) := by
    rw [holds, get?_holding_self there]
  have dir : m.files.entryAt ([] ++ worktree) = some .dir := by
    rw [List.nil_append, entryAt, content]
    rfl
  have followed : follow m.files linkLimit [] worktree = .ok worktree := by
    have walks := walks_along dir above []
    rw [List.append_nil] at walks
    exact walks.follow_of_halts (.there worktree) (Nat.zero_le _)
  refine exists_pathIsDir_of_follow ?_
    (follow_snoc followed content (by rw [child?_kept_other other, present]) plain up named)
  rw [Location.text_snoc filled]
  exact (overlong?_eq_none short).2

/-- What has come to the worktree mirrors the folder. -/
theorem mirrors_of_copied {old : List (String × Node)} (there : files.get? worktree = some (.dir old))
    (found : files.get? source = some (.dir folder)) (outside : ¬ worktree <+: source)
    (around : ¬ source <+: worktree)
    (copied : EntriesCopyTo files source worktree linkLimit [] folder copies) :
    Mirrors worktree source files (holding worktree files (keptEntries (.dir old) ++ copies)) := by
  have same : holding worktree files old = files := put_of_get? there
  have bare := copied.missing (Or.inr rfl)
  have copiesTo := copiesTo_dir copied
  have inside : ∀ path, (holding worktree files (keptEntries (.dir old) ++ copies)).get?
      (worktree ++ path) = (dir (keptEntries (.dir old) ++ copies)).get? path := get?_put_append there
  have other : ∀ {name path}, name ≠ repositoryName →
      (dir (keptEntries (.dir old) ++ copies)).entryAt (name :: path) =
        (dir copies).entryAt (name :: path) := by
    intro name path other
    rw [entryAt_cons, child?_kept_other other, entryAt_cons]
  refine ⟨?_, ?_, ?_, ?_, ?_⟩
  · intro path
    rw [inside, get?_append, there, Option.bind_some, get?, get?, child?_kept_repository bare]
  · intro path askable apart
    have shows := copiesTo.shows old (Or.inr ⟨source, follow_nil _ _ _, by rw [same, found]⟩) askable
      apart
    rw [same, List.nil_append] at shows
    rw [← shows, entryAt, inside]
    cases path with
    | nil => rfl
    | cons name path => exact other (Ne.symm (List.ne_and_not_mem_of_not_mem_cons apart).1)
  · intro name path apart member
    rw [entryAt, inside]
    exact (other apart).trans (copiesTo.lacks (List.mem_cons_of_mem _ member))
  · intro l apart
    exact entryAt_alter apart
  · rw [holding, get?_put_of_apart outside around]

end Replacing

/-- If its links lead to something, and neither to the worktree nor around it, the folder is mirrored.
Replacing the content of the worktree again changes nothing, and what was in it but its repository does
not matter. -/
theorem replaceTree_mirrors {worktree source : Location} {m : Machine}
    {old folder : List (String × Node)} (there : m.files.get? worktree = some (.dir old))
    (found : m.files.get? source = some (.dir folder)) (outside : ¬ worktree <+: source)
    (around : ¬ source <+: worktree)
    (copyable : Copyable (holding worktree m.files []) source worktree linkLimit [] (.dir folder))
    (inspectable : Inspectable worktree old m) :
    ∃ after, Mirrors worktree source m.files after ∧
      replaceTree worktree source m = (.ok (), { m with files := after }) ∧
      (replaceTree worktree source { m with files := after }).2 = { m with files := after } ∧
      ∀ others, keptEntries (.dir others) = keptEntries (.dir old) →
        Inspectable worktree others { m with files := holding worktree m.files others } →
        replaceTree worktree source { m with files := holding worktree m.files others } =
          (.ok (), { m with files := after }) := by
  have isSome : (m.files.get? worktree).isSome = true := by rw [there]; rfl
  obtain ⟨copies, copied⟩ := copyable.exists_entriesCopyTo isSome
  have replaced := fun {entries} {n : Machine} (holds : n.files = holding worktree m.files entries) =>
    replaceTree_of_copied holds isSome found outside around copied
  have fits : ∀ e ∈ folder, e.1 ≠ repositoryName → Fits source worktree [e.1] e.1 := by
    cases copyable with
    | dir fits _ => exact fits
  have filled : worktree ≠ [] := by
    rintro rfl
    exact outside List.nil_prefix
  refine ⟨_, mirrors_of_copied there found outside around copied, ?_, ?_, ?_⟩
  · exact replaced (put_of_get? there).symm inspectable
  · rw [replaced rfl (inspectable_of_copied rfl isSome filled copied fits),
      keptEntries_append (copied.missing (Or.inr rfl))]
  · intro others kept inspectable
    rw [replaced rfl inspectable, kept]

/-- A folder with a link to another and a repository, and a worktree with a link to somewhere. -/
def linkedSite (target : String) : Machine where
  files := .dir [
    ("ws", .dir [
      ("site", .dir [("index.html", .file (.text "home")), (".git", .emptyDir),
        ("css", .link "../shared/css")]),
      ("shared", .dir [("css", .dir [("main.css", .file (.text "body"))])])]),
    ("tmp", .dir [("tree", .dir [(".git", .dir [("HEAD", .file (.text "main"))]),
      ("old.html", .file (.text "old")), ("note", .link target)])])]
  cwd := ["ws"]
  temp := ["tmp"]

/-- The link of the folder becomes a directory of the worktree, and what was there is gone. -/
theorem replaceTree_mirrors_linkedSite :
    ∃ after, Mirrors ["tmp", "tree"] ["ws", "site"] (linkedSite "nowhere").files after ∧
      replaceTree ["tmp", "tree"] ["ws", "site"] (linkedSite "nowhere") =
        (.ok (), { linkedSite "nowhere" with files := after }) ∧
      after.entryAt ["tmp", "tree", "css", "main.css"] = some (.file (.text "body")) ∧
      after.entryAt ["tmp", "tree", "note"] = none := by
  have followed : follow (holding ["tmp", "tree"] (linkedSite "nowhere").files []) linkLimit
      ["ws", "site"] ["css"] = .ok ["ws", "shared", "css"] := by decide +kernel
  have fits : ∀ path name, overlong? name (pathText ["ws", "site"] path) (pathText ["tmp", "tree"] path) =
      none ∧ (∀ name ∈ ["tmp", "tree"] ++ path, name ≠ ".." ∧ isTooLong name = false) →
      Fits ["ws", "site"] ["tmp", "tree"] path name := fun _ _ ⟨short, askable⟩ => ⟨short, askable⟩
  have copyable : Copyable (holding ["tmp", "tree"] (linkedSite "nowhere").files []) ["ws", "site"]
      ["tmp", "tree"] linkLimit [] (.dir [("index.html", .file (.text "home")), (".git", .emptyDir),
        ("css", .link "../shared/css")]) := by
    refine .dir (fun e member apart => ?_) fun e member apart => ?_
    · simp only [List.mem_cons, List.not_mem_nil, or_false] at member
      rcases member with rfl | rfl | rfl
      · exact fits _ _ (by decide +kernel)
      · exact absurd rfl apart
      · exact fits _ _ (by decide +kernel)
    · simp only [List.mem_cons, List.not_mem_nil, or_false] at member
      rcases member with rfl | rfl | rfl
      · exact .file
      · exact absurd rfl apart
      · refine .link followed rfl (by decide) (.dir (fun e member _ => ?_) fun e member _ => ?_)
        · cases List.mem_singleton.mp member
          exact fits _ _ (by decide +kernel)
        · cases List.mem_singleton.mp member
          exact .file
  have inspectable : Inspectable ["tmp", "tree"] [(".git", .dir [("HEAD", .file (.text "main"))]),
      ("old.html", .file (.text "old")), ("note", .link "nowhere")] (linkedSite "nowhere") := by
    intro e member apart
    simp only [List.mem_cons, List.not_mem_nil, or_false] at member
    rcases member with rfl | rfl | rfl
    · exact absurd rfl apart
    · exact ⟨false, eq_ok_of_toOption (by decide +kernel)⟩
    · exact ⟨false, eq_ok_of_toOption (by decide +kernel)⟩
  obtain ⟨after, mirrors, replaced, -⟩ :=
    replaceTree_mirrors rfl rfl (by decide) (by decide) copyable inspectable
  refine ⟨after, mirrors, replaced, ?_, ?_⟩
  · have asked : Askable ["css", "main.css"] := by unfold Askable; decide +kernel
    exact (mirrors.copy _ asked (by decide)).trans (by decide +kernel)
  · have asked : Askable ["note"] := by unfold Askable; decide +kernel
    exact (mirrors.copy _ asked (by decide)).trans (by decide +kernel)

/-- A link in the worktree to a name that is too long keeps the folder from being mirrored. -/
theorem replaceTree_refuses_long_link :
    ∃ f, (replaceTree ["tmp", "tree"] ["ws", "site"]
      (linkedSite (String.ofList (List.replicate 256 'x')))).1 = .error f := by
  have fails : (replaceTree ["tmp", "tree"] ["ws", "site"]
      (linkedSite (String.ofList (List.replicate 256 'x')))).1.toOption.isSome = false := by
    decide +kernel
  cases ended : (replaceTree ["tmp", "tree"] ["ws", "site"]
      (linkedSite (String.ofList (List.replicate 256 'x')))).1 with
  | ok _ => rw [ended] at fails; cases fails
  | error f => exact ⟨f, rfl⟩

end LocalCI.Publisher
