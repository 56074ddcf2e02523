import LocalCI.Proofs.FileTree.Places

/-! Following a path step by step. Every step goes up, down or through a link. How a path goes on depends
on the place it has reached and on the links it may still follow, and a larger tree is followed the same
way where the smaller one is. -/
namespace LocalCI.Node

/-- One step from a place and the parts that are left, with the number of links it follows. -/
inductive Step (root : Node) : Location → List String → Location → List String → Nat → Prop where
  | up {here rest} : root.entryAt here = some .dir → Step root here (".." :: rest) here.dropLast rest 0
  | down {here name rest e} : root.entryAt here = some .dir → name ≠ ".." → isTooLong name = false →
      root.entryAt (here ++ [name]) = some e → (∀ target, e ≠ .link target) →
      Step root here (name :: rest) (here ++ [name]) rest 0
  | link {here name rest target} : root.entryAt here = some .dir → name ≠ ".." →
      isTooLong name = false → root.entryAt (here ++ [name]) = some (.link target) →
      Step root here (name :: rest) (linkStart here (Path.ofString target))
        ((Path.ofString target).parts ++ rest) 1

/-- The steps from a place to another, with what is left of the path there, and over how many links. -/
inductive Walks (root : Node) : Location → List String → Location → List String → Nat → Prop where
  | here (l : Location) (left : List String) : Walks root l left l left 0
  | step {here parts next rest l left u n} : Step root here parts next rest u →
      Walks root next rest l left n → Walks root here parts l left (u + n)

/-- Names that can be asked for. -/
def Askable (path : List String) : Prop := ∀ name ∈ path, name ≠ ".." ∧ isTooLong name = false

/-- Where a path comes to its end or to a name that cannot be asked for, and what it comes to there. -/
inductive Halts (root : Node) : Location → List String → Except Unreachable Location → Prop where
  | there (l : Location) : Halts root l [] (.ok l)
  | long {l name rest} : root.entryAt l = some .dir → name ≠ ".." → isTooLong name = true →
      Halts root l (name :: rest) (.error .tooLong)

variable {root : Node} {here next l : Location} {parts rest left : List String} {name : String}
  {n u budget : Nat} {outcome : Except Unreachable Location}

section Steps

theorem entryAt_eq_dir (dir : root.entryAt here = some .dir) :
    ∃ entries, root.get? here = some (.dir entries) := by
  obtain ⟨node, found, same⟩ := Option.map_eq_some_iff.mp dir
  cases node with
  | dir entries => exact ⟨entries, found⟩
  | _ => cases same

theorem child?_entry {entries : List (String × Node)} (found : root.get? here = some (.dir entries))
    (name : String) : ((dir entries).child? name).map entry = root.entryAt (here ++ [name]) := by
  rw [entryAt, get?_child, found]
  rfl

/-- What following comes to when there are no links left to follow, and when there are. -/
theorem follow_eq (root : Node) (budget : Nat) : follow root budget = descend root (match budget with
    | 0 => fun _ _ => .error .loop
    | fewer + 1 => follow root fewer) := by
  cases budget <;> rfl

theorem follow_nil (root : Node) (budget : Nat) (here : Location) :
    follow root budget here [] = .ok here := by
  rw [follow_eq]
  rfl

theorem Step.follow (step : Step root here parts next rest u) (budget : Nat) :
    follow root (budget + u) here parts = follow root budget next rest := by
  cases step with
  | up dir =>
    obtain ⟨entries, found⟩ := entryAt_eq_dir dir
    rw [Nat.add_zero, follow_eq, descend, found]
    simp [isDir]
  | @down name _ e dir other short there plain =>
    obtain ⟨entries, found⟩ := entryAt_eq_dir dir
    have child := child?_entry found name
    rw [there] at child
    obtain ⟨node, present, rfl⟩ := Option.map_eq_some_iff.mp child
    rw [Nat.add_zero, follow_eq, descend, found]
    cases node with
    | link target => exact absurd rfl (plain target)
    | _ => simp [isDir, other, short, present]
  | @link name _ target dir other short there =>
    obtain ⟨entries, found⟩ := entryAt_eq_dir dir
    have child := child?_entry found name
    rw [there] at child
    obtain ⟨node, present, same⟩ := Option.map_eq_some_iff.mp child
    rw [follow_eq, descend, found]
    cases node with
    | link other' =>
      cases same
      simp [isDir, other, short, present]
    | _ => cases same

/-- A path begins with a step, halts, or leads nowhere. -/
theorem follow_cons (root : Node) (budget : Nat) (here : Location) (name : String) (rest : List String) :
    (∃ next, Step root here (name :: rest) next rest 0 ∧
      follow root budget here (name :: rest) = follow root budget next rest) ∨
    (∃ fewer next left, budget = fewer + 1 ∧ Step root here (name :: rest) next left 1 ∧
      follow root budget here (name :: rest) = follow root fewer next left) ∨
    Halts root here (name :: rest) (follow root budget here (name :: rest)) ∨
    ∃ why, why ≠ .tooLong ∧ follow root budget here (name :: rest) = .error why := by
  rw [follow_eq, descend]
  cases there : root.get? here with
  | none => exact Or.inr (Or.inr (Or.inr ⟨.missing, nofun, rfl⟩))
  | some node =>
    dsimp only
    cases node with
    | dir entries =>
      have dir : root.entryAt here = some .dir := by rw [entryAt, there]; rfl
      have child := child?_entry there name
      rw [if_neg (by simp [isDir])]
      split
      next up =>
        subst up
        exact Or.inl ⟨_, .up dir, rfl⟩
      next other =>
        split
        next long => exact Or.inr (Or.inr (Or.inl (.long dir other long)))
        next short =>
          have short : isTooLong name = false := Bool.eq_false_iff.mpr short
          cases present : (Node.dir entries).child? name with
          | none => exact Or.inr (Or.inr (Or.inr ⟨.missing, nofun, rfl⟩))
          | some node =>
            rw [present] at child
            cases node with
            | link target =>
              cases budget with
              | zero => exact Or.inr (Or.inr (Or.inr ⟨.loop, nofun, rfl⟩))
              | succ fewer =>
                exact Or.inr (Or.inl ⟨fewer, _, _, rfl, .link dir other short child.symm, rfl⟩)
            | file c => exact Or.inl ⟨_, .down dir other short child.symm nofun, rfl⟩
            | dir entries => exact Or.inl ⟨_, .down dir other short child.symm nofun, rfl⟩
    | _ => exact Or.inr (Or.inr (Or.inr ⟨.notDirectory, nofun, rfl⟩))

/-- A name that is no double dot is gone down, or it is a link. -/
theorem Step.down_or_link (step : Step root here parts next left u) (first : parts.head? = some name)
    (other : name ≠ "..") : next = here ++ [name] ∧ (root.entryAt next).isSome = true ∧ u = 0 ∨
      ∃ target, root.entryAt (here ++ [name]) = some (.link target) := by
  cases step with
  | up =>
    cases first
    exact absurd rfl other
  | down _ _ _ there =>
    cases first
    exact Or.inl ⟨rfl, by rw [there]; rfl, rfl⟩
  | link _ _ _ linked =>
    cases first
    exact Or.inr ⟨_, linked⟩

theorem Step.append (step : Step root here parts next rest u) (more : List String) :
    Step root here (parts ++ more) next (rest ++ more) u := by
  cases step with
  | up dir => exact .up dir
  | down dir other short there plain => exact .down dir other short there plain
  | link dir other short there =>
    rw [List.append_assoc]
    exact .link dir other short there

end Steps

/-- What is in the first tree is in the second, at the same place. -/
def Extends (small large : Node) : Prop :=
  ∀ {l e}, small.entryAt l = some e → large.entryAt l = some e

theorem extends_remove (place : Location) (root : Node) : Extends (remove place root) root := by
  intro l e found
  by_cases inside : place <+: l
  · cases place with
    | nil => exact found
    | cons name rest =>
      rw [entryAt_of_absent (get?_remove (List.cons_ne_nil _ _) root) inside] at found
      cases found
  · rwa [remove, entryAt_alter inside] at found

theorem Step.mono {large : Node} (larger : Extends root large)
    (step : Step root here parts next rest u) : Step large here parts next rest u := by
  cases step with
  | up dir => exact .up (larger dir)
  | down dir other short there plain => exact .down (larger dir) other short (larger there) plain
  | link dir other short there => exact .link (larger dir) other short (larger there)

theorem Halts.mono {large : Node} (larger : Extends root large) (halts : Halts root l left outcome) :
    Halts large l left outcome := by
  cases halts with
  | there => exact .there l
  | long dir other long => exact .long (larger dir) other long

theorem Halts.follow (halts : Halts root l left outcome) (budget : Nat) :
    follow root budget l left = outcome := by
  cases halts with
  | there => exact follow_nil root budget l
  | long dir other long =>
    obtain ⟨entries, found⟩ := entryAt_eq_dir dir
    rw [follow_eq, descend, found]
    simp [isDir, other, long]

namespace Walks

theorem mono {large : Node} (larger : Extends root large) (walks : Walks root here parts l left n) :
    Walks large here parts l left n := by
  induction walks with
  | here l left => exact .here l left
  | step step _ ih => exact .step (step.mono larger) ih

/-- The rest of a path is followed from where its first part leads. -/
theorem follow_append (walks : Walks root here parts l left n) (budget : Nat) (more : List String) :
    follow root (budget + n) here (parts ++ more) = follow root budget l (left ++ more) := by
  induction walks with
  | here l left => rfl
  | @step _ _ _ _ _ _ u n step _ ih =>
    rw [Nat.add_comm u n, ← Nat.add_assoc, (step.append more).follow, ih]

theorem follow_of_halts (walks : Walks root here parts l left n) (halts : Halts root l left outcome)
    (enough : n ≤ budget) : follow root budget here parts = outcome := by
  have whole := walks.follow_append (budget - n) []
  rwa [List.append_nil, List.append_nil, Nat.sub_add_cancel enough, halts.follow] at whole

end Walks

theorem exists_walk (ended : follow root budget here parts = outcome) :
    (∃ n l left, n ≤ budget ∧ Walks root here parts l left n ∧ Halts root l left outcome) ∨
      ∃ why, why ≠ .tooLong ∧ outcome = .error why := by
  -- A step goes through a link and leaves fewer links to follow, or it leaves fewer parts.
  induction budget using Nat.strongRecOn generalizing here parts with
  | ind budget ih =>
    induction parts generalizing here with
    | nil =>
      rw [follow_nil] at ended
      subst ended
      exact Or.inl ⟨0, here, [], Nat.zero_le _, .here _ _, .there here⟩
    | cons name rest shorter =>
      rcases follow_cons root budget here name rest with
        ⟨next, step, same⟩ | ⟨fewer, next, left, rfl, step, same⟩ | halts | ⟨why, known, same⟩
      · rcases shorter (same.symm.trans ended) with ⟨n, l, left, enough, walks, halts⟩ | nowhere
        · exact Or.inl ⟨0 + n, l, left, by omega, .step step walks, halts⟩
        · exact Or.inr nowhere
      · rcases ih fewer (Nat.lt_succ_self _) (same.symm.trans ended) with
          ⟨n, l, left, enough, walks, halts⟩ | nowhere
        · exact Or.inl ⟨1 + n, l, left, by omega, .step step walks, halts⟩
        · exact Or.inr nowhere
      · rw [ended] at halts
        exact Or.inl ⟨0, here, _, Nat.zero_le _, .here _ _, halts⟩
      · exact Or.inr ⟨why, known, ended.symm.trans same⟩

theorem walks_of_follow (found : follow root budget here parts = .ok l) :
    ∃ n, n ≤ budget ∧ Walks root here parts l [] n := by
  rcases exists_walk found with ⟨n, _, _, enough, walks, ⟨⟩⟩ | ⟨_, _, ⟨⟩⟩
  exact ⟨n, enough, walks⟩

/-- A larger tree is followed the same way, up to a name that cannot be asked for. -/
theorem follow_mono {large : Node} (larger : Extends root large)
    (ended : follow root budget here parts = outcome) (known : ∀ why, outcome = .error why → why = .tooLong) :
    follow large budget here parts = outcome := by
  rcases exists_walk ended with ⟨n, l, left, enough, walks, halts⟩ | ⟨why, other, rfl⟩
  · exact (walks.mono larger).follow_of_halts (halts.mono larger) enough
  · exact absurd (known why rfl) other

/-- A path that is followed goes on from where it leads. -/
theorem exists_follow_append (found : follow root budget here parts = .ok l) :
    ∃ left, ∀ more, follow root budget here (parts ++ more) = follow root left l more := by
  obtain ⟨n, enough, walks⟩ := walks_of_follow found
  refine ⟨budget - n, fun more => ?_⟩
  have onward := walks.follow_append (budget - n) more
  rwa [Nat.sub_add_cancel enough, List.nil_append] at onward

/-- Only names that can be asked for are gone down. -/
theorem Walks.askable (walks : Walks root here parts l left n) (start : Askable here) : Askable l := by
  induction walks with
  | here => exact start
  | step step _ ih =>
    refine ih ?_
    cases step with
    | up => exact fun name member => start name (List.dropLast_subset _ member)
    | down _ other short =>
      intro name member
      rcases List.mem_append.mp member with member | member
      · exact start name member
      · rw [List.mem_singleton.mp member]
        exact ⟨other, short⟩
    | link =>
      unfold linkStart
      split
      · exact fun _ member => absurd member List.not_mem_nil
      · exact start

/-- What leads to a directory is a directory. -/
theorem entryAt_of_append {more : Location} (there : root.entryAt (here ++ more) = some .dir) :
    root.entryAt here = some .dir := by
  rw [entryAt, get?_append] at there
  rw [entryAt]
  cases found : root.get? here with
  | none => simp [found] at there
  | some node =>
    rw [found, Option.bind_some] at there
    cases node with
    | dir entries => rfl
    | _ =>
      cases more with
      | nil => exact there
      | cons name more => cases there

/-- A directory that is there without links is walked to. -/
theorem walks_along (there : root.entryAt (here ++ parts) = some .dir) (askable : Askable parts)
    (left : List String) : Walks root here (parts ++ left) (here ++ parts) left 0 := by
  induction parts generalizing here with
  | nil =>
    rw [List.append_nil]
    exact .here here left
  | cons name parts ih =>
    obtain ⟨⟨other, short⟩, askable⟩ := List.forall_mem_cons.mp askable
    rw [List.append_cons] at there ⊢
    have next : root.entryAt (here ++ [name]) = some .dir := entryAt_of_append there
    exact .step (.down (entryAt_of_append next) other short next nofun) (ih there askable)

/-- What is followed to its end can be looked at, unless its path is too long. -/
theorem exists_pathIsDir_of_follow {cwd : Location}
    (short : (Location.text parts).utf8ByteSize ≤ pathLimit)
    (followed : follow root linkLimit [] parts = .ok l) :
    ∃ answer, root.pathIsDir cwd (Path.ofLocation parts) = .ok answer := by
  have found : lookup root cwd (Path.ofLocation parts) = .ok l := by
    unfold lookup
    exact (if_neg (Nat.not_lt.mpr short)).trans followed
  unfold pathIsDir find
  split
  · exact ⟨_, rfl⟩
  · rw [found]
    exact ⟨_, rfl⟩

/-- What can be looked at in a tree can be looked at in a smaller one. -/
theorem exists_pathIsDir_of_extends {small large : Node} (larger : Extends small large) {cwd : Location}
    {p : Path} {answer : Bool} (looked : large.pathIsDir cwd p = .ok answer) :
    ∃ answer, small.pathIsDir cwd p = .ok answer := by
  unfold pathIsDir find lookup at looked ⊢
  split
  next => exact ⟨_, rfl⟩
  next clean =>
    rw [if_neg clean] at looked
    by_cases long : pathLimit < p.text.utf8ByteSize
    · rw [if_pos long] at looked
      cases looked
    · rw [if_neg long] at looked ⊢
      cases ended : follow small linkLimit (linkStart cwd p) p.parts with
      | ok l => exact ⟨_, rfl⟩
      | error why =>
        cases why with
        | tooLong =>
          rw [follow_mono larger ended (by rintro _ ⟨⟩; rfl)] at looked
          cases looked
        | _ => exact ⟨_, rfl⟩

/-- An entry that is no link is reached from its directory. -/
theorem follow_snoc {entries : List (String × Node)} {child : Node}
    (found : follow root budget here parts = .ok l) (there : root.get? l = some (.dir entries))
    (present : (dir entries).child? name = some child) (plain : ∀ target, child ≠ .link target)
    (other : name ≠ "..") (short : isTooLong name = false) :
    follow root budget here (parts ++ [name]) = .ok (l ++ [name]) := by
  obtain ⟨left, onward⟩ := exists_follow_append found
  have dir : root.entryAt l = some .dir := by rw [entryAt, there]; rfl
  have entry := child?_entry there name
  rw [present] at entry
  have step : Step root l [name] (l ++ [name]) [] 0 := by
    refine .down dir other short entry.symm fun target same => ?_
    cases child with
    | link other => exact plain other rfl
    | _ => cases same
  rw [onward, ← Nat.add_zero left, step.follow, follow_nil]

section Entering

variable {found : Location}

theorem isDir_iff_entryAt (root : Node) (l : Location) :
    ((root.get? l).map isDir).getD false = true ↔ root.entryAt l = some .dir := by
  rw [entryAt]
  cases root.get? l with
  | none => simp
  | some node => cases node <;> simp [isDir, entry]

/-- A directory that is there is entered as it is, and otherwise the links to it are followed. -/
theorem enter_eq_ok : root.enter l = .ok found ↔ root.entryAt l = some .dir ∧ l = found ∨
    root.entryAt l ≠ some .dir ∧ lookup root [] (Path.ofLocation l) = .ok found ∧
      root.entryAt found = some .dir := by
  rw [enter]
  by_cases there : root.entryAt l = some .dir
  · rw [if_pos ((isDir_iff_entryAt root l).mpr there)]
    simp [there]
  · rw [if_neg (mt (isDir_iff_entryAt root l).mp there)]
    cases lookup root [] (Path.ofLocation l) with
    | error why => simp [there]
    | ok reached =>
      dsimp only
      by_cases dir : root.entryAt reached = some .dir
      · rw [if_pos ((isDir_iff_entryAt root reached).mpr dir)]
        simp only [there, Except.ok.injEq, false_and, ne_eq, not_false_eq_true, true_and, false_or]
        exact ⟨fun same => ⟨same, same ▸ dir⟩, And.left⟩
      · rw [if_neg (mt (isDir_iff_entryAt root reached).mp dir)]
        simp only [there, Except.ok.injEq, reduceCtorEq, false_and, ne_eq, not_false_eq_true, true_and,
          false_or, false_iff, not_and]
        rintro rfl
        exact dir

theorem enter_of_get? {entries : List (String × Node)} (there : root.get? l = some (.dir entries)) :
    root.enter l = .ok l := by
  refine enter_eq_ok.mpr (Or.inl ⟨?_, rfl⟩)
  rw [entryAt, there]
  rfl

theorem entryAt_of_enter (entered : root.enter l = .ok found) : root.entryAt found = some .dir := by
  rcases enter_eq_ok.mp entered with ⟨there, rfl⟩ | ⟨-, -, dir⟩
  · exact there
  · exact dir

theorem follow_of_lookup (looked : lookup root [] (Path.ofLocation l) = .ok found) :
    follow root linkLimit [] l = .ok found := by
  unfold lookup at looked
  split at looked
  · cases looked
  · exact looked

/-- In a larger tree that is the same at a place, the place is entered the same way. -/
theorem enter_mono {large : Node} (larger : Extends root large)
    (same : large.entryAt l = root.entryAt l) (entered : root.enter l = .ok found) :
    large.enter l = .ok found := by
  rcases enter_eq_ok.mp entered with ⟨there, rfl⟩ | ⟨other, looked, dir⟩
  · exact enter_eq_ok.mpr (Or.inl ⟨same.trans there, rfl⟩)
  · refine enter_eq_ok.mpr (Or.inr ⟨same ▸ other, ?_, larger dir⟩)
    unfold lookup at looked ⊢
    split at looked
    · cases looked
    next short =>
      rw [if_neg short]
      exact follow_mono larger looked nofun

/-- What a directory lacks is not on the way to it. -/
theorem not_prefix_of_enter (entered : root.enter l = .ok found) (other : name ≠ "..")
    (absent : root.entryAt (found ++ [name]) = none) : ¬ found ++ [name] <+: l := by
  rintro ⟨more, rfl⟩
  rcases enter_eq_ok.mp entered with ⟨-, same⟩ | ⟨-, looked, dir⟩
  · have longer := congrArg List.length same
    simp at longer
  · have followed := follow_of_lookup looked
    obtain ⟨n, -, walks⟩ := walks_of_follow followed
    have askable := walks.askable fun _ member => absurd member List.not_mem_nil
    have walk : Walks root [] (found ++ name :: more) found (name :: more) 0 :=
      walks_along dir askable _
    have onward := walk.follow_append linkLimit []
    rw [List.append_nil, List.append_nil, Nat.add_zero, ← List.singleton_append,
      ← List.append_assoc, followed, List.singleton_append] at onward
    have stuck : ∀ {next left u}, ¬ Step root found (name :: more) next left u := by
      intro next left u step
      rcases step.down_or_link rfl other with ⟨rfl, there, -⟩ | ⟨target, linked⟩
      · simp [absent] at there
      · simp [absent] at linked
    rcases follow_cons root linkLimit found name more with
      ⟨next, step, -⟩ | ⟨fewer, next, left, -, step, -⟩ | halts | ⟨why, -, nowhere⟩
    · exact stuck step
    · exact stuck step
    · rw [← onward] at halts
      cases halts
    · cases onward.trans nowhere

/-- A directory inside of an entered one is what a path to it leads to. -/
theorem enter_snoc {inside : Location} (entered : root.enter l = .ok found) (other : name ≠ "..")
    (there : root.entryAt (found ++ [name]) = some .dir)
    (below : root.enter (l ++ [name]) = .ok inside) : inside = found ++ [name] := by
  rcases enter_eq_ok.mp below with ⟨whole, rfl⟩ | ⟨indirect, looked, -⟩
  · have direct := enter_eq_ok.mpr (Or.inl ⟨entryAt_of_append whole, rfl⟩)
    rw [Except.ok.inj (direct.symm.trans entered)]
  · rcases enter_eq_ok.mp entered with ⟨-, rfl⟩ | ⟨-, led, -⟩
    · exact absurd there indirect
    · obtain ⟨left, onward⟩ := exists_follow_append (follow_of_lookup led)
      have followed := (onward [name]).symm.trans (follow_of_lookup looked)
      rcases follow_cons root left found name [] with
        ⟨next, step, same⟩ | ⟨fewer, next, rest, -, step, -⟩ | halts | ⟨why, -, nowhere⟩
      · rcases step.down_or_link rfl other with ⟨rfl, -, -⟩ | ⟨target, linked⟩
        · rw [same, follow_nil] at followed
          exact (Except.ok.inj followed).symm
        · rw [there] at linked
          cases linked
      · rcases step.down_or_link rfl other with ⟨-, -, ⟨⟩⟩ | ⟨target, linked⟩
        rw [there] at linked
        cases linked
      · rw [followed] at halts
        cases halts
      · cases nowhere.symm.trans followed

end Entering

section Shown

/-- What a path shows from a place, if so many links may be followed. -/
def shownWithin (root : Node) (budget : Nat) (place : Location) (path : List String) : Option Entry :=
  match follow root budget place path with
  | .ok l => root.entryAt l
  | .error _ => none

/-- What a path shows from a place. -/
def shown (root : Node) (place : Location) (path : List String) : Option Entry :=
  shownWithin root linkLimit place path

theorem shownWithin_nil (root : Node) (budget : Nat) (place : Location) :
    shownWithin root budget place [] = root.entryAt place := by
  rw [shownWithin, follow_nil]

theorem exists_shown_append {place : Location} (found : follow root linkLimit place parts = .ok l) :
    ∃ left, ∀ more, shown root place (parts ++ more) = shownWithin root left l more := by
  obtain ⟨left, onward⟩ := exists_follow_append found
  refine ⟨left, fun more => ?_⟩
  rw [shown, shownWithin, onward, shownWithin]

/-- A name that is not there shows nothing. -/
theorem shownWithin_of_missing {entries : List (String × Node)}
    (found : root.get? here = some (.dir entries)) (missing : (dir entries).child? name = none)
    (other : name ≠ "..") (budget : Nat) (path : List String) :
    shownWithin root budget here (name :: path) = none := by
  rw [shownWithin, follow_eq, descend, found]
  cases isTooLong name <;> simp [isDir, other, missing]

/-- There is nothing below a file. -/
theorem shownWithin_of_leaf {leaf : Node} (found : root.get? here = some leaf)
    (isLeaf : leaf.isDir = false) (budget : Nat) (path : List String) :
    shownWithin root budget here (name :: path) = none := by
  rw [shownWithin, follow_eq, descend, found]
  simp [isLeaf]

end Shown
end LocalCI.Node
