import LocalCI.Proofs.FileTree.Resolution
import LocalCI.Proofs.Publish.Copying
import LocalCI.Proofs.Publish.Secrecy

/-! How a publish ends otherwise than with a result or with an error of its own. Every launch of git but
one turns a git that is not there into such an error; the launch that asks for the commit that was built
does not. The other causes are listed too, so that there is no further one. -/
namespace LocalCI

open Attempt

/-- What is there can be resolved. -/
theorem Machine.resolve_of_pathExists {m : Machine} {p : Path} (there : m.pathExists p = .ok true) :
    ∃ l, m.resolve p = .ok l := by
  unfold pathExists Node.pathExists Node.find at there
  split at there
  next => cases there
  next clean =>
    split at there
    next l found => exact ⟨l, Node.resolve_of_lookup (Bool.eq_false_iff.mpr clean) found⟩
    next => cases there
    next => cases there

namespace Publisher

/-- The remote is given by its address. -/
def isAddress (p : Publisher) : Bool :=
  Text.contains p.remote "://" || Text.startsWith p.remote "git@"

/-- The path that the remote may be. -/
def remotePath (p : Publisher) : Path := (Path.ofLocation p.repository).child p.remote

/-- Why there is no address for the remote, and no error of the publish either. -/
inductive Unaddressed (p : Publisher) (m : Machine) : Fault → Prop where
  /-- The system cannot be asked whether the remote is a path. -/
  | path {f} : p.isAddress = false → m.pathExists p.remotePath = .error f → Unaddressed p m f
  /-- Git is there but is not started. -/
  | lookup {f} : p.isAddress = false → m.pathExists p.remotePath = .ok false →
      (Git.run ["remote", "get-url", p.remote] (some (Location.text p.repository)) none m).1 =
        .error f →
      f.isMissing = false → Unaddressed p m f

/-- What a publish makes of git's answer to the question what the remote is. -/
def addressOf (p : Publisher) (d : Deploy) : Except Fault Finished → Except Fault String
  | .ok done => if done.code = 0 then .ok (Text.strip done.out) else
      .error (.publish ⟨d.folder, d.branch, s!"unknown remote '{p.remote}': {errorLine done.err}"⟩)
  | .error f => if f.isMissing then .error (.publish ⟨d.folder, d.branch, "git command not found"⟩)
      else .error f

variable {p : Publisher} {d : Deploy} {m : Machine} {f : Fault}

theorem remoteAddress_fst :
    (p.remoteAddress d m).1 = if p.isAddress then .ok p.remote else
      match m.pathExists p.remotePath with
      | .error f => .error f
      | .ok true => (m.resolve p.remotePath).map Location.text
      | .ok false => p.addressOf d (Git.run ["remote", "get-url", p.remote]
          (some (Location.text p.repository)) none m).1 := by
  unfold remoteAddress isAddress remotePath
  split
  next => rfl
  next =>
    rw [bind_apply, Act.pathExists_apply]
    cases m.pathExists ((Path.ofLocation p.repository).child p.remote) with
    | error g => rfl
    | ok there =>
      cases there with
      | true =>
        dsimp only
        rw [if_pos rfl, bind_apply, Act.resolve_apply]
        cases m.resolve ((Path.ofLocation p.repository).child p.remote) <;> rfl
      | false =>
        dsimp only
        rw [if_neg (by simp), tryCatch_apply, Git.remoteUrl, Git.ask, bind_apply]
        cases ran : Git.run ["remote", "get-url", p.remote] (some (Location.text p.repository)) none
          m with
        | mk outcome n =>
          cases outcome with
          | ok done =>
            dsimp only [addressOf]
            by_cases zero : done.code = 0
            · rw [if_pos zero, if_pos zero]
              rfl
            · rw [if_neg zero, if_neg zero]
              rfl
          | error g =>
            dsimp only [addressOf]
            split
            next => exact absurd rfl ((Act.launch_fault ran).2 _ _ _)
            next => split <;> rfl

theorem addressOf_fails_iff {answer : Except Fault Finished} (honest : ∀ e, answer ≠ .error (.publish e)) :
    (p.addressOf d answer = .error f ∧ ∀ e, f ≠ .publish e) ↔
      answer = .error f ∧ f.isMissing = false := by
  cases answer with
  | ok done =>
    dsimp only [addressOf]
    split
    next => simp
    next =>
      refine iff_of_false ?_ nofun
      rintro ⟨⟨⟩, other⟩
      exact other _ rfl
  | error g =>
    dsimp only [addressOf]
    split
    next missing =>
      refine iff_of_false ?_ ?_
      · rintro ⟨⟨⟩, other⟩
        exact other _ rfl
      · rintro ⟨⟨⟩, present⟩
        simp [missing] at present
    next present =>
      constructor
      · rintro ⟨⟨⟩, _⟩
        exact ⟨rfl, Bool.eq_false_iff.mpr present⟩
      · rintro ⟨⟨⟩, _⟩
        exact ⟨rfl, fun e same => honest e (congrArg _ same)⟩

/-- Finding the address fails otherwise than with an error of the publish for one of two reasons: a
remote that is there is resolved. -/
theorem remoteUrl_fails_iff :
    ((p.remoteUrl d m).1 = .error f ∧ ∀ e, f ≠ .publish e) ↔ Unaddressed p m f := by
  have same : (p.remoteUrl d m).1 = (p.remoteAddress d m).1.map p.withToken := by
    rw [remoteUrl, bind_apply]
    cases p.remoteAddress d m with
    | mk outcome n => cases outcome <;> rfl
  have failed_iff : (p.remoteUrl d m).1 = .error f ↔ (p.remoteAddress d m).1 = .error f := by
    rw [same]
    cases (p.remoteAddress d m).1 <;> simp [Except.map]
  have honest : ∀ e, (Git.run ["remote", "get-url", p.remote] (some (Location.text p.repository))
      none m).1 ≠ .error (.publish e) := fun e told =>
    (Act.launch_otherFaults _ _ _).refuses m _ told e rfl
  rw [failed_iff, remoteAddress_fst]
  constructor
  · rintro ⟨failed, other⟩
    split at failed
    next => cases failed
    next notAddress =>
      have notAddress := Bool.eq_false_iff.mpr notAddress
      split at failed
      next g asked =>
        cases failed
        exact .path notAddress asked
      next there =>
        obtain ⟨l, resolved⟩ := Machine.resolve_of_pathExists there
        rw [resolved] at failed
        cases failed
      next absent =>
        obtain ⟨refused, present⟩ := (addressOf_fails_iff honest).mp ⟨failed, other⟩
        exact .lookup notAddress absent refused present
  · intro cause
    cases cause with
    | path notAddress asked =>
      rw [if_neg (by simp [notAddress]), asked]
      exact ⟨rfl, m.files.find_ne_publish m.cwd p.remotePath _ _ asked⟩
    | lookup notAddress absent ran present =>
      rw [if_neg (by simp [notAddress]), absent]
      exact (addressOf_fails_iff honest).mpr ⟨ran, present⟩

/-- Why no worktree is made. -/
inductive Unmade (m : Machine) : Fault → Prop where
  /-- The temporary directory cannot be entered. -/
  | unentered {why} : m.files.enter m.temp = .error why →
      Unmade m (.refused why.refusal (Location.text (m.temp ++ [worktreeName (m.temps + 1)])))
  /-- The path of the worktree is too long. -/
  | long {holder path} : m.files.enter m.temp = .ok holder →
      path = m.temp ++ [worktreeName (freeNumber ((m.files.entriesAt holder).map Prod.fst) (m.temps + 1))] →
      Node.pathLimit < (Location.text path).utf8ByteSize →
      Unmade m (.refused .nameTooLong (Location.text path))
  /-- The system refuses to make a directory there. -/
  | refused {holder path how} : m.files.enter m.temp = .ok holder →
      path = m.temp ++ [worktreeName (freeNumber ((m.files.entriesAt holder).map Prod.fst) (m.temps + 1))] →
      (Location.text path).utf8ByteSize ≤ Node.pathLimit → m.tempRefusal = some how →
      Unmade m (.refused how (Location.text path))

theorem makeWorktree_fails_iff : (makeWorktree m).1 = .error f ↔ Unmade m f := by
  unfold makeWorktree
  rw [bind_of_ok (get_apply m)]
  constructor
  · cases entered : m.files.enter m.temp with
    | error why =>
      rintro ⟨⟩
      exact .unentered entered
    | ok holder =>
      dsimp only
      split
      next long =>
        rintro ⟨⟩
        exact .long entered rfl long
      next short =>
        cases refused : m.tempRefusal with
        | some how =>
          rintro ⟨⟩
          exact .refused entered rfl (Nat.not_lt.mp short) refused
        | none => nofun
  · intro cause
    cases cause with
    | unentered unentered => rw [unentered]; rfl
    | long entered same long =>
      subst same
      rw [entered]
      dsimp only
      rw [if_pos long]
      rfl
    | refused entered same short refused =>
      subst same
      rw [entered]
      dsimp only
      rw [if_neg (Nat.not_lt.mpr short), refused]
      rfl

end Publisher

namespace Publication

namespace Phase

/-- What is left of bringing the worktree to the branch, if it is not there yet. -/
def checkOut? (x : Publication) : Phase → Option (Act Bool)
  | .listing => some (x.publisher.checkOut x.deploy x.worktree x.url)
  | .initialising => some do
    let _ ← x.ask .init
    let _ ← x.ask .symbolicRef
    return true
  | .naming => some do
    let _ ← x.ask .symbolicRef
    return true
  | .cloning => some do
    let _ ← x.ask .clone
    return false
  | .adding isNew => some (return isNew)
  | _ => none

theorem checkOut_eq_ask (x : Publication) :
    x.publisher.checkOut x.deploy x.worktree x.url = do
      let heads ← x.ask .lsRemote
      if Text.isBlankText heads.out then
        let _ ← x.ask .init
        let _ ← x.ask .symbolicRef
        return true
      else
        let _ ← x.ask .clone
        return false := by
  have listing := git_eq_ask (x := x) (c := .lsRemote) nofun
  have initialising := git_eq_ask (x := x) (c := .init) nofun
  have naming := git_eq_ask (x := x) (c := .symbolicRef) nofun
  have cloning := git_eq_ask (x := x) (c := .clone) nofun
  simp only [Command.args] at listing initialising naming cloning
  unfold Publisher.checkOut
  rw [listing, initialising, naming, cloning]

theorem checkOut?_next {x : Publication} {phase later : Phase} {done : Finished} {m k n : Machine}
    {rest : Act Bool} (prepared : phase.prepare x m = (.ok (), k))
    (asked : x.ask phase.command k = (.ok done, n))
    (leads : phase.next x done = .inl later) (left : later.checkOut? x = some rest) :
    ∃ act, phase.checkOut? x = some act ∧ act m = rest n := by
  cases phase with
  | listing =>
    obtain rfl : m = k := (Prod.mk.inj prepared).2
    refine ⟨_, rfl, ?_⟩
    rw [checkOut_eq_ask, bind_of_ok (show x.ask .lsRemote m = _ from asked)]
    simp only [next, Sum.inl.injEq] at leads
    subst leads
    split at left
    next blank =>
      rw [if_pos blank]
      exact congrFun (Option.some.inj left) n
    next filled =>
      rw [if_neg filled]
      exact congrFun (Option.some.inj left) n
  | initialising | naming | cloning =>
    cases leads
    obtain rfl : m = k := (Prod.mk.inj prepared).2
    obtain rfl := Option.some.inj left
    exact ⟨_, rfl, bind_of_ok asked⟩
  | comparing =>
    simp only [next, Sum.inl.injEq] at leads
    subst leads
    split at left <;> cases left
  | reading => cases leads
  | _ =>
    cases leads
    cases left

end Phase

theorem Launch.Starts.asked {x : Publication} {l : Launch} {m n : Machine} {done : Finished}
    (starts : l.Starts x m n) (passed : l.passes = true) (ended : l.outcome = .ok done) :
    x.ask l.command m = (.ok done, n) := by
  rw [Launch.passes, ended] at passed
  rw [ask, starts.outcome, ended]
  exact if_pos passed

/-- A course whose launches all pass ends well, or with the copying of the folder. -/
theorem Course.uncopied {x : Publication} {phase : Phase} {m e : Machine} {trace : List Launch}
    {f : Fault} (course : Course x phase m trace (.error f) e) (passed : ∀ l ∈ trace, l.passes = true) :
    ∃ act isNew k, phase.checkOut? x = some act ∧ act m = (.ok isNew, k) ∧
      Publisher.replaceTree x.worktree x.source k = (.error f, e) := by
  generalize ended : Except.error f = outcome at course
  induction course with
  | unprepared failed =>
    obtain ⟨isNew, rfl⟩ := Phase.eq_adding failed
    cases ended
    exact ⟨_, isNew, _, rfl, rfl, failed⟩
  | stopped _ _ _ failed => simp [failed] at passed
  | finished => cases ended
  | went prepared same starts passes answered leads _ ih =>
    obtain ⟨rest, isNew, k, left, out, copying⟩ :=
      ih (fun l member => passed l (List.mem_cons_of_mem _ member)) ended
    have asked := starts.asked passes answered
    rw [same] at asked
    obtain ⟨act, whole, step⟩ := Phase.checkOut?_next prepared asked leads left
    exact ⟨act, isNew, k, whole, step.trans out, copying⟩

/-- Everything that ends a publish with another fault than its own error. -/
inductive Escapes (p : Publisher) (d : Deploy) (m : Machine) : Fault → Prop where
  /-- The path of the folder cannot be resolved. -/
  | unresolved {f} : m.resolve ((Path.ofLocation p.repository).child d.folder) = .error f →
      Escapes p d m f
  /-- The system cannot be asked whether the folder is there. -/
  | unasked {source f} : m.resolve ((Path.ofLocation p.repository).child d.folder) = .ok source →
      m.pathIsDir (Path.ofLocation source) = .error f → Escapes p d m f
  | unaddressed {source f} : m.resolve ((Path.ofLocation p.repository).child d.folder) = .ok source →
      m.pathIsDir (Path.ofLocation source) = .ok true → p.Unaddressed m f → Escapes p d m f
  /-- No worktree is made to publish from. -/
  | unmade {source url n f} : m.resolve ((Path.ofLocation p.repository).child d.folder) = .ok source →
      m.pathIsDir (Path.ofLocation source) = .ok true → p.remoteUrl d m = (.ok url, n) →
      Publisher.Unmade n f → Escapes p d m f
  /-- The folder cannot be copied into the worktree that was brought to the branch. -/
  | uncopied {x n isNew k f} : Opens p d m x n →
      p.checkOut d x.worktree x.url (opened n) = (.ok isNew, k) →
      Publisher.Uncopied x.worktree x.source k f → Escapes p d m f
  /-- Git is not there when it is asked for the commit that was built. -/
  | unverified {x n trace e l f} : Opens p d m x n →
      Course x .listing (opened n) trace (p.publish d m).1 e → trace.getLast? = some l →
      l.command = .verify → l.outcome = .error f → f.isMissing = true → Escapes p d m f
  /-- Git is there but is not started. -/
  | unstarted {x n trace e l f} : Opens p d m x n →
      Course x .listing (opened n) trace (p.publish d m).1 e → trace.getLast? = some l →
      l.outcome = .error f → f.isMissing = false → Escapes p d m f

/-- A launch ends a publish with another fault than an error of its own if it was not started, and only
for one command that is so if git is not there. -/
theorem Launch.outcome_of_fault {x : Publication} {l : Launch} {f : Fault} (fault : l.fault x = f)
    (other : ∀ e, f ≠ .publish e) :
    l.outcome = .error f ∧ (f.isMissing = true → l.command = .verify) := by
  unfold Launch.fault Command.fault at fault
  split at fault
  next => exact absurd fault.symm (other _)
  next g ended =>
    split at fault
    next => exact absurd fault.symm (other _)
    next kept =>
      subst fault
      refine ⟨ended, fun missing => ?_⟩
      simpa [missing] using kept

variable {p : Publisher} {d : Deploy} {m : Machine} {f : Fault}

/-- A publish that has found its folder and its remote. -/
theorem Opens.escapes {x : Publication} {n : Machine} (opens : Opens p d m x n)
    (failed : (p.publish d m).1 = .error f) (other : ∀ e, f ≠ .publish e) : Escapes p d m f := by
  obtain ⟨trace, e, course, _⟩ := opens.course
  by_cases passed : ∀ l ∈ trace, l.passes = true
  · have copying := course
    rw [failed] at copying
    obtain ⟨act, isNew, k, same, out, copying⟩ := copying.uncopied passed
    obtain rfl := Option.some.inj same
    rw [opens.publisher, opens.deploy] at out
    exact .uncopied opens out (Publisher.replaceTree_fails_iff.mp (congrArg Prod.fst copying))
  · simp only [not_forall, Bool.not_eq_true] at passed
    obtain ⟨l, member, refused⟩ := passed
    obtain ⟨before, after, parts⟩ := List.append_of_mem member
    obtain ⟨rfl, told⟩ := course.stops parts refused
    have last : trace.getLast? = some l := by simp [parts]
    have fault : l.fault x = f := Except.error.inj (told.symm.trans failed)
    obtain ⟨ended, unconverted⟩ := Launch.outcome_of_fault fault other
    cases missing : f.isMissing with
    | true => exact .unverified opens course last (unconverted missing) ended missing
    | false => exact .unstarted opens course last ended missing

section Beginning

variable {source : Location}

theorem publish_unresolved
    (resolved : m.resolve ((Path.ofLocation p.repository).child d.folder) = .error f) :
    (p.publish d m).1 = .error f := by
  unfold Publisher.publish
  rw [bind_apply, Act.resolve_apply, resolved]

variable (resolved : m.resolve ((Path.ofLocation p.repository).child d.folder) = .ok source)

include resolved

theorem publish_unasked (asked : m.pathIsDir (Path.ofLocation source) = .error f) :
    (p.publish d m).1 = .error f := by
  unfold Publisher.publish
  rw [bind_apply, Act.resolve_apply, resolved]
  dsimp only
  rw [bind_apply, Act.pathIsDir_apply, asked]

theorem publish_absent (absent : m.pathIsDir (Path.ofLocation source) = .ok false) :
    (p.publish d m).1 = .error (.publish ⟨d.folder, d.branch,
      s!"source folder not found: {Location.text source}"⟩) := by
  unfold Publisher.publish
  rw [bind_apply, Act.resolve_apply, resolved]
  dsimp only
  rw [bind_apply, Act.pathIsDir_apply, absent]
  rfl

theorem publish_unaddressed (there : m.pathIsDir (Path.ofLocation source) = .ok true)
    (unaddressed : (p.remoteUrl d m).1 = .error f) : (p.publish d m).1 = .error f := by
  unfold Publisher.publish
  rw [bind_apply, Act.resolve_apply, resolved]
  dsimp only
  rw [bind_apply, Act.pathIsDir_apply, there]
  dsimp only
  rw [if_neg (by simp), bind_apply]
  cases address : p.remoteUrl d m with
  | mk outcome n =>
    rw [address] at unaddressed
    cases unaddressed
    rfl

theorem publish_unmade {url : String} {n : Machine} (there : m.pathIsDir (Path.ofLocation source) = .ok true)
    (address : p.remoteUrl d m = (.ok url, n)) (unmade : (Publisher.makeWorktree n).1 = .error f) :
    (p.publish d m).1 = .error f := by
  unfold Publisher.publish
  rw [bind_apply, Act.resolve_apply, resolved]
  dsimp only
  rw [bind_apply, Act.pathIsDir_apply, there]
  dsimp only
  rw [if_neg (by simp), bind_of_ok address,
    bind_of_error (show Publisher.makeWorktree n = (.error f, _) from Prod.ext unmade rfl)]

end Beginning

theorem escapes_of_publish (failed : (p.publish d m).1 = .error f) (other : ∀ e, f ≠ .publish e) :
    Escapes p d m f := by
  cases resolved : m.resolve ((Path.ofLocation p.repository).child d.folder) with
  | error g =>
    cases (publish_unresolved resolved).symm.trans failed
    exact .unresolved resolved
  | ok source =>
    cases asked : m.pathIsDir (Path.ofLocation source) with
    | error g =>
      cases (publish_unasked resolved asked).symm.trans failed
      exact .unasked resolved asked
    | ok there =>
      cases there with
      | false =>
        cases (publish_absent resolved asked).symm.trans failed
        exact absurd rfl (other _)
      | true =>
        cases address : p.remoteUrl d m with
        | mk outcome n =>
          cases outcome with
          | error g =>
            have unaddressed := congrArg Prod.fst address
            cases (publish_unaddressed resolved asked unaddressed).symm.trans failed
            exact .unaddressed resolved asked
              (Publisher.remoteUrl_fails_iff.mp ⟨unaddressed, other⟩)
          | ok url =>
            cases made : (Publisher.makeWorktree n).1 with
            | error g =>
              cases (publish_unmade resolved asked address made).symm.trans failed
              exact .unmade resolved asked address (Publisher.makeWorktree_fails_iff.mp made)
            | ok worktree =>
              have opens : Opens p d m ⟨p, d, source, worktree, url⟩ n :=
                ⟨rfl, rfl, resolved, asked, address, made⟩
              exact opens.escapes failed other

theorem Opens.publish_uncopied {x : Publication} {n k : Machine} {isNew : Bool}
    (opens : Opens p d m x n) (out : p.checkOut d x.worktree x.url (opened n) = (.ok isNew, k))
    (failed : (Publisher.replaceTree x.worktree x.source k).1 = .error f) :
    (p.publish d m).1 = .error f := by
  rw [opens.publish_eq, ensuring_apply]
  unfold Publisher.publishIn
  rw [bind_of_ok out, bind_apply]
  cases copied : Publisher.replaceTree x.worktree x.source k with
  | mk outcome e =>
    rw [copied] at failed
    cases failed
    rfl

/-- A fault that is not converted is what the publish ends with. -/
theorem Course.unconverted {x : Publication} {phase : Phase} {trace : List Launch}
    {outcome : Except Fault Published} {e : Machine} {l : Launch}
    (course : Course x phase m trace outcome e) (last : trace.getLast? = some l)
    (ended : l.outcome = .error f) (kept : l.command = .verify ∨ f.isMissing = false) :
    outcome = .error f ∧ ∀ e, f ≠ .publish e := by
  have fault : l.fault x = f := by
    rw [Launch.fault, ended]
    exact if_neg (by rcases kept with verifies | present <;> simp [*])
  have refused : l.passes = false := by rw [Launch.passes, ended]; rfl
  obtain ⟨before, parts⟩ := List.getLast?_eq_some_iff.mp last
  obtain ⟨_, _, starts⟩ := course.starts (List.mem_of_getLast? last)
  have started := starts.outcome
  rw [ended] at started
  exact ⟨fault ▸ (course.stops parts refused).2, (Act.launch_otherFaults _ _ _).kind started⟩

theorem Escapes.publish (cause : Escapes p d m f) :
    (p.publish d m).1 = .error f ∧ ∀ e, f ≠ .publish e := by
  cases cause with
  | unresolved resolved =>
    exact ⟨publish_unresolved resolved, m.resolve_ne_publish _ _ resolved⟩
  | unasked resolved asked =>
    exact ⟨publish_unasked resolved asked, m.files.find_ne_publish _ _ _ _ asked⟩
  | unaddressed resolved there cause =>
    obtain ⟨failed, other⟩ := Publisher.remoteUrl_fails_iff.mpr cause
    exact ⟨publish_unaddressed resolved there failed, other⟩
  | unmade resolved there address cause =>
    have failed := Publisher.makeWorktree_fails_iff.mpr cause
    exact ⟨publish_unmade resolved there address failed,
      Publisher.makeWorktree_otherFaults.refuses _ _ failed⟩
  | uncopied opens out cause =>
    have failed := Publisher.replaceTree_fails_iff.mpr cause
    exact ⟨opens.publish_uncopied out failed,
      (Publisher.replaceTree_otherFaults _ _).refuses _ _ failed⟩
  | unverified opens course last verifies ended missing =>
    exact course.unconverted last ended (Or.inl verifies)
  | unstarted opens course last ended present =>
    exact course.unconverted last ended (Or.inr present)

/-- How the system refused something, if that is how it ended. -/
def refusal? (outcome : Except Fault Published) : Option (Refusal × String) :=
  match outcome with
  | .error (.refused how path) => some (how, path)
  | _ => none

theorem eq_of_refusal? {outcome : Except Fault Published} {how : Refusal} {path : String}
    (refused : refusal? outcome = some (how, path)) : outcome = .error (.refused how path) := by
  unfold refusal? at refused
  split at refused
  next => cases refused; rfl
  next => cases refused

/-- Git answers four times and is not there the fifth time. -/
def vanishingGit : Machine :=
  { siteMachine with answers := [{}, {}, {}, {}, { failure := some (.refused .missing) }] }

end Publication
end LocalCI
