import LocalCI.Proofs.Publish.Course

/-! The protocol a publish keeps with git. The commands come in one fixed order that branches twice: at
the answer whether the branch is there, and at the answer whether anything changed. A launch that does
not pass is the last one. -/
namespace LocalCI.Publication

open Attempt

section Answers

/-- What the command was answered, if it was given and ended. -/
def replyTo? (trace : List Launch) (c : Command) : Option Finished :=
  (trace.find? (·.command = c)).bind (·.outcome.toOption)

/-- The remote knows no such branch. -/
def isNew (trace : List Launch) : Bool :=
  (replyTo? trace .lsRemote).any (Text.isBlankText ·.out)

/-- The folder makes no difference to what is there. -/
def isUnchanged (trace : List Launch) : Bool :=
  (replyTo? trace .status).any (Text.isBlankText ·.out)

def builtMessage (x : Publication) (trace : List Launch) : String :=
  ((replyTo? trace .verify).map x.message).getD ""

variable {l : Launch} {trace : List Launch} {c : Command} {done : Finished}

theorem replyTo?_cons_self (ended : l.outcome = .ok done) :
    replyTo? (l :: trace) l.command = some done := by
  simp [replyTo?, ended, Except.toOption]

theorem replyTo?_cons_of_ne (other : l.command ≠ c) : replyTo? (l :: trace) c = replyTo? trace c := by
  simp [replyTo?, other]

theorem isNew_cons (asked : l.command = .lsRemote) (ended : l.outcome = .ok done) :
    isNew (l :: trace) = Text.isBlankText done.out := by
  rw [isNew, ← asked, replyTo?_cons_self ended, Option.any_some]

theorem isUnchanged_cons (asked : l.command = .status) (ended : l.outcome = .ok done) :
    isUnchanged (l :: trace) = Text.isBlankText done.out := by
  rw [isUnchanged, ← asked, replyTo?_cons_self ended, Option.any_some]

theorem isUnchanged_cons_of_ne (other : l.command ≠ .status) :
    isUnchanged (l :: trace) = isUnchanged trace := by
  rw [isUnchanged, isUnchanged, replyTo?_cons_of_ne other]

theorem builtMessage_cons {x : Publication} (asked : l.command = .verify)
    (ended : l.outcome = .ok done) : builtMessage x (l :: trace) = x.message done := by
  rw [builtMessage, ← asked, replyTo?_cons_self ended, Option.map_some, Option.getD_some]

end Answers

/-- The last commands: none that changes anything if the branch is there and the folder is on it. -/
def ending (trace : List Launch) (isNew : Bool) (message : String) : List Command :=
  if isUnchanged trace && !isNew then [.head]
  else [.commit message (isUnchanged trace), .push, .head]

def body (x : Publication) (trace : List Launch) (isNew : Bool) : List Command :=
  [.add, .verify, .status] ++ ending trace isNew (builtMessage x trace)

/-- The commands of a publish that meets no failure, as the answers decide. -/
def protocol (x : Publication) (trace : List Launch) : List Command :=
  [.lsRemote] ++ (if isNew trace then [.init, .symbolicRef] else [.clone]) ++ body x trace (isNew trace)

section Cons

variable {x : Publication} {l : Launch} {trace : List Launch} {isNew : Bool} {message : String}

theorem ending_cons (other : l.command ≠ .status) :
    ending (l :: trace) isNew message = ending trace isNew message := by
  rw [ending, ending, isUnchanged_cons_of_ne other]

theorem body_cons (other : l.command ≠ .status) (another : l.command ≠ .verify) :
    body x (l :: trace) isNew = body x trace isNew := by
  rw [body, body, ending_cons other, builtMessage, builtMessage, replyTo?_cons_of_ne another]

end Cons

/-- Whether a publish that is answered so has to commit. -/
def changes (trace : List Launch) : Bool := !(isUnchanged trace && !isNew trace)

namespace Phase

/-- What is left of the protocol. -/
def ahead (x : Publication) (trace : List Launch) : Phase → List Command
  | .listing => protocol x trace
  | .initialising => [.init, .symbolicRef] ++ body x trace true
  | .naming => [.symbolicRef] ++ body x trace true
  | .cloning => [.clone] ++ body x trace false
  | .adding isNew => body x trace isNew
  | .verifying isNew => [.verify, .status] ++ ending trace isNew (builtMessage x trace)
  | .comparing isNew message => [.status] ++ ending trace isNew message
  | .committing message unchanged => [.commit message unchanged, .push, .head]
  | .pushing => [.push, .head]
  | .reading _ => [.head]

/-- Whether what is left makes a change. -/
def makesChange (trace : List Launch) : Phase → Bool
  | .listing => changes trace
  | .initialising | .naming | .committing _ _ | .pushing => true
  | .cloning => !isUnchanged trace
  | .adding isNew | .verifying isNew | .comparing isNew _ => !(isUnchanged trace && !isNew)
  | .reading changed => changed

variable {x : Publication} {phase later : Phase} {l : Launch} {trace : List Launch} {done : Finished}

theorem ahead_eq_cons (phase : Phase) (trace : List Launch) :
    ∃ rest, phase.ahead x trace = phase.command :: rest := by
  cases phase <;> exact ⟨_, rfl⟩

/-- An answer takes one command off what is left and changes nothing about the rest. -/
theorem ahead_cons (same : l.command = phase.command) (ended : l.outcome = .ok done)
    (leads : phase.next x done = .inl later) :
    phase.ahead x (l :: trace) = phase.command :: later.ahead x trace := by
  have apart : phase.command ≠ .status → phase.command ≠ .verify →
      ∀ isNew, body x (l :: trace) isNew = body x trace isNew :=
    fun first second _ => body_cons (same ▸ first) (same ▸ second)
  cases phase with
  | listing =>
    cases leads
    simp only [ahead, protocol, isNew_cons same ended, apart nofun nofun]
    cases Text.isBlankText done.out <;> rfl
  | initialising | naming | cloning | adding =>
    cases leads
    simp only [ahead, apart nofun nofun]
    rfl
  | verifying isNew =>
    cases leads
    simp only [ahead, builtMessage_cons same ended, ending_cons (l := l) (by simp [same, command])]
    rfl
  | comparing isNew message =>
    cases leads
    simp only [ahead, ending, isUnchanged_cons same ended]
    split <;> rfl
  | committing | pushing =>
    cases leads
    rfl
  | reading => cases leads

theorem makesChange_cons (same : l.command = phase.command) (ended : l.outcome = .ok done)
    (leads : phase.next x done = .inl later) :
    phase.makesChange (l :: trace) = later.makesChange trace := by
  have apart : phase.command ≠ .status → isUnchanged (l :: trace) = isUnchanged trace :=
    fun other => isUnchanged_cons_of_ne (same ▸ other)
  cases phase with
  | listing =>
    cases leads
    simp only [makesChange, changes, isNew_cons same ended, apart nofun]
    cases Text.isBlankText done.out <;> simp
  | initialising | naming | cloning | adding | verifying =>
    cases leads
    simp [makesChange, apart nofun]
  | comparing isNew message =>
    cases leads
    simp only [makesChange, isUnchanged_cons same ended]
    cases Text.isBlankText done.out <;> cases isNew <;> rfl
  | committing | pushing =>
    cases leads
    rfl
  | reading => cases leads

theorem eq_pushing (asks : phase.command = .push) : phase = .pushing := by
  cases phase <;> cases asks
  rfl

theorem command_ne_head (leads : phase.next x done = .inl later) : phase.command ≠ .head := by
  cases phase with
  | reading => cases leads
  | _ => nofun

/-- Only a commit is followed by a push. -/
theorem eq_committing (leads : phase.next x done = .inl .pushing) :
    ∃ message unchanged, phase = .committing message unchanged := by
  cases phase with
  | committing message unchanged => exact ⟨message, unchanged, rfl⟩
  | listing | comparing =>
    simp only [next, Sum.inl.injEq] at leads
    split at leads <;> cases leads
  | _ => cases leads

/-- Nothing but the copying of the folder can fail before a command is given. -/
theorem eq_adding {m n : Machine} {f : Fault} (failed : phase.prepare x m = (.error f, n)) :
    ∃ isNew, phase = .adding isNew := by
  cases phase with
  | adding isNew => exact ⟨isNew, rfl⟩
  | _ => cases failed

end Phase

def Command.isCommit : Command → Bool
  | .commit _ _ => true
  | _ => false

/-- The command was started, in its place and with its variables, or it could not be. -/
def Launch.Recorded (x : Publication) (env : Env) (l : Launch) : Prop :=
  (∃ tree, l.calls = [l.command.call x env tree]) ∨ ∃ f, l.outcome = .error f ∧ l.calls = []

/-- The publish ended because the folder could not be copied. -/
def CopyFailed (x : Publication) (outcome : Except Fault Published) (e : Machine) : Prop :=
  ∃ k f, Publisher.replaceTree x.worktree x.source k = (.error f, e) ∧ outcome = .error f

theorem Launch.Starts.recorded {x : Publication} {l : Launch} {m n : Machine}
    (starts : l.Starts x m n) : l.Recorded x m.env := by
  obtain ⟨started, calls⟩ := starts
  rcases launch_calls ("git" :: l.command.args x) (some (Location.text (l.command.place x)))
    (l.command.env m.env) m with ⟨f, failed⟩ | ⟨tree, added⟩
  · obtain ⟨stopped, same⟩ := Prod.mk.inj (started.symm.trans failed)
    rw [same, List.self_eq_append_right] at calls
    exact Or.inr ⟨f, stopped, calls⟩
  · rw [Command.start] at started
    rw [started, calls, List.append_cancel_left_eq] at added
    exact Or.inl ⟨tree, added⟩

theorem Launch.Starts.env {x : Publication} {l : Launch} {m n : Machine}
    (starts : l.Starts x m n) : n.env = m.env :=
  ((Act.launch_adds (P := Call.Any) fun _ => trivial).ended starts.outcome).env

theorem Phase.prepare_quiet {x : Publication} (phase : Phase) :
    Follows (Machine.Adds fun _ => False) (phase.prepare x) := by
  cases phase with
  | adding => exact Publisher.replaceTree_adds _ _
  | _ => exact .pure _

namespace Course

variable {x : Publication} {phase : Phase} {m e : Machine} {trace : List Launch}
  {outcome : Except Fault Published}

theorem order (course : Course x phase m trace outcome e) :
    trace.map Launch.command <+: phase.ahead x trace := by
  induction course with
  | unprepared => exact List.nil_prefix
  | stopped _ same | finished _ same =>
    obtain ⟨rest, ahead⟩ := Phase.ahead_eq_cons (x := x) _ [_]
    rw [ahead]
    simp [same]
  | went _ same _ _ ended leads _ ih =>
    rw [Phase.ahead_cons same ended leads]
    simpa [same] using ih

/-- A launch that does not pass is the last, and it is what the publish fails with. -/
theorem stops (course : Course x phase m trace outcome e) {before after : List Launch} {l : Launch}
    (parts : trace = before ++ l :: after) (failed : l.passes = false) :
    after = [] ∧ outcome = .error (l.fault x) := by
  induction course generalizing before with
  | unprepared => simp at parts
  | stopped =>
    cases before with
    | nil =>
      obtain ⟨rfl, rfl⟩ := List.cons.inj parts
      exact ⟨rfl, rfl⟩
    | cons => simp at parts
  | finished _ _ _ passed =>
    cases before with
    | nil =>
      obtain ⟨rfl, -⟩ := List.cons.inj parts
      simp [passed] at failed
    | cons => simp at parts
  | went _ _ _ passed _ _ _ ih =>
    cases before with
    | nil =>
      obtain ⟨rfl, -⟩ := List.cons.inj parts
      simp [passed] at failed
    | cons first before => exact ih (List.cons.inj parts).2

/-- If every launch passes, all that was ahead is done, unless the folder could not be copied. -/
theorem completes (course : Course x phase m trace outcome e)
    (passed : ∀ l ∈ trace, l.passes = true) :
    (trace.map Launch.command ++ [.add] <+: phase.ahead x trace ∧ CopyFailed x outcome e) ∨
    (trace.map Launch.command = phase.ahead x trace ∧ ∃ head, replyTo? trace .head = some head ∧
      outcome = .ok ⟨x.deploy.branch, phase.makesChange trace, some (Text.strip head.out)⟩) := by
  induction course with
  | @unprepared phase k n f failed =>
    obtain ⟨isNew, rfl⟩ := Phase.eq_adding failed
    left
    exact ⟨⟨_, rfl⟩, k, f, failed, rfl⟩
  | stopped _ _ _ failed => simp [failed] at passed
  | @finished phase _ _ _ l done _ _ same _ _ ended leads =>
    right
    -- No phase but the last one ends with a result.
    cases phase with
    | reading changed =>
      cases leads
      refine ⟨by simp [same, Phase.ahead, Phase.command], done, ?_, rfl⟩
      rw [show Command.head = l.command from same.symm, replyTo?_cons_self ended]
    | _ => cases leads
  | @went phase _ _ _ l done later trace _ _ _ same _ _ ended leads _ ih =>
    rw [Phase.ahead_cons same ended leads, Phase.makesChange_cons same ended leads]
    rcases ih fun l member => passed l (List.mem_cons_of_mem _ member) with
      ⟨upTo, copying⟩ | ⟨all, head, replied, result⟩
    · left
      exact ⟨by simpa [same] using upTo, copying⟩
    · right
      refine ⟨by simp [same, all], head, ?_, result⟩
      rw [replyTo?_cons_of_ne (same ▸ Phase.command_ne_head leads), replied]

/-- Before every push a commit passed. -/
theorem pushes_commit (course : Course x phase m trace outcome e) {before after : List Launch}
    {l : Launch} (parts : trace = before ++ l :: after) (pushes : l.command = .push) :
    (phase = .pushing ∧ before = []) ∨
      ∃ c ∈ before, c.command.isCommit = true ∧ ∃ done, c.outcome = .ok done ∧ done.code = 0 := by
  induction course generalizing before with
  | unprepared => simp at parts
  | stopped _ same | finished _ same =>
    cases before with
    | nil =>
      obtain ⟨rfl, -⟩ := List.cons.inj parts
      exact Or.inl ⟨Phase.eq_pushing (same.symm.trans pushes), rfl⟩
    | cons => simp at parts
  | went _ same _ passed ended leads _ ih =>
    cases before with
    | nil =>
      obtain ⟨rfl, -⟩ := List.cons.inj parts
      exact Or.inl ⟨Phase.eq_pushing (same.symm.trans pushes), rfl⟩
    | cons first before =>
      obtain ⟨rfl, rest⟩ := List.cons.inj parts
      right
      -- If the push comes right after this launch, this launch is the commit.
      rcases ih rest with ⟨rfl, rfl⟩ | ⟨c, member, commits, succeeded⟩
      · obtain ⟨message, unchanged, rfl⟩ := Phase.eq_committing leads
        refine ⟨_, List.mem_cons_self, by rw [same]; rfl, _, ended, ?_⟩
        simpa [Launch.passes, same, Phase.command, ended, Command.accepts] using passed
      · exact ⟨c, List.mem_cons_of_mem _ member, commits, succeeded⟩

/-- What is on record is what was started, and nothing else. -/
theorem recorded (course : Course x phase m trace outcome e) :
    (∀ l ∈ trace, l.Recorded x m.env) ∧ e.calls = m.calls ++ trace.flatMap Launch.calls := by
  have quiet : ∀ {phase : Phase} {m n : Machine} {o}, phase.prepare x m = (o, n) →
      n.env = m.env ∧ n.calls = m.calls := fun prepared =>
    have adds := (Phase.prepare_quiet _).ended prepared
    ⟨adds.env, adds.calls_eq⟩
  induction course with
  | unprepared prepared => simp [quiet prepared]
  | stopped prepared _ starts | finished prepared _ starts =>
    obtain ⟨env, calls⟩ := quiet prepared
    exact ⟨by simpa [← env] using starts.recorded, by simp [starts.calls, calls]⟩
  | went prepared _ starts _ _ _ _ ih =>
    obtain ⟨env, calls⟩ := quiet prepared
    obtain ⟨each, added⟩ := ih
    rw [starts.env, env] at each
    have first := starts.recorded
    rw [env] at first
    exact ⟨List.forall_mem_cons.mpr ⟨first, each⟩, by simp [added, starts.calls, calls]⟩

end Course

theorem count_push_protocol (x : Publication) (trace : List Launch) :
    (protocol x trace).count .push ≤ 1 := by
  unfold protocol body ending
  split <;> split <;> simp

/-- Where nothing is to change, the protocol has no command that changes anything. -/
theorem protocol_of_unchanged {x : Publication} {trace : List Launch} (same : changes trace = false) :
    ∀ c ∈ protocol x trace, c.isCommit = false ∧ c ≠ .push := by
  obtain ⟨unchanged, old⟩ : isUnchanged trace = true ∧ isNew trace = false := by
    simpa [changes] using same
  simp [protocol, body, ending, unchanged, old, Command.isCommit]

/-- What git is told in a publish, and how that decides what the publish comes to. -/
structure Obeys (x : Publication) (env : Env) (trace : List Launch)
    (outcome : Except Fault Published) (e : Machine) : Prop where
  order : trace.map Launch.command <+: protocol x trace
  recorded : ∀ l ∈ trace, l.Recorded x env
  /-- A launch that does not pass is the last, and the publish fails. -/
  stops : ∀ before l after, trace = before ++ l :: after → l.passes = false →
    after = [] ∧ outcome = .error (l.fault x)
  /-- If all pass, nothing is left out, unless the folder cannot be copied. -/
  completes : (∀ l ∈ trace, l.passes = true) →
    (trace.map Launch.command ++ [.add] <+: protocol x trace ∧ CopyFailed x outcome e) ∨
    (trace.map Launch.command = protocol x trace ∧ ∃ head, replyTo? trace .head = some head ∧
      outcome = .ok ⟨x.deploy.branch, changes trace, some (Text.strip head.out)⟩)
  pushesOnce : (trace.map Launch.command).count .push ≤ 1
  pushesCommit : ∀ before l after, trace = before ++ l :: after → l.command = .push →
    ∃ c ∈ before, c.command.isCommit = true ∧ ∃ done, c.outcome = .ok done ∧ done.code = 0
  unchanged : ∀ published, outcome = .ok published → published.changed = false →
    ∀ l ∈ trace, l.command.isCommit = false ∧ l.command ≠ .push

section Obeys

variable {x : Publication} {m e : Machine} {trace : List Launch} {outcome : Except Fault Published}

/-- A publish that succeeds had no launch that did not pass. -/
theorem Course.passed_of_ok {phase : Phase} {published : Published}
    (course : Course x phase m trace (.ok published) e) : ∀ l ∈ trace, l.passes = true := by
  intro l member
  obtain ⟨before, after, parts⟩ := List.append_of_mem member
  cases passed : l.passes with
  | true => rfl
  | false => cases (course.stops parts passed).2

theorem Course.unchanged {published : Published}
    (course : Course x .listing m trace (.ok published) e) (same : published.changed = false) :
    ∀ l ∈ trace, l.command.isCommit = false ∧ l.command ≠ .push := by
  intro l member
  rcases course.completes course.passed_of_ok with ⟨_, _, f, _, failed⟩ | ⟨all, head, _, result⟩
  · cases failed
  · cases result
    apply protocol_of_unchanged (x := x) same
    rw [← show trace.map Launch.command = protocol x trace from all]
    exact List.mem_map_of_mem member

theorem Course.obeys (course : Course x .listing m trace outcome e) :
    Obeys x m.env trace outcome e where
  order := course.order
  recorded := course.recorded.1
  stops _ _ _ parts failed := course.stops parts failed
  completes passed := course.completes passed
  pushesOnce := Nat.le_trans (course.order.sublist.count_le _) (count_push_protocol x trace)
  pushesCommit _ _ _ parts pushes := by
    rcases course.pushes_commit parts pushes with ⟨nothing, _⟩ | committed
    · cases nothing
    · exact committed
  unchanged published ended same := by
    subst ended
    exact course.unchanged same

end Obeys

/-- Whatever git answers, a publish that has found its folder and its remote keeps the protocol. -/
theorem publish_follows_protocol {p : Publisher} {d : Deploy} {m n : Machine} {x : Publication}
    (opens : Opens p d m x n) :
    ∃ trace e, Course x .listing (opened n) trace (p.publish d m).1 e ∧
      Obeys x n.env trace (p.publish d m).1 e ∧
      (p.publish d m).2.calls = n.calls ++ trace.flatMap Launch.calls := by
  obtain ⟨trace, e, course, removed⟩ := opens.course
  have made := course.recorded.2
  obtain ⟨files, gone⟩ := Publisher.removeTree_eq x.worktree e
  rw [opened_calls] at made
  refine ⟨trace, e, course, ?_, by rw [removed, gone]; exact made⟩
  rw [← opened_env n]
  exact course.obeys

/-- A folder with nothing in it, for a branch that is not there. -/
def emptyPages : Publication where
  publisher := { repository := ["ws"], remote := "https://forge/site.git" }
  deploy := ⟨"site", "pages"⟩
  source := ["ws", "site"]
  worktree := ["tmp", "actrun-publish-1"]
  url := "https://forge/site.git"

/-- Nothing was built yet, and the push is refused. -/
def refusingMachine : Machine where
  files := .dir [("ws", .dir [("site", .dir [])]), ("tmp", .dir [])]
  cwd := ["ws"]
  temp := ["tmp"]
  answers := [{}, {}, {}, {}, { code := 1 }, {}, {}, { code := 1, err := some "rejected" }]

/-- The branch is made by an empty commit, and what is refused is not read back. -/
theorem publish_follows_protocol_refused :
    let ended := emptyPages.publisher.publish emptyPages.deploy refusingMachine
    Opens emptyPages.publisher emptyPages.deploy refusingMachine emptyPages refusingMachine ∧
    (∃ trace e, Obeys emptyPages {} trace ended.1 e ∧ ended.2.calls = trace.flatMap Launch.calls) ∧
    (ended.2.calls.map fun call => match call with
      | .process args _ _ _ => args.drop 1
      | .action .. => []) =
      ([.lsRemote, .init, .symbolicRef, .add, .verify, .status, .commit "Deploying to pages" true,
        .push] : List Command).map (Command.args emptyPages) := by
  have opens : Opens emptyPages.publisher emptyPages.deploy refusingMachine emptyPages
      refusingMachine := {
    publisher := rfl
    deploy := rfl
    source := eq_ok_of_toOption (by decide +kernel)
    present := eq_ok_of_toOption (by decide +kernel)
    address := by
      rw [Publisher.remoteUrl, Publisher.remoteAddress, if_pos (by decide +kernel)]
      rfl
    worktree := eq_ok_of_toOption (by decide +kernel) }
  obtain ⟨trace, e, _, obeys, calls⟩ := publish_follows_protocol opens
  exact ⟨opens, ⟨trace, e, obeys, calls⟩, by decide +kernel⟩

end LocalCI.Publication
