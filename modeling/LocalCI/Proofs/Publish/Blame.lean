import LocalCI.Proofs.Publish.Secrecy

/-! Whom a publish blames. A command of git that is refused is the last one, and the publish fails with
the first word the command was given and with the last line that it wrote. That word is the command's own
name, except for a commit: options of git stand before its name. -/
namespace LocalCI

open Attempt

/-- The first answers, as many as asked for. Where none is left, a program does nothing and ends well. -/
def Answer.firstOf : Nat → List Answer → List Answer
  | 0, _ => []
  | count + 1, answers => answers.headD {} :: firstOf count answers.tail

@[simp] theorem Answer.length_firstOf (count : Nat) (answers : List Answer) :
    (firstOf count answers).length = count := by
  induction count generalizing answers with
  | zero => rfl
  | succ count ih => rw [firstOf, List.length_cons, ih]

theorem Answer.firstOf_add (first second : Nat) (answers : List Answer) :
    firstOf (first + second) answers = firstOf first answers ++ firstOf second (answers.drop first) := by
  induction first generalizing answers with
  | zero => simp [firstOf]
  | succ first ih =>
    rw [Nat.succ_add, firstOf, firstOf, ih, List.cons_append, List.drop_tail]

/-- What is not in the first of two lists is in the second, with the same after it. -/
theorem split_of_not_mem {α : Type} {first second before after : List α} {a : α}
    (parts : first ++ second = before ++ a :: after) (other : a ∉ first) :
    ∃ front, second = front ++ a :: after := by
  rcases List.append_eq_append_iff.mp parts with ⟨front, _, split⟩ | ⟨rest, split, same⟩
  · exact ⟨front, split⟩
  · cases rest with
    | nil => exact ⟨[], same.symm⟩
    | cons b rest =>
      obtain ⟨rfl, _⟩ := List.cons.inj same
      exact absurd (by simp [split]) other

namespace Machine

/-- The programs that were started between two states of a machine, each with its answer. -/
def launched (m n : Machine) : List (Call × Answer) :=
  let calls := n.calls.drop m.calls.length
  calls.zip (Answer.firstOf calls.length m.answers)

/-- Nothing was started in between. -/
structure Rests (m n : Machine) : Prop where
  calls : n.calls = m.calls
  answers : n.answers = m.answers

instance : IsPreorder Machine Rests where
  refl _ := ⟨rfl, rfl⟩
  trans _ _ _ first later := ⟨later.calls.trans first.calls, later.answers.trans first.answers⟩

/-- Each program that was started in between took one answer. -/
def Serves (m n : Machine) : Prop :=
  ∃ calls, n.calls = m.calls ++ calls ∧ n.answers = m.answers.drop calls.length

variable {m k n : Machine}

theorem Rests.serves (rests : m.Rests n) : m.Serves n :=
  ⟨[], by rw [rests.calls, List.append_nil], rests.answers⟩

instance : IsPreorder Machine Serves where
  refl _ := Rests.serves ⟨rfl, rfl⟩
  trans m k n := by
    rintro ⟨first, added, taken⟩ ⟨second, addedThen, takenThen⟩
    refine ⟨first ++ second, by rw [addedThen, added, List.append_assoc], ?_⟩
    rw [takenThen, taken, List.drop_drop, List.length_append]

theorem launched_eq {calls : List Call} (added : n.calls = m.calls ++ calls) :
    m.launched n = calls.zip (Answer.firstOf calls.length m.answers) := by
  rw [launched, added, List.drop_left]

theorem launched_of_same (calls : n.calls = m.calls) : m.launched n = [] := by
  rw [launched_eq (calls.trans (List.append_nil _).symm)]
  rfl

/-- What a machine started before makes no difference. -/
theorem Rests.launched (rests : m.Rests k) (n : Machine) : k.launched n = m.launched n := by
  rw [Machine.launched, Machine.launched, rests.calls, rests.answers]

theorem launched_trans (first : m.Serves k) (second : k.Serves n) :
    m.launched n = m.launched k ++ k.launched n := by
  obtain ⟨calls, added, taken⟩ := first
  obtain ⟨later, addedThen, _⟩ := second
  have both : n.calls = m.calls ++ (calls ++ later) := by rw [addedThen, added, List.append_assoc]
  rw [launched_eq added, launched_eq addedThen, launched_eq both, taken, List.length_append,
    Answer.firstOf_add, List.zip_append (Answer.length_firstOf _ _).symm]

theorem Adds.launched {P : Call → Prop} (adds : m.Adds P n) {call : Call} {a : Answer}
    (member : (call, a) ∈ m.launched n) : P call := by
  obtain ⟨calls, added, each⟩ := adds.calls
  rw [launched_eq added] at member
  exact each call (List.of_mem_zip member).1

end Machine

namespace Act

/-- A program that is started takes the next answer and ends as that says. -/
theorem launch_launched {args : List String} {cwd : Option String} {env : Option Env} {m n : Machine}
    {outcome : Except Fault Finished} (started : launch args cwd env m = (outcome, n)) :
    ((∃ f, outcome = .error f) ∧ n = m) ∨
    ∃ tree, let a := m.answers.headD {}
      m.launched n = [(.process args cwd env tree, a)] ∧ m.Serves n ∧
      (a.failure = none → outcome = .ok ⟨a.code, a.out, a.err⟩) := by
  unfold launch at started
  split at started
  next f _ =>
    obtain ⟨rfl, rfl⟩ := Prod.mk.inj started
    exact Or.inl ⟨⟨f, rfl⟩, rfl⟩
  next =>
    right
    dsimp only at started
    have ended : n = ({ m with answers := m.answers.tail } : Machine).afterAnswer
          (m.answers.headD {}) args cwd env ∧
        ((m.answers.headD {}).failure = none → outcome =
          .ok ⟨(m.answers.headD {}).code, (m.answers.headD {}).out, (m.answers.headD {}).err⟩) := by
      split at started
      next failure failed =>
        obtain ⟨rfl, rfl⟩ := Prod.mk.inj started
        exact ⟨rfl, fun absent => nomatch failed.symm.trans absent⟩
      next =>
        obtain ⟨rfl, rfl⟩ := Prod.mk.inj started
        exact ⟨rfl, fun _ => rfl⟩
    obtain ⟨ended, ends⟩ := ended
    obtain ⟨tree, added⟩ : ∃ tree, n.calls = m.calls ++ [.process args cwd env tree] :=
      ⟨_, congrArg Machine.calls ended⟩
    have taken : n.answers = m.answers.drop 1 := by
      rw [ended, List.drop_one]
      rfl
    exact ⟨tree, Machine.launched_eq added, ⟨_, added, taken⟩, ends⟩

theorem launch_serves (args : List String) (cwd : Option String) (env : Option Env) :
    Follows Machine.Serves (launch args cwd env) := by
  intro m
  rcases launch_launched (Prod.eta (launch args cwd env m)).symm with ⟨_, same⟩ | ⟨_, _, serves, _⟩
  · rw [same]
    exact refl_of _ m
  · exact serves

end Act

/-- What git is told, if it is git that is started. -/
def Call.gitArgs? : Call → Option (List String)
  | .process ("git" :: args) _ _ _ => some args
  | _ => none

namespace Git

/-- The command that git is given. Options of git itself may stand before it. -/
def subcommand? : List String → Option String
  | [] => none
  | "-c" :: _ :: rest => subcommand? rest
  | word :: _ => some word

end Git

namespace Text

/-- The last line of a text that is not blank, or what stands for it where there is none. -/
inductive IsLastLine (text : String) : String → Prop where
  | line {before after line} : lines text = before ++ line :: after → isBlankText line = false →
      (∀ later ∈ after, isBlankText later = true) → IsLastLine text line
  | nothing : (∀ line ∈ lines text, isBlankText line = true) → IsLastLine text "no output"

theorem isLastLine_lastLine (text : String) : IsLastLine text (lastLine text) := by
  rw [lastLine]
  cases found : ((lines text).filter (!isBlankText ·)).getLast? with
  | none =>
    refine .nothing fun line member => ?_
    have none := List.filter_eq_nil_iff.mp (List.getLast?_eq_none_iff.mp found) line member
    simpa using none
  | some line =>
    obtain ⟨front, filtered⟩ := List.getLast?_eq_some_iff.mp found
    obtain ⟨before, rest, parts, _, last⟩ := List.filter_eq_append_iff.mp filtered
    obtain ⟨blank, after, rfl, _, filled, nothing⟩ := List.filter_eq_cons_iff.mp last
    refine .line (parts.trans (List.append_assoc _ _ _).symm) (by simpa using filled) ?_
    intro later member
    simpa using List.filter_eq_nil_iff.mp nothing later member

end Text

namespace Publisher

/-- What git is asked in the repository itself. Everything else it is told in the worktree. -/
def questions (p : Publisher) : List (List String) :=
  [["remote", "get-url", p.remote], ["rev-parse", "--verify", "--quiet", "HEAD"]]

/-- The commands that git is given in the worktree. -/
def commands : List String :=
  ["ls-remote", "init", "symbolic-ref", "clone", "add", "status", "commit", "push", "rev-parse"]

theorem redact_of_no_secret {p : Publisher} (unsigned : p.secret? = none) (text : String) :
    p.redact text = text := by
  rw [redact, unsigned]

end Publisher

namespace Publication

variable {x : Publication}

/-- A refusal names the first word the command is given: only a commit has options before its name. -/
theorem Command.refusal_eq (c : Command) (done : Finished) :
    ∃ name ∈ Publisher.commands, Git.subcommand? (c.args x) = some name ∧
      let last := Text.lastLine (done.err.getD "")
      (name ≠ "commit" → c.refusal x done = s!"git {name} failed: {last}") ∧
      (name = "commit" → c.refusal x done = s!"git -c failed: {last}") := by
  cases c with
  | commit message allowEmpty =>
    refine ⟨"commit", by decide, ?_, by simp, fun _ => rfl⟩
    simp [Command.args, Publisher.commitCommand, Git.subcommand?]
  | _ => simp [Command.refusal, Command.args, Git.subcommand?, Publisher.commands, Publisher.errorLine]

/-- Preparing a command starts nothing. -/
theorem Phase.prepare_rests {phase : Phase} {m k : Machine} {ready : Except Fault Unit}
    (prepared : phase.prepare x m = (ready, k)) : m.Rests k := by
  cases phase with
  | adding isNew =>
    have copies : Follows Machine.Rests (Publisher.replaceTree x.worktree x.source) :=
      Publisher.replaceTree_conducts (fun _ _ _ => ⟨rfl, rfl⟩) (fun _ _ _ => ⟨rfl, rfl⟩) _
    exact copies.ended prepared
  | _ =>
    cases prepared
    exact ⟨rfl, rfl⟩

theorem opened_rests (n : Machine) : n.Rests (opened n) :=
  Publisher.makeWorktree_conducts (R := fun m _ n => Machine.Rests m n) (fun _ _ _ => ⟨rfl, rfl⟩) n

/-- A launch starts the command, which takes the next answer, or it starts nothing. -/
theorem Launch.Starts.launched {l : Launch} {m n : Machine} (starts : l.Starts x m n) :
    ((∃ f, l.outcome = .error f) ∧ n = m) ∨
    ∃ tree a, m.launched n = [(l.command.call x m.env tree, a)] ∧ m.Serves n ∧
      (a.failure = none → l.outcome = .ok ⟨a.code, a.out, a.err⟩) := by
  rcases Act.launch_launched starts.outcome with unstarted | ⟨tree, started⟩
  · exact Or.inl unstarted
  · exact Or.inr ⟨tree, _, started⟩

theorem Launch.Starts.serves {l : Launch} {m n : Machine} (starts : l.Starts x m n) : m.Serves n := by
  rcases starts.launched with ⟨_, rfl⟩ | ⟨_, _, _, serves, _⟩
  · exact refl_of _ _
  · exact serves

section Refused

variable {call : Call} {args : List String} {a : Answer} {before after : List (Call × Answer)}
  (given : call.gitArgs? = some args) (ended : a.failure = none) (code : a.code ≠ 0)

include given ended code

/-- A launch that takes a non-zero code does not pass, unless it asks what was built. -/
theorem Launch.Starts.refused {l : Launch} {m n : Machine} (starts : l.Starts x m n)
    (parts : m.launched n = before ++ (call, a) :: after) (works : args ≠ Command.verify.args x) :
    after = [] ∧ args = l.command.args x ∧ l.passes = false ∧
      l.outcome = .ok ⟨a.code, a.out, a.err⟩ := by
  rcases starts.launched with ⟨_, rfl⟩ | ⟨tree, a, alone, _, ends⟩
  · rw [Machine.launched_of_same rfl] at parts
    simp at parts
  · obtain ⟨_, single⟩ | ⟨_, none⟩ := List.append_eq_singleton_iff.mp (parts.symm.trans alone)
    case inr => cases none
    cases single
    cases given
    have other : l.command ≠ .verify := fun same => works (congrArg (Command.args x) same)
    refine ⟨rfl, rfl, ?_, ends ended⟩
    rw [Launch.passes, ends ended]
    simp [Command.accepts, code, other]

namespace Course

variable {phase : Phase} {m e : Machine} {trace : List Launch} {outcome : Except Fault Published}

omit given ended code in
theorem serves (course : Course x phase m trace outcome e) : m.Serves e := by
  have ready : ∀ {phase : Phase} {m k : Machine} {o}, phase.prepare x m = (o, k) → m.Serves k :=
    fun prepared => (Phase.prepare_rests prepared).serves
  induction course with
  | unprepared prepared => exact ready prepared
  | stopped prepared _ starts | finished prepared _ starts =>
    exact trans_of _ (ready prepared) starts.serves
  | went prepared _ starts _ _ _ _ ih =>
    exact trans_of _ (ready prepared) (trans_of _ starts.serves ih)

/-- A refused command is the last one of a course, and its refusal is how the course ends. -/
theorem refused_last (course : Course x phase m trace outcome e)
    (parts : m.launched e = before ++ (call, a) :: after) (works : args ≠ Command.verify.args x) :
    after = [] ∧ ∃ c : Command, args = c.args x ∧
      outcome = .error (c.fault x (.ok ⟨a.code, a.out, a.err⟩)) := by
  have ready : ∀ {phase : Phase} {m k : Machine} {o}, phase.prepare x m = (o, k) →
      ∀ n, k.launched n = m.launched n := fun prepared => (Phase.prepare_rests prepared).launched
  induction course generalizing before with
  | unprepared prepared =>
    rw [Machine.launched_of_same (Phase.prepare_rests prepared).calls] at parts
    simp at parts
  | stopped prepared _ starts =>
    rw [← ready prepared] at parts
    obtain ⟨last, same, _, refused⟩ := starts.refused given ended code parts works
    exact ⟨last, _, same, by rw [Launch.fault, refused]⟩
  | finished prepared _ starts passed =>
    rw [← ready prepared] at parts
    obtain ⟨_, _, failed, _⟩ := starts.refused given ended code parts works
    cases failed.symm.trans passed
  | went prepared _ starts passed _ _ course ih =>
    rw [← ready prepared, Machine.launched_trans starts.serves course.serves] at parts
    -- The first launch passed, so the refused command is among the later ones.
    obtain ⟨front, later⟩ := split_of_not_mem parts fun member => by
      obtain ⟨_, _, first⟩ := List.append_of_mem member
      obtain ⟨_, _, failed, _⟩ := starts.refused given ended code first works
      cases failed.symm.trans passed
    exact ih later

end Course
end Refused

/-- A publish finds its folder and its remote, or it has at most asked for the remote. -/
theorem opens_or_asks (p : Publisher) (d : Deploy) (m : Machine) :
    (p.publish d m).2 = m ∨ (p.publish d m).2 = (p.remoteUrl d m).2 ∨ ∃ x n, Opens p d m x n := by
  cases resolved : m.resolve ((Path.ofLocation p.repository).child d.folder) with
  | error f =>
    left
    unfold Publisher.publish
    rw [bind_apply, Act.resolve_apply, resolved]
  | ok source =>
    have found : Act.resolve ((Path.ofLocation p.repository).child d.folder) m = (.ok source, m) :=
      congrArg (·, m) resolved
    cases asked : m.pathIsDir (Path.ofLocation source) with
    | error f =>
      left
      unfold Publisher.publish
      rw [bind_of_ok found, bind_apply, Act.pathIsDir_apply, asked]
    | ok there =>
      have looked : Act.pathIsDir (Path.ofLocation source) m = (.ok there, m) := congrArg (·, m) asked
      cases there with
      | false =>
        left
        unfold Publisher.publish
        rw [bind_of_ok found, bind_of_ok looked]
        rfl
      | true =>
        right
        cases address : p.remoteUrl d m with
        | mk outcome n =>
          cases outcome with
          | error f =>
            left
            unfold Publisher.publish
            rw [bind_of_ok found, bind_of_ok looked, if_neg (by simp)]
            dsimp only
            rw [bind_apply, address]
          | ok url =>
            rcases Publisher.makeWorktree_cases n with ⟨how, path, refused⟩ | ⟨_, _, _, _, made⟩
            · left
              unfold Publisher.publish
              rw [bind_of_ok found, bind_of_ok looked, if_neg (by simp)]
              dsimp only
              rw [bind_of_ok address, bind_of_error refused]
            · exact Or.inr ⟨⟨p, d, source, _, url⟩, n, rfl, rfl, resolved, asked, address,
                congrArg Prod.fst made⟩

/-- Finding the address asks git at most what the remote is. -/
theorem remoteUrl_asks (p : Publisher) (d : Deploy) (m : Machine) {call : Call} {a : Answer}
    (member : (call, a) ∈ m.launched (p.remoteUrl d m).2) :
    call.gitArgs? = some ["remote", "get-url", p.remote] := by
  have adds : m.Adds (·.gitArgs? = some ["remote", "get-url", p.remote]) (p.remoteUrl d m).2 :=
    Publisher.remoteUrl_conducts p d (Act.launch_adds fun _ => rfl) m
  exact adds.launched member

/-- What a publish starts in its worktree comes after what it asked for the remote. -/
theorem Opens.launched {p : Publisher} {d : Deploy} {m n : Machine} (opens : Opens p d m x n) :
    ∃ trace e, Course x .listing (opened n) trace (p.publish d m).1 e ∧
      m.launched (p.publish d m).2 = m.launched n ++ (opened n).launched e := by
  obtain ⟨trace, e, course, removed⟩ := opens.course
  have sent : (p.remoteUrl d m).2 = n := congrArg Prod.snd opens.address
  have asks : m.Serves n := sent ▸ Publisher.remoteUrl_conducts p d (Act.launch_serves _ _ _) m
  have made := opened_rests n
  obtain ⟨files, gone⟩ := Publisher.removeTree_eq x.worktree e
  refine ⟨trace, e, course, ?_⟩
  rw [removed, gone, made.launched]
  exact Machine.launched_trans asks (trans_of _ made.serves course.serves)

/-- Whatever a publish starts, a command that is refused in the worktree ends it, and it fails with
that refusal. -/
theorem publish_refused {p : Publisher} {d : Deploy} {m : Machine}
    {before after : List (Call × Answer)} {call : Call} {args : List String} {a : Answer}
    (parts : m.launched (p.publish d m).2 = before ++ (call, a) :: after)
    (given : call.gitArgs? = some args) (works : args ∉ p.questions)
    (ended : a.failure = none) (code : a.code ≠ 0) :
    after = [] ∧ ∃ x c, args = Command.args x c ∧ (p.publish d m).1 =
      .error (.publish ⟨d.folder, d.branch, p.redact (c.refusal x ⟨a.code, a.out, a.err⟩)⟩) := by
  obtain ⟨notRemote, notBuilt⟩ : args ≠ ["remote", "get-url", p.remote] ∧
      args ≠ ["rev-parse", "--verify", "--quiet", "HEAD"] := by
    simpa [Publisher.questions] using works
  have notAsked : (call, a) ∉ m.launched (p.remoteUrl d m).2 := fun member =>
    notRemote (Option.some.inj (given.symm.trans (remoteUrl_asks p d m member)))
  rcases opens_or_asks p d m with same | asked | ⟨x, n, opens⟩
  · rw [same, Machine.launched_of_same rfl] at parts
    simp at parts
  · rw [asked] at parts
    exact absurd (by simp [parts]) notAsked
  · obtain ⟨trace, e, course, split⟩ := opens.launched
    rw [split] at parts
    rw [opens.address] at notAsked
    obtain ⟨front, later⟩ := split_of_not_mem parts notAsked
    obtain ⟨final, c, same, outcome⟩ := course.refused_last given ended code later notBuilt
    rw [Command.fault, opens.publisher, opens.deploy] at outcome
    exact ⟨final, x, c, same, outcome⟩

/-- A command that is refused is the last one, and without a token the publish tells its name and the
last line that it wrote. Only a commit is told by the option that stands before its name. -/
theorem publish_blames_command {p : Publisher} {d : Deploy} {m : Machine} (unsigned : p.secret? = none)
    {before after : List (Call × Answer)} {call : Call} {args : List String} {a : Answer}
    (parts : m.launched (p.publish d m).2 = before ++ (call, a) :: after)
    (given : call.gitArgs? = some args) (works : args ∉ p.questions)
    (ended : a.failure = none) (code : a.code ≠ 0) :
    after = [] ∧ ∃ name ∈ Publisher.commands, Git.subcommand? args = some name ∧
      let last := Text.lastLine (a.err.getD "")
      Text.IsLastLine (a.err.getD "") last ∧
      (name ≠ "commit" → (p.publish d m).1 =
        .error (.publish ⟨d.folder, d.branch, s!"git {name} failed: {last}"⟩)) ∧
      (name = "commit" → (p.publish d m).1 =
        .error (.publish ⟨d.folder, d.branch, s!"git -c failed: {last}"⟩)) := by
  obtain ⟨final, x, c, rfl, outcome⟩ := publish_refused parts given works ended code
  obtain ⟨name, known, told, plain, commits⟩ := c.refusal_eq (x := x) ⟨a.code, a.out, a.err⟩
  rw [p.redact_of_no_secret unsigned] at outcome
  refine ⟨final, name, known, told, Text.isLastLine_lastLine _, ?_, ?_⟩
  · intro other
    rw [outcome, plain other]
  · intro commit
    rw [outcome, commits commit]

/-- The push is refused, in more than one line. -/
theorem publish_blames_command_push :
    let m := { refusingMachine with answers := [{}, {}, {}, {}, { code := 1 }, {}, {},
      { code := 1, err := some "remote: protected\nerror: failed to push\n \n" }] }
    let ended := emptyPages.publisher.publish emptyPages.deploy m
    ∃ before call a, m.launched ended.2 = before ++ [(call, a)] ∧
      call.gitArgs? = some (Command.push.args emptyPages) ∧ a.code = 1 ∧
      ended.1 = .error (.publish ⟨"site", "pages", "git push failed: error: failed to push"⟩) := by
  intro m ended
  obtain ⟨⟨call, a⟩, member, given, failure, code, err⟩ : ∃ s ∈ m.launched ended.2,
      s.1.gitArgs? = some (Command.push.args emptyPages) ∧ s.2.failure = none ∧ s.2.code = 1 ∧
      s.2.err = some "remote: protected\nerror: failed to push\n \n" := by
    decide +kernel
  dsimp only at given failure code err
  have last : Text.lastLine (a.err.getD "") = "error: failed to push" := by
    rw [err]
    decide +kernel
  obtain ⟨before, after, parts⟩ := List.append_of_mem member
  obtain ⟨rfl, name, _, told, _, plain, _⟩ := publish_blames_command (by decide) parts given
    (by decide +kernel) failure (by simp [code])
  cases told
  rw [last] at plain
  exact ⟨before, call, a, parts, given, code, plain (by decide)⟩

/-- Committing is refused, and the publish blames an option of git. -/
theorem publish_blames_option :
    let m := { refusingMachine with answers := [{}, {}, {}, {}, { code := 1 }, {},
      { code := 128, err := some "fatal: empty ident name\n" }] }
    let ended := emptyPages.publisher.publish emptyPages.deploy m
    emptyPages.publisher.secret? = none ∧
    ((m.launched ended.2).map fun s => (s.1.gitArgs?.bind Git.subcommand?, s.2.code)) =
      [(some "ls-remote", 0), (some "init", 0), (some "symbolic-ref", 0), (some "add", 0),
        (some "rev-parse", 1), (some "status", 0), (some "commit", 128)] ∧
    ended.1 = .error (.publish ⟨"site", "pages", "git -c failed: fatal: empty ident name"⟩) := by
  intro m ended
  have failed : ended = (.error (.publish ⟨"site", "pages",
      "git -c failed: fatal: empty ident name"⟩), _) := eq_of_told? (by decide +kernel)
  exact ⟨by decide, by decide +kernel, congrArg Prod.fst failed⟩

end Publication
end LocalCI
