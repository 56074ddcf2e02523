import LocalCI.Proofs.Record

/-! The course of a publish. Git is asked one thing after another: what comes next depends on the
phase and on the answer, and a launch that does not pass ends the course. Every publish that has found
its folder and its remote runs such a course. -/
namespace LocalCI

open Attempt

/-- A publish that has found its folder and its remote and has a place to work in. -/
structure Publication where
  publisher : Publisher
  deploy : Deploy
  source : Location
  worktree : Location
  url : String

namespace Publication

inductive Command where
  | lsRemote
  | init
  | symbolicRef
  | clone
  | add
  /-- The commit that was built, if there is one. -/
  | verify
  | status
  | commit (message : String) (allowEmpty : Bool)
  | push
  /-- The commit the branch is at. -/
  | head
deriving DecidableEq

variable (x : Publication)

namespace Command

def args : Command → List String
  | .lsRemote => ["ls-remote", "--heads", x.url, x.deploy.branch]
  | .init => ["init", "--quiet"]
  | .symbolicRef => ["symbolic-ref", "HEAD", s!"refs/heads/{x.deploy.branch}"]
  | .clone => ["clone", "--quiet", "--depth", "1", "--branch", x.deploy.branch, x.url, "."]
  | .add => ["add", "--all"]
  | .verify => ["rev-parse", "--verify", "--quiet", "HEAD"]
  | .status => ["status", "--porcelain"]
  | .commit message allowEmpty => x.publisher.commitCommand message allowEmpty
  | .push => ["push", "--quiet", x.url, s!"HEAD:refs/heads/{x.deploy.branch}"]
  | .head => ["rev-parse", "HEAD"]

/-- Only the commit that was built is asked for in the repository itself. -/
def place (c : Command) : Location := if c = .verify then x.publisher.repository else x.worktree

def env (machineEnv : Env) (c : Command) : Option Env :=
  if c = .verify then none else some (machineEnv.set "GIT_TERMINAL_PROMPT" "0")

/-- What is recorded when the command is started. -/
def call (machineEnv : Env) (c : Command) (tree : Option (List (List String × Node.Entry))) : Call :=
  .process ("git" :: c.args x) (some (Location.text (c.place x))) (c.env machineEnv) tree

def start (c : Command) : Act Finished := fun m =>
  Act.launch ("git" :: c.args x) (some (Location.text (c.place x))) (c.env m.env) m

/-- A command passes when it ends with code zero. There may be no commit yet, so asking for the one
that was built passes with any code. -/
def accepts (c : Command) : Except Fault Finished → Bool
  | .ok done => done.code = 0 || c = .verify
  | .error _ => false

/-- What there is to tell of a refused command, before the token is hidden. -/
def refusal (c : Command) (done : Finished) : String :=
  let command := (c.args x).headD ""
  s!"git {command} failed: {Publisher.errorLine done.err}"

/-- What the publish fails with when the command does not pass. -/
def fault (c : Command) : Except Fault Finished → Fault
  | .ok done => .publish ⟨x.deploy.folder, x.deploy.branch, x.publisher.redact (c.refusal x done)⟩
  | .error f => if c ≠ .verify && f.isMissing then
      .publish ⟨x.deploy.folder, x.deploy.branch, "git command not found"⟩ else f

end Command

/-- Starts the command and goes on only if it passes. -/
def ask (c : Command) : Act Finished := fun m =>
  let started := c.start x m
  if c.accepts started.1 then started else (.error (c.fault x started.1), started.2)

/-- A command that was tried, what came of it, and what it left on record. -/
structure Launch where
  command : Command
  outcome : Except Fault Finished
  calls : List Call

def Launch.passes (l : Launch) : Bool := l.command.accepts l.outcome

def Launch.fault (l : Launch) : Fault := l.command.fault x l.outcome

structure Launch.Starts (l : Launch) (m n : Machine) : Prop where
  outcome : l.command.start x m = (l.outcome, n)
  calls : n.calls = m.calls ++ l.calls

/-- The message of a commit, from the answer to the question what was built. -/
def message (built : Finished) : String :=
  if built.code = 0 && Text.strip built.out ≠ "" then
    s!"Deploying to {x.deploy.branch} from @ {Text.strip built.out}"
  else s!"Deploying to {x.deploy.branch}"

/-- Each phase is named for the command it is about to give. -/
inductive Phase where
  | listing
  | initialising
  | naming
  | cloning
  | adding (isNew : Bool)
  | verifying (isNew : Bool)
  | comparing (isNew : Bool) (message : String)
  | committing (message : String) (unchanged : Bool)
  | pushing
  | reading (changed : Bool)

namespace Phase

def command : Phase → Command
  | .listing => .lsRemote
  | .initialising => .init
  | .naming => .symbolicRef
  | .cloning => .clone
  | .adding _ => .add
  | .verifying _ => .verify
  | .comparing _ _ => .status
  | .committing message unchanged => .commit message unchanged
  | .pushing => .push
  | .reading _ => .head

/-- What is done before the command: the folder is copied before it is added. -/
def prepare : Phase → Act Unit
  | .adding _ => Publisher.replaceTree x.worktree x.source
  | _ => pure ()

/-- Where an answer leads. -/
def next : Phase → Finished → Phase ⊕ Published
  | .listing, heads => .inl (if Text.isBlankText heads.out then .initialising else .cloning)
  | .initialising, _ => .inl .naming
  | .naming, _ => .inl (.adding true)
  | .cloning, _ => .inl (.adding false)
  | .adding isNew, _ => .inl (.verifying isNew)
  | .verifying isNew, built => .inl (.comparing isNew (x.message built))
  | .comparing isNew message, status =>
    .inl (if Text.isBlankText status.out && !isNew then .reading false
      else .committing message (Text.isBlankText status.out))
  | .committing _ _, _ => .inl .pushing
  | .pushing, _ => .inl (.reading true)
  | .reading changed, head => .inr ⟨x.deploy.branch, changed, some (Text.strip head.out)⟩

end Phase

/-- From a phase and a machine on: the commands that are tried, how it ends, and the machine then. -/
inductive Course : Phase → Machine → List Launch → Except Fault Published → Machine → Prop where
  | unprepared {phase m n f} : phase.prepare x m = (.error f, n) → Course phase m [] (.error f) n
  | stopped {phase m k n l} : phase.prepare x m = (.ok (), k) → l.command = phase.command →
      l.Starts x k n → l.passes = false → Course phase m [l] (.error (l.fault x)) n
  | finished {phase m k n l done published} : phase.prepare x m = (.ok (), k) →
      l.command = phase.command → l.Starts x k n → l.passes = true → l.outcome = .ok done →
      phase.next x done = .inr published → Course phase m [l] (.ok published) n
  | went {phase m k n l done later trace outcome e} : phase.prepare x m = (.ok (), k) →
      l.command = phase.command → l.Starts x k n → l.passes = true → l.outcome = .ok done →
      phase.next x done = .inl later → Course later n trace outcome e →
      Course phase m (l :: trace) outcome e

variable {x}

theorem launch_calls (args : List String) (cwd : Option String) (env : Option Env) (m : Machine) :
    (∃ f, Act.launch args cwd env m = (.error f, m)) ∨
    ∃ tree, (Act.launch args cwd env m).2.calls = m.calls ++ [.process args cwd env tree] := by
  have recorded : ∀ (k : Machine) (a : Answer), ∃ tree,
      (k.afterAnswer a args cwd env).calls = k.calls ++ [.process args cwd env tree] :=
    fun k a => ⟨_, rfl⟩
  unfold Act.launch
  split
  next f _ => exact Or.inl ⟨f, rfl⟩
  next =>
    right
    dsimp only
    split
    · exact recorded { m with answers := m.answers.tail } _
    · exact recorded { m with answers := m.answers.tail } _

/-- Every command that is tried is a launch. -/
theorem exists_launch {c : Command} {m n : Machine} {outcome : Except Fault Finished}
    (started : c.start x m = (outcome, n)) :
    ∃ l : Launch, l.command = c ∧ l.outcome = outcome ∧ l.Starts x m n := by
  rcases launch_calls ("git" :: c.args x) (some (Location.text (c.place x))) (c.env m.env) m with
    ⟨f, failed⟩ | ⟨tree, added⟩
  · obtain ⟨rfl, rfl⟩ := Prod.mk.inj (failed.symm.trans started)
    exact ⟨⟨c, .error f, []⟩, rfl, rfl, started, (List.append_nil _).symm⟩
  · rw [Command.start] at started
    rw [started] at added
    exact ⟨⟨c, outcome, [c.call x m.env tree]⟩, rfl, rfl, started, added⟩

theorem git_eq_ask {c : Command} (works : c ≠ .verify) :
    x.publisher.git x.deploy x.worktree (c.args x) = x.ask c := by
  funext m
  have same : Git.run (c.args x) (some (Location.text x.worktree))
      (some (m.env.set "GIT_TERMINAL_PROMPT" "0")) m = c.start x m := by
    simp only [Git.run, Command.start, Command.place, Command.env, if_neg works]
  unfold Publisher.git ask
  rw [bind_of_ok (get_apply m), bind_apply, tryCatch_apply, same]
  cases c.start x m with
  | mk outcome n =>
    cases outcome with
    | error f =>
      by_cases missing : f.isMissing = true
      · simp [Command.accepts, Command.fault, works, missing, Publisher.fail]
      · simp [Command.accepts, Command.fault, works, missing]
    | ok done =>
      by_cases code : done.code = 0
      · simp [Command.accepts, code]
      · simp [Command.accepts, Command.fault, Command.refusal, works, code, Publisher.fail, bind_apply]

theorem commitMessage_eq_ask :
    x.publisher.commitMessage x.deploy.branch = do return x.message (← x.ask .verify) := by
  funext m
  have same : Git.run ["rev-parse", "--verify", "--quiet", "HEAD"]
      (some (Location.text x.publisher.repository)) none m = Command.verify.start x m := rfl
  unfold Publisher.commitMessage
  rw [bind_apply, bind_apply, same, ask]
  cases Command.verify.start x m with
  | mk outcome n =>
    cases outcome with
    | error f => simp [Command.accepts, Command.fault]
    | ok done => simp [Command.accepts, message]

theorem ask_cases (c : Command) (m : Machine) :
    ∃ l : Launch, ∃ n, l.command = c ∧ l.Starts x m n ∧
      ((∃ done, l.passes = true ∧ l.outcome = .ok done ∧ x.ask c m = (.ok done, n)) ∨
        (l.passes = false ∧ x.ask c m = (.error (l.fault x), n))) := by
  cases started : c.start x m with
  | mk outcome n =>
    obtain ⟨l, rfl, rfl, starts⟩ := exists_launch started
    refine ⟨l, n, rfl, starts, ?_⟩
    rw [ask, started]
    cases passed : l.passes with
    | false => exact Or.inr ⟨rfl, if_neg (by simpa [Launch.passes] using passed)⟩
    | true =>
      cases ended : l.outcome with
      | error f => simp [Launch.passes, Command.accepts, ended] at passed
      | ok done =>
        refine Or.inl ⟨done, rfl, rfl, ?_⟩
        rw [← ended]
        exact if_pos passed

variable (x)

/-- On every machine the attempt takes a course from the phase. -/
def Runs (phase : Phase) (act : Act Published) : Prop :=
  ∀ m, ∃ trace, Course x phase m trace (act m).1 (act m).2

/-- The attempt does what follows an answer. -/
def Continues : Phase ⊕ Published → Act Published → Prop
  | .inl later, act => x.Runs later act
  | .inr published, act => act = pure published

variable {x}

theorem Runs.continues {phase later : Phase} {done : Finished} {act : Act Published}
    (runs : x.Runs later act) (leads : phase.next x done = .inl later) :
    x.Continues (phase.next x done) act := by
  rw [leads]
  exact runs

/-- One step of a course: prepare, ask, and go on with the answer. -/
theorem Runs.step (phase : Phase) {prepare : Act Unit} {asks : Act Finished}
    {f : Finished → Act Published} (ready : phase.prepare x = prepare)
    (asked : asks = x.ask phase.command)
    (rest : ∀ done, x.Continues (phase.next x done) (f done)) :
    x.Runs phase (do prepare; f (← asks)) := by
  subst ready asked
  intro m
  cases prepared : phase.prepare x m with
  | mk ready k =>
    cases ready with
    | error e =>
      rw [bind_apply, prepared]
      exact ⟨[], .unprepared prepared⟩
    | ok _ =>
      rw [bind_of_ok prepared]
      obtain ⟨l, n, same, starts, ⟨done, passed, ended, answered⟩ | ⟨failed, answered⟩⟩ :=
        ask_cases (x := x) phase.command k
      · rw [bind_of_ok answered]
        have following := rest done
        cases leads : phase.next x done with
        | inl later =>
          rw [leads] at following
          obtain ⟨trace, course⟩ := following n
          exact ⟨l :: trace, .went prepared same starts passed ended leads course⟩
        | inr published =>
          rw [leads] at following
          rw [show f done = pure published from following]
          exact ⟨[l], .finished prepared same starts passed ended leads⟩
      · rw [bind_apply, answered]
        exact ⟨[l], .stopped prepared same starts failed⟩

/-- A step that needs no preparation. -/
theorem Runs.ask (phase : Phase) {asks : Act Finished} {f : Finished → Act Published}
    (ready : phase.prepare x = pure ()) (asked : asks = x.ask phase.command)
    (rest : ∀ done, x.Continues (phase.next x done) (f done)) :
    x.Runs phase (do f (← asks)) :=
  Runs.step phase ready asked rest

theorem reading_runs (changed : Bool) :
    x.Runs (.reading changed) (do
      return ⟨x.deploy.branch, changed, some (← x.publisher.headCommit x.deploy x.worktree)⟩) := by
  rw [Publisher.headCommit, bind_bind]
  exact .ask _ rfl (git_eq_ask (c := .head) nofun) fun done => rfl

theorem committing_runs (message : String) (unchanged : Bool) :
    x.Runs (.committing message unchanged) (do
      let _ ← x.publisher.git x.deploy x.worktree (x.publisher.commitCommand message unchanged)
      let _ ← x.publisher.git x.deploy x.worktree
        ["push", "--quiet", x.url, s!"HEAD:refs/heads/{x.deploy.branch}"]
      return ⟨x.deploy.branch, true, some (← x.publisher.headCommit x.deploy x.worktree)⟩) := by
  refine .ask _ rfl (git_eq_ask (c := .commit message unchanged) nofun) fun _ => .continues ?_ rfl
  exact .ask _ rfl (git_eq_ask (c := .push) nofun) fun _ => (reading_runs true).continues rfl

/-- Everything that follows the copying of the folder. -/
theorem adding_runs (isNew : Bool) :
    x.Runs (.adding isNew) (do
      Publisher.replaceTree x.worktree x.source
      let _ ← x.publisher.git x.deploy x.worktree ["add", "--all"]
      let message ← x.publisher.commitMessage x.deploy.branch
      let unchanged := Text.isBlankText
        (← x.publisher.git x.deploy x.worktree ["status", "--porcelain"]).out
      if unchanged && !isNew then
        return ⟨x.deploy.branch, false, some (← x.publisher.headCommit x.deploy x.worktree)⟩
      let _ ← x.publisher.git x.deploy x.worktree (x.publisher.commitCommand message unchanged)
      let _ ← x.publisher.git x.deploy x.worktree
        ["push", "--quiet", x.url, s!"HEAD:refs/heads/{x.deploy.branch}"]
      return ⟨x.deploy.branch, true, some (← x.publisher.headCommit x.deploy x.worktree)⟩) := by
  refine .step _ rfl (git_eq_ask (c := .add) nofun) fun _ => .continues ?_ rfl
  rw [commitMessage_eq_ask, bind_bind]
  refine .ask _ rfl rfl fun built => .continues ?_ rfl
  rw [pure_bind_eq]
  refine .ask _ rfl (git_eq_ask (c := .status) nofun) fun status => .continues ?_ rfl
  dsimp only
  split
  · exact reading_runs false
  · exact committing_runs _ _

/-- Publishing takes a course from its first question on. -/
theorem publishIn_runs :
    x.Runs .listing (x.publisher.publishIn x.deploy x.source x.worktree x.url) := by
  unfold Publisher.publishIn Publisher.checkOut
  rw [bind_bind]
  refine .ask _ rfl (git_eq_ask (c := .lsRemote) nofun) fun heads => .continues ?_ rfl
  split
  · rw [bind_bind]
    refine .ask _ rfl (git_eq_ask (c := .init) nofun) fun _ => .continues ?_ rfl
    rw [bind_bind]
    exact .ask _ rfl (git_eq_ask (c := .symbolicRef) nofun) fun _ => (adding_runs true).continues rfl
  · rw [bind_bind]
    exact .ask _ rfl (git_eq_ask (c := .clone) nofun) fun _ => (adding_runs false).continues rfl

/-- What a publish has found when it makes its worktree: its folder is there, and its remote has an
address. The second machine is the one it has then. -/
structure Opens (p : Publisher) (d : Deploy) (m : Machine) (x : Publication) (n : Machine) : Prop where
  publisher : x.publisher = p
  deploy : x.deploy = d
  source : m.resolve ((Path.ofLocation p.repository).child d.folder) = .ok x.source
  present : m.pathIsDir (Path.ofLocation x.source) = .ok true
  address : p.remoteUrl d m = (.ok x.url, n)
  worktree : (Publisher.makeWorktree n).1 = .ok x.worktree

/-- The machine once the worktree is there. -/
def opened (n : Machine) : Machine := (Publisher.makeWorktree n).2

theorem opened_calls (n : Machine) : (opened n).calls = n.calls :=
  (Publisher.makeWorktree_adds n).calls_eq

theorem opened_env (n : Machine) : (opened n).env = n.env :=
  Machine.Adds.env (Publisher.makeWorktree_adds (P := Call.Any) n)

theorem Opens.publish_eq {p : Publisher} {d : Deploy} {m n : Machine} (opens : Opens p d m x n) :
    p.publish d m = (p.publishIn d x.source x.worktree x.url).ensuring
      (Publisher.removeTree x.worktree) (opened n) := by
  obtain ⟨rfl, rfl, source, present, address, worktree⟩ := opens
  have found : Act.resolve ((Path.ofLocation x.publisher.repository).child x.deploy.folder) m =
      (.ok x.source, m) := congrArg (·, m) source
  have there : Act.pathIsDir (Path.ofLocation x.source) m = (.ok true, m) := congrArg (·, m) present
  have made : Publisher.makeWorktree n = (.ok x.worktree, opened n) := Prod.ext worktree rfl
  unfold Publisher.publish
  rw [bind_of_ok found, bind_of_ok there, if_neg (by simp)]
  dsimp only
  rw [bind_of_ok address, bind_of_ok made]

/-- A publish takes a course, and its worktree is removed at the end. -/
theorem Opens.course {p : Publisher} {d : Deploy} {m n : Machine} (opens : Opens p d m x n) :
    ∃ trace e, Course x .listing (opened n) trace (p.publish d m).1 e ∧
      (p.publish d m).2 = Publisher.removeTree x.worktree e := by
  have published := opens.publish_eq
  obtain ⟨rfl, rfl, _⟩ := opens
  obtain ⟨trace, course⟩ := publishIn_runs (x := x) (opened n)
  simp only [published, ensuring_apply]
  exact ⟨trace, _, course, rfl⟩

end Publication
end LocalCI
