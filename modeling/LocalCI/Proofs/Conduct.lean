import LocalCI.Checkout
import LocalCI.Proofs.Attempt
import LocalCI.Provision
import LocalCI.Publish
import LocalCI.StartEvent

/-! What the tool does by itself, told once for every relation that can be told part by part. Whatever is
asked for of the programs it starts and of the changes it makes itself, on the machine or to the context of
a job, then holds of checking out, providing a toolchain and publishing. -/
namespace LocalCI

open Attempt

/-- A refusal of the tool itself. -/
abbrev Plain {α : Type} (r : Except Fault α) : Prop := Refuses (fun f => f.isPlain = true) r

section Plain

theorem Fault.isPlain_of_isMissing {f : Fault} (missing : f.isMissing = true) : f.isPlain = true := by
  cases f <;> first | rfl | cases missing

theorem Git.isPlain_of_isRefusal {f : Fault} (refusal : isRefusal f = true) : f.isPlain = true := by
  cases f <;> first | rfl | cases refusal

theorem Path.expandHome_refuses (env : Env) (accounts : Accounts) (p : Path) :
    Refuses (· = .homeUnknown) (p.expandHome env accounts) := by
  unfold expandHome
  split
  · split
    · exact .ok _
    · split
      · split
        · exact .error rfl
        · exact .ok _
      · exact .error rfl
  · exact .ok _

namespace Node

theorem resolve_refuses (root : Node) (cwd : Location) (p : Path) :
    Refuses (fun f => f = .nulInPath ∨ ∃ path, f = .symlinkLoop path) (root.resolve cwd p) := by
  unfold resolve
  split
  · exact .error (Or.inl rfl)
  · dsimp only
    split
    · exact .ok _
    · split
      · exact .error (Or.inr ⟨_, rfl⟩)
      · exact .ok _

theorem find_refuses (root : Node) (cwd : Location) (p : Path) :
    Refuses (fun f => ∃ path, f = .refused .nameTooLong path) (root.find cwd p) := by
  unfold find
  split
  · exact .ok _
  · split
    · exact .ok _
    · exact .error ⟨_, rfl⟩
    · exact .ok _

theorem find_plain (root : Node) (cwd : Location) (p : Path) : Plain (root.find cwd p) := by
  refine (root.find_refuses cwd p).mono ?_
  rintro _ ⟨path, rfl⟩
  rfl

end Node

theorem Machine.resolve_plain (m : Machine) (p : Path) : Plain (m.resolve p) := by
  refine (m.files.resolve_refuses m.cwd p).mono ?_
  rintro _ (rfl | ⟨path, rfl⟩) <;> rfl

theorem Value.asText_plain (room : Nat) (v : Value) : Plain (v.asText room) := by
  unfold asText
  cases v.write room with
  | ok text => exact .ok _
  | error obstacle => cases obstacle <;> exact .error rfl

theorem Provision.cargoBin_plain (machineEnv : Env) (accounts : Accounts) (env : Env) :
    Plain (cargoBin machineEnv accounts env) := by
  unfold cargoBin
  split
  · exact .ok _
  · refine .bind ((Path.expandHome_refuses _ _ _).mono ?_) fun _ _ => .ok _
    rintro _ rfl
    rfl

theorem Step.exitCode_plain (code : Scalar) : Plain (exitCode code) := by
  unfold exitCode
  split
  · exact .ok _
  · exact .ok _
  next text =>
    cases Text.integer text with
    | ok n => exact .ok _
    | error e => exact .error rfl
  next x =>
    cases x.truncate? with
    | none => exact .error rfl
    | some n => exact .ok _
  · exact .error rfl

theorem Line.encode_plain (line : Line) : Plain line.encode := by
  cases line with
  | err text => exact .ok _
  | out text =>
    unfold encode
    dsimp only
    split
    · exact .error rfl
    · exact .ok _

theorem Machine.directoryFault?_plain {m : Machine} {dir : String} {f : Fault}
    (refused : m.directoryFault? dir = some f) : f.isPlain = true := by
  unfold directoryFault? at refused
  split at refused
  · cases refused
    rfl
  · split at refused
    · cases refused
      rfl
    · split at refused
      · cases refused
      · cases refused
        rfl

end Plain

section OnMachine

variable {R : Machine → Option Fault → Machine → Prop} [Conduct R]

namespace Act

theorem printLine_conducts (prints : ∀ m line, R m none { m with printed := m.printed ++ [line] })
    (line : Line) : Conducts R (printLine line) := by
  intro m
  unfold printLine
  rw [bind_of_ok (get_apply m)]
  by_cases encodes : m.encodes = true
  · rw [if_pos encodes]
    have plain := line.encode_plain
    cases encoded : line.encode with
    | error f => exact Conduct.fails m (plain f encoded)
    | ok line => exact prints m line
  · rw [if_neg encodes]
    exact prints m line

theorem print_conducts (prints : ∀ m line, R m none { m with printed := m.printed ++ [line] })
    (lines : List Line) : Conducts R (print lines) := .forM (printLine_conducts prints) lines

theorem ofWorkflow_conducts {α : Type} (r : Except WorkflowError α) : Conducts R (ofWorkflow r) := by
  cases r with
  | ok a => exact .ofExcept (.ok a)
  | error e => exact .ofExcept (.error rfl)

theorem text_conducts (v : Value) : Conducts R (text v) :=
  .bind .get fun m => .ofExcept (v.asText_plain m.room)

theorem resolve_conducts (p : Path) : Conducts R (resolve p) :=
  .bind .get fun m => .ofExcept (m.resolve_plain p)

theorem pathExists_conducts (p : Path) : Conducts R (pathExists p) :=
  .bind .get fun m => .ofExcept ((m.files.find_plain m.cwd p).map _)

theorem pathIsDir_conducts (p : Path) : Conducts R (pathIsDir p) :=
  .bind .get fun m => .ofExcept ((m.files.find_plain m.cwd p).map _)

theorem enter_conducts (l : Location) : Conducts R (enter l) := by
  refine .bind .get fun m => ?_
  split
  · exact .pure _
  · exact .throw rfl

/-- Making a directory makes those on the way to it, as far as that is possible. -/
theorem makeDirs_conducts {l : Location}
    (makes : ∀ m part, part <+: l → R m none { m with files := m.files.ensureDir part }) :
    Conducts R (makeDirs l) := by
  intro m
  unfold makeDirs
  rw [bind_of_ok (get_apply m)]
  cases m.files.lookup [] (Path.ofLocation l) with
  | ok found =>
    dsimp only
    split
    · exact Conduct.stays m
    · exact Conduct.fails m rfl
  | error why =>
    cases why with
    | notDirectory => exact Conduct.fails m rfl
    | tooLong => exact Conduct.fails m rfl
    | _ =>
      dsimp only
      rw [bind_of_ok (set_apply m _)]
      have made := makes m _ (l.takeWhile_prefix fun name => !Node.isTooLong name)
      split
      · exact Conduct.goesOn (e := none) (by simp) made (Conduct.fails _ rfl)
      · exact made

end Act

namespace Git

variable {cwd : Option String}

theorem ask_conducts {args : List String} (starts : Conducts R (run args cwd none)) :
    Conducts R (ask args cwd) := by
  refine .bind starts fun done => ?_
  split
  · exact .pure _
  · exact .throw rfl

theorem isRepository_conducts (starts : Conducts R (run ["rev-parse", "--show-toplevel"] cwd none)) :
    Conducts R (isRepository cwd) := by
  refine .tryCatch (.bind (.bind (ask_conducts starts) fun _ => .pure _) fun _ => .pure _) fun f => ?_
  split
  next refusal => exact Or.inr ⟨isPlain_of_isRefusal refusal, .pure _⟩
  next => exact Or.inl rfl

end Git

/-- Finding the event asks git for the branch at most. -/
theorem Event.start_conducts {workspace : Location}
    (asks : Conducts R (Git.run ["rev-parse", "--abbrev-ref", "HEAD"] (some (Location.text workspace)) none))
    (kind branch : Option String) (s : Settings) : Conducts R (start kind branch s workspace) := by
  unfold start
  dsimp only
  split
  · exact .pure _
  · refine .bind (.tryCatch (Git.ask_conducts asks) fun f => ?_) fun _ => .pure _
    split
    next refusal => exact Or.inr ⟨Git.isPlain_of_isRefusal refusal, .pure _⟩
    next => exact Or.inl rfl

namespace Checkout

variable {env : Env} {target : Location}

section Bring

variable
  (asks : ∀ args given, args.head? ≠ some "clone" → given = none ∨ given = some env →
    Conducts R (Git.run args (some (Location.text target)) given))
  (makes : Conducts R (Act.makeDirs target))
  (clones : ∀ source, Conducts R (Git.run ["clone", source, Location.text target] none (some env)))

include asks makes clones

theorem provide_conducts (repository : Value) : Conducts R (provide repository target env) := by
  refine .bind (Git.isRepository_conducts (asks _ _ (by decide) (Or.inl rfl))) fun present => ?_
  split
  · exact .pure _
  · split
    · exact .pure _
    · exact .bind makes fun _ => .bind (Act.text_conducts _) fun source =>
        .bind (clones source) fun _ => .pure _

/-- A checkout asks git in its directory, makes it, and clones into it. -/
theorem bring_conducts (params : Entries) : Conducts R (bring params env target) := by
  refine .bind (provide_conducts asks makes clones _) fun reply => ?_
  split
  · exact .pure _
  · dsimp only
    by_cases given : (Entries.valueAt params "ref").isTruthy = true
    · simp only [if_pos given, map_bind]
      refine .bind (Act.text_conducts _) fun ref => .bind (asks _ _ ?_ (Or.inr rfl)) fun _ => .pure _
      simp
    · simp only [if_neg given, pure_bind_eq]
      exact .bind (asks _ _ (by decide) (Or.inr rfl)) fun _ => .pure _

end Bring

/-- A checkout does all of it in the place that its parameters name. -/
theorem run_conducts {c : Context}
    (asks : ∀ target args given, args.head? ≠ some "clone" → given = none ∨ given = some c.env →
      Conducts R (Git.run args (some (Location.text target)) given))
    (makes : ∀ target, Conducts R (Act.makeDirs target))
    (clones : ∀ target source,
      Conducts R (Git.run ["clone", source, Location.text target] none (some c.env)))
    (params : Entries) : Conducts R (run params c) := by
  have brings : ∀ below, Conducts R (do
      let target ← Act.resolve (c.workspace.child below)
      bring params c.env target) := fun below =>
    .bind (Act.resolve_conducts _) fun target =>
      bring_conducts (asks target) (makes target) (clones target) params
  unfold run
  dsimp only
  split
  · exact .bind (Act.text_conducts _) brings
  · exact brings "."

end Checkout

namespace Publisher

variable (p : Publisher) (d : Deploy)

theorem fail_conducts {α : Type} (reason : String) : Conducts R (fail d reason : Act α) := .throw rfl

/-- Finding the address starts nothing but the question what the remote is. -/
theorem remoteUrl_conducts (asks : Conducts R (Git.run ["remote", "get-url", p.remote]
    (some (Location.text p.repository)) none)) : Conducts R (p.remoteUrl d) := by
  refine .bind ?_ fun _ => .pure _
  unfold remoteAddress
  split
  · exact .pure _
  · refine .bind (Act.pathExists_conducts _) fun present => ?_
    split
    · exact .bind (Act.resolve_conducts _) fun _ => .pure _
    · refine .tryCatch (Git.ask_conducts asks) fun f => ?_
      split
      · exact Or.inr ⟨rfl, fail_conducts d _⟩
      · split
        next missing => exact Or.inr ⟨Fault.isPlain_of_isMissing missing, fail_conducts d _⟩
        next => exact Or.inl rfl

section Worktree

variable {worktree place : Location}

theorem clear_conducts
    (removes : ∀ m name, R m none { m with files := m.files.remove (place ++ [name]) }) :
    Conducts R (clear worktree place) := by
  refine .bind .get fun m => .forM (fun entry => ?_) _
  unfold clearEntry
  split
  · exact .bind (Act.pathIsDir_conducts _) fun _ => .modify fun m => removes m _
  · exact .pure _

theorem copyInto_conducts {source folder : Location}
    (puts : ∀ m entries, R m none { m with files := Node.put (.dir entries) place m.files }) :
    Conducts R (copyInto worktree place source folder) := by
  intro m
  unfold copyInto
  rw [bind_of_ok (get_apply m)]
  split
  · exact Conduct.fails m rfl
  · dsimp only
    rw [bind_of_ok (set_apply m _)]
    split
    · exact Conduct.goesOn (e := none) (by simp) (puts m _) (Conduct.fails _ rfl)
    · exact puts m _

/-- Copying removes and puts at the place that the worktree is at. -/
theorem replaceTree_conducts
    (removes : ∀ place m name, R m none { m with files := m.files.remove (place ++ [name]) })
    (puts : ∀ place m entries, R m none { m with files := Node.put (.dir entries) place m.files })
    (source : Location) : Conducts R (replaceTree worktree source) :=
  .bind (Act.enter_conducts _) fun place => .bind (clear_conducts (removes place)) fun _ =>
    .bind (Act.enter_conducts _) fun _ => copyInto_conducts (puts place)

end Worktree

/-- A worktree is refused with nothing done, or it gets a name that was free. -/
theorem makeWorktree_cases (m : Machine) :
    (∃ how path, makeWorktree m = (.error (.refused how path), m)) ∨
    ∃ holder number, m.files.enter m.temp = .ok holder ∧
      number = freeNumber ((m.files.entriesAt holder).map Prod.fst) (m.temps + 1) ∧
      makeWorktree m = (.ok (m.temp ++ [worktreeName number]), { m with
        temps := number
        files := Node.put Node.emptyDir (holder ++ [worktreeName number]) m.files }) := by
  unfold makeWorktree
  rw [bind_of_ok (get_apply m)]
  cases m.files.enter m.temp with
  | error why => exact Or.inl ⟨_, _, rfl⟩
  | ok holder =>
    dsimp only
    split
    · exact Or.inl ⟨_, _, rfl⟩
    · cases m.tempRefusal with
      | some how => exact Or.inl ⟨_, _, rfl⟩
      | none => exact Or.inr ⟨holder, _, rfl, rfl, rfl⟩

/-- Removing a worktree changes no more than the files. -/
theorem removeTree_eq (worktree : Location) (m : Machine) :
    ∃ files, removeTree worktree m = { m with files := files } := by
  unfold removeTree
  split
  · exact ⟨_, rfl⟩
  · dsimp only
    split
    · exact ⟨_, rfl⟩
    · exact ⟨_, rfl⟩

theorem makeWorktree_conducts
    (makes : ∀ m number place,
      R m none { m with temps := number, files := Node.put Node.emptyDir place m.files }) :
    Conducts R makeWorktree := by
  intro m
  rcases makeWorktree_cases m with ⟨how, path, refused⟩ | ⟨holder, number, -, -, made⟩
  · rw [refused]
    exact Conduct.fails m rfl
  · rw [made]
    exact makes m _ _

section Launches

variable (launches : ∀ args cwd env, Conducts R (Git.run args cwd env))

include launches

theorem git_conducts (dir : Location) (args : List String) : Conducts R (p.git d dir args) := by
  refine .bind .get fun m => .bind (.tryCatch (launches _ _ _) fun f => ?_) fun done => ?_
  · split
    next missing => exact Or.inr ⟨Fault.isPlain_of_isMissing missing, fail_conducts d _⟩
    next => exact Or.inl rfl
  · split
    · exact .bind (fail_conducts d _) fun _ => .pure _
    · exact .pure _

theorem checkOut_conducts (worktree : Location) (url : String) :
    Conducts R (p.checkOut d worktree url) := by
  have git := p.git_conducts d launches
  refine .bind (git _ _) fun heads => ?_
  split
  · exact .bind (git _ _) fun _ => .bind (git _ _) fun _ => .pure _
  · exact .bind (git _ _) fun _ => .pure _

theorem commitMessage_conducts (branch : String) : Conducts R (p.commitMessage branch) :=
  .bind (launches _ _ _) fun _ => .pure _

theorem headCommit_conducts (worktree : Location) : Conducts R (p.headCommit d worktree) :=
  .bind (p.git_conducts d launches _ _) fun _ => .pure _

/-- Apart from the programs it starts, publishing in a worktree only copies. -/
theorem publishIn_conducts {source worktree : Location} (copies : Conducts R (replaceTree worktree source))
    (url : String) : Conducts R (p.publishIn d source worktree url) := by
  have git := p.git_conducts d launches worktree
  refine .bind (p.checkOut_conducts d launches _ _) fun isNew => .bind copies fun _ =>
    .bind (git _) fun _ => .bind (p.commitMessage_conducts launches _) fun message =>
    .bind (git _) fun status => ?_
  dsimp only
  split
  · exact .bind (p.headCommit_conducts d launches _) fun _ => .pure _
  · exact .bind (git _) fun _ => .bind (git _) fun _ =>
      .bind (p.headCommit_conducts d launches _) fun _ => .pure _

/-- Apart from the programs it starts, publishing changes files and counts worktrees. -/
theorem publish_conducts
    (changes : ∀ m temps files, R m none { m with temps := temps, files := files }) :
    Conducts R (p.publish d) := by
  refine .bind (Act.resolve_conducts _) fun source => .bind (Act.pathIsDir_conducts _) fun present => ?_
  have copies : ∀ worktree, Conducts R (replaceTree worktree source) := fun _ =>
    replaceTree_conducts (fun _ m _ => changes m m.temps _) (fun _ m _ => changes m m.temps _) source
  have removes : ∀ worktree m, R m none (removeTree worktree m) := by
    intro worktree m
    obtain ⟨files, removed⟩ := removeTree_eq worktree m
    rw [removed]
    exact changes m m.temps files
  have publishing : Conducts R (do
      let url ← p.remoteUrl d
      let worktree ← makeWorktree
      (p.publishIn d source worktree url).ensuring (removeTree worktree)) :=
    .bind (p.remoteUrl_conducts d (launches _ _ _)) fun url =>
      .bind (makeWorktree_conducts fun m _ _ => changes m _ _) fun worktree =>
      .ensuring (p.publishIn_conducts d launches (copies _) url) (removes worktree)
  split
  · exact .bind (fail_conducts d _) fun _ => publishing
  · exact publishing

end Launches
end Publisher
end OnMachine

theorem JobAct.context_conducts {R : Session → Option Fault → Session → Prop} [Conduct R] :
    Conducts R context := .bind .get fun _ => .pure _

namespace Provision

variable {R : Session → Option Fault → Session → Prop} [Conduct R]
  (launches : ∀ args cwd env, Conducts R (JobAct.onMachine (Act.launch args cwd env)))
  (changes : ∀ s c, R s none { s with context := c })

section

include changes

omit [Conduct R] in
theorem setVariable_conducts (name value : String) : Conducts R (setVariable name value) :=
  .modify fun s => changes s _

theorem addCargoBin_conducts : Conducts R addCargoBin := by
  refine .bind .get fun s => .bind (.ofExcept (cargoBin_plain _ _ _)) fun dir => ?_
  refine .bind (.ofExcept ((s.machine.files.find_plain _ _).map _)) fun present => ?_
  split
  · exact setVariable_conducts changes _ _
  · exact .pure _

end

include launches

theorem runCommand_conducts (args : List String) : Conducts R (runCommand args) :=
  .bind JobAct.context_conducts fun _ => launches _ _ _

theorem probeVersion_conducts (channel : String) : Conducts R (probeVersion channel) := by
  refine .tryCatch (.bind (runCommand_conducts launches _) fun _ => .pure _) fun f => ?_
  split
  next missing => exact Or.inr ⟨Fault.isPlain_of_isMissing missing, .pure _⟩
  next => exact Or.inl rfl

include changes

/-- Installing starts programs and changes variables of the job. -/
theorem installRust_conducts (t : Toolchain) : Conducts R (installRust t) := by
  refine .bind (addCargoBin_conducts changes) fun _ => ?_
  refine .bind (.tryCatch (runCommand_conducts launches _) fun f => ?_) fun done => ?_
  · split
    next missing => exact Or.inr ⟨Fault.isPlain_of_isMissing missing, .throw rfl⟩
    next => exact Or.inl rfl
  · have installed : Conducts R (do
        let version ← probeVersion t.channel
        if t.override then setVariable "RUSTUP_TOOLCHAIN" t.channel
        return (⟨t.name, t.channel, version, t.override⟩ : Installed)) := by
      refine .bind (probeVersion_conducts launches _) fun version => ?_
      split
      · exact .bind (setVariable_conducts changes _ _) fun _ => .pure _
      · exact .pure _
    dsimp only
    split
    · exact .bind (.throw rfl) fun _ => installed
    · exact installed

end Provision
end LocalCI
