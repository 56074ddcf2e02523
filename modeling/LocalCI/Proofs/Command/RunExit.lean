import LocalCI.Proofs.Command.CheckExit
import LocalCI.Proofs.Run.Fields
import LocalCI.Proofs.Run.Turns

/-! How a run from the command line ends. Once the workflow file is known, an interrupt and every ordinary
fault is turned into an exit code. What goes wrong before that, while the workspace and the file are looked
for, is not, and neither is what code from outside ends the program with. -/
namespace LocalCI.Command

open Attempt

/-- The directory that a run is for. -/
def RunOptions.directory (o : RunOptions) (s : Settings) : Path :=
  Path.ofString ((o.workspace.filter (· ≠ "")).getD s.workspace)

/-- The settings can be read, and the directory can be found. -/
structure Placed (m : Machine) (o : RunOptions) (s : Settings) (workspace : Location) : Prop where
  settled : Settings.ofEnv m.env = .ok s
  resolved : m.resolve (o.directory s) = .ok workspace

/-- There is one workflow file, or it is the one that was named. -/
structure Located (m : Machine) (o : RunOptions) (s : Settings) (workspace : Location) (file : Path) :
    Prop extends Placed m o s workspace where
  found : discover m o.workflow (Path.ofLocation workspace) = .ok (.ok file)

/-- A setting is bad, or there is no workflow file or more than one. -/
inductive Unfound (m : Machine) (o : RunOptions) : Prop where
  | settings (e) : Settings.ofEnv m.env = .error e → Unfound m o
  | file (s workspace lines) : Placed m o s workspace →
      discover m o.workflow (Path.ofLocation workspace) = .ok (.error lines) → Unfound m o

/-- The directory or the workflow file cannot be asked for. -/
inductive Unlocated (m : Machine) (o : RunOptions) : Fault → Prop where
  | directory (s f) : Settings.ofEnv m.env = .ok s → m.resolve (o.directory s) = .error f →
      Unlocated m o f
  | file (s workspace f) : Placed m o s workspace →
      discover m o.workflow (Path.ofLocation workspace) = .error f → Unlocated m o f

/-- The runner that the options and the settings describe. -/
def runnerFor (debug : Bool) (o : RunOptions) (s : Settings) (repository : Location) : Runner where
  workspace := repository
  outputLimit := s.outputLimit
  publisher := some
    { repository := repository
      remote := (o.remote.filter (· ≠ "")).getD s.remote
      token := s.token
      authorName := s.authorName
      authorEmail := s.authorEmail }
  failFast := o.failFast
  deploy := o.deploy
  debug := debug

/-- Everything is in place for the run: the workflow, the event and the repository are known, and so is
the machine that the run begins on. -/
structure Ready (registry : Registry) (o : RunOptions) (s : Settings) (workspace : Location)
    (file : Path) (m : Machine) (w : Workflow) (event : Event) (repository : Location)
    (begun : Machine) : Prop where
  loaded : ∃ n, Workflow.load registry file m = (.ok w, n) ∧
    Event.start o.event o.branch s workspace n = (.ok event, begun)
  repository : begun.resolve (Path.ofLocation workspace) = .ok repository

/-- The user breaks off while the workflow is loaded, the event is made out or the run goes on. -/
inductive Interrupted (registry : Registry) (debug : Bool) (o : RunOptions) (s : Settings)
    (workspace : Location) (file : Path) (m : Machine) : Prop where
  | loading (text) : (Workflow.load registry file m).1 = .error (.interrupted text) →
      Interrupted registry debug o s workspace file m
  | starting (w n) : Workflow.load registry file m = (.ok w, n) →
      (n.taken (Event.start o.event o.branch s workspace n).2).any Answer.breaksOff = true →
      Interrupted registry debug o s workspace file m
  | running (w event repository begun x) :
      Ready registry o s workspace file m w event repository begun →
      x ∈ (runnerFor debug o s repository).runStages w event begun →
      x.isBroken (runnerFor debug o s repository) = true →
      Interrupted registry debug o s workspace file m

/-- The run comes to its end, with a result if it was triggered. -/
def Completes (registry : Registry) (debug : Bool) (o : RunOptions) (m : Machine) (w : Workflow)
    (event : Event) (result : Option WorkflowRun) : Prop :=
  ∃ s workspace file repository begun n, Located m o s workspace file ∧
    Ready registry o s workspace file m w event repository begun ∧
    (runnerFor debug o s repository).run w event begun = (.ok result, n)

/-- An ordinary fault ends the run before it comes to its end. -/
def Aborts (registry : Registry) (debug : Bool) (o : RunOptions) (m : Machine) : Prop :=
  ∃ s workspace file f, Located m o s workspace file ∧
    (runFile registry debug o s workspace file m).1 = .error f ∧ f.isOrdinary = true

/-- A fault that no handler sees ends the run, and it is no interrupt. -/
def Unhandled (registry : Registry) (debug : Bool) (o : RunOptions) (m : Machine) (f : Fault) : Prop :=
  ∃ s workspace file, Located m o s workspace file ∧
    (runFile registry debug o s workspace file m).1 = .error f ∧
    f.isOrdinary = false ∧ f.isInterrupt = false

/-- Code from outside ends with the fault: the script that defines the workflow, what reads its document, or
an action of a job. -/
inductive FromOutside (registry : Registry) (o : RunOptions) (s : Settings) (workspace : Location)
    (file : Path) (m : Machine) (f : Fault) : Prop where
  | script (l) : Workflow.ScriptAt file m l → Workflow.scripted m l = .error f →
      FromOutside registry o s workspace file m f
  | document (l text) : Workflow.YamlAt file m l → Workflow.readText l m = (.ok text, m) →
      m.readYaml text = .error (.fault f) → FromOutside registry o s workspace file m f
  | action (w event repository begun) (j : Job) (step : Step) :
      Ready registry o s workspace file m w event repository begun →
      j ∈ w.jobs → step ∈ j.steps → step.Raises f → FromOutside registry o s workspace file m f

variable {registry : Registry} {debug : Bool} {o : RunOptions} {s : Settings} {m : Machine}
  {workspace : Location} {file : Path} {f : Fault}

theorem runFile_eq : runFile registry debug o s workspace file = (do
    let w ← Workflow.load registry file
    let event ← Event.start o.event o.branch s workspace
    let repository ← Act.resolve (Path.ofLocation workspace)
    return exitCode (← (runnerFor debug o s repository).run w event)) := rfl

section Locating

theorem aborted_isErr (debug : Bool) (f : Fault) :
    ∀ line ∈ Report.aborted debug f, line.isErr = true := by
  cases debug <;> simp [Report.aborted, Line.isErr]

/-- What a run of a known file ends with: an exit code for each result, for an interrupt and for ordinary
faults. -/
def concluded : Except Fault Int → Except Fault Int
  | .ok code => .ok code
  | .error f => if f.isInterrupt then .ok 130 else if f.isOrdinary then .ok 1 else .error f

theorem recover_fst (debug : Bool) (file : Path) (f : Fault) (m : Machine) :
    (recover debug file f m).1 = concluded (.error f) := by
  have aborted : (leave (Report.aborted debug f) 1 m).1 = .ok 1 :=
    leave_errors (aborted_isErr debug f) 1 m
  cases f with
  | workflow e => exact leave_errors (Report.error_isErr _ _ _ _) 1 m
  | interrupted text =>
    have plain : ended "\nInterrupted by user" 130 = .ok 130 :=
      ended_eq_ok.mpr ⟨by decide +kernel, rfl⟩
    refine (leave_out _ 130 m).trans ?_
    rw [plain]
    exact ite_self _
  | exited status => rfl
  | raised kind text ordinary =>
    cases ordinary with
    | true => exact aborted
    | false => rfl
  | _ => exact aborted

theorem discover_isErr {given : Option String} {root : Path} {lines : List Line}
    (unfound : discover m given root = .ok (.error lines)) : ∀ line ∈ lines, line.isErr = true := by
  unfold discover at unfound
  split at unfound
  next name _ =>
    dsimp only at unfound
    cases asked : m.pathExists (Path.ofString name) with
    | error f =>
      rw [asked] at unfound
      cases unfound
    | ok present =>
      rw [asked] at unfound
      cases present with
      | true => cases unfound
      | false =>
        cases unfound
        exact Report.error_isErr _ _ _ _
  next =>
    cases listed : workflowFiles m root with
    | error f =>
      rw [listed] at unfound
      cases unfound
    | ok files =>
      rw [listed] at unfound
      match files with
      | [] =>
        cases unfound
        exact Report.error_isErr _ _ _ _
      | [_] => cases unfound
      | _ :: _ :: _ =>
        cases unfound
        exact Report.error_isErr _ _ _ _

theorem discover_refuses (m : Machine) (given : Option String) (root : Path) :
    Refuses (fun f => ∃ path, f = .refused .nameTooLong path) (discover m given root) := by
  have asking : ∀ p, Refuses (fun f => ∃ path, f = .refused .nameTooLong path) (m.pathExists p) :=
    fun p => (m.files.find_refuses m.cwd p).map _
  unfold discover
  split
  · exact .bind (asking _) fun _ _ => .ok _
  · have listing : Refuses (fun f => ∃ path, f = .refused .nameTooLong path) (workflowFiles m root) := by
      refine .bind (.bind (m.files.find_refuses m.cwd _) fun found _ => ?_) fun yaml _ =>
        .bind (asking _) fun _ _ => .ok _
      split <;> exact .ok _
    refine .bind listing fun files _ => ?_
    split <;> exact .ok _

theorem Unlocated.fault (unlocated : Unlocated m o f) :
    f = .nulInPath ∨ (∃ path, f = .symlinkLoop path) ∨ ∃ path, f = .refused .nameTooLong path := by
  cases unlocated with
  | directory s f settled failed =>
    exact (m.files.resolve_refuses m.cwd _ f failed).imp_right Or.inl
  | file s workspace f placed failed => exact Or.inr (Or.inr (discover_refuses _ _ _ f failed))

theorem run_of_settled (settled : Settings.ofEnv m.env = .ok s) :
    run registry debug o m =
      match m.resolve (o.directory s) with
      | .error f => (.error f, m)
      | .ok workspace =>
        match discover m o.workflow (Path.ofLocation workspace) with
        | .error f => (.error f, m)
        | .ok (.error lines) => leave lines 1 m
        | .ok (.ok file) =>
          tryCatch (runFile registry debug o s workspace file) (recover debug file) m := by
  unfold run
  rw [bind_of_ok (get_apply m), settled]
  change (Act.resolve (o.directory s) >>= _) m = _
  have asked : Act.resolve (o.directory s) m = (m.resolve (o.directory s), m) := rfl
  rw [bind_apply, asked]
  cases m.resolve (o.directory s) with
  | error f => rfl
  | ok workspace =>
    dsimp only
    rw [bind_of_ok (get_apply m), bind_apply, ofExcept_apply]
    cases discover m o.workflow (Path.ofLocation workspace) with
    | error f => rfl
    | ok found => cases found <;> rfl

theorem run_of_unfound (unfound : Unfound m o) : (run registry debug o m).1 = .ok 1 := by
  cases unfound with
  | settings e bad =>
    unfold run
    rw [bind_of_ok (get_apply m), bad]
    exact leave_errors (Report.error_isErr _ _ _ _) 1 m
  | file s workspace lines placed none =>
    rw [run_of_settled placed.settled, placed.resolved]
    dsimp only
    rw [none]
    exact leave_errors (discover_isErr none) 1 m

theorem run_of_unlocated (unlocated : Unlocated m o f) : (run registry debug o m).1 = .error f := by
  cases unlocated with
  | directory s f settled failed => rw [run_of_settled settled, failed]
  | file s workspace f placed failed =>
    rw [run_of_settled placed.settled, placed.resolved]
    dsimp only
    rw [failed]

theorem run_of_located (located : Located m o s workspace file) :
    (run registry debug o m).1 = concluded (runFile registry debug o s workspace file m).1 := by
  rw [run_of_settled located.settled, located.resolved]
  dsimp only
  rw [located.found]
  dsimp only
  rw [tryCatch_apply]
  cases runFile registry debug o s workspace file m with
  | mk outcome n =>
    cases outcome with
    | ok code => rfl
    | error f => exact recover_fst debug file f n

/-- Nothing else can happen before a file is known. -/
theorem locating (m : Machine) (o : RunOptions) :
    Unfound m o ∨ (∃ f, Unlocated m o f) ∨ ∃ s workspace file, Located m o s workspace file := by
  cases settled : Settings.ofEnv m.env with
  | error e => exact Or.inl (.settings e settled)
  | ok s =>
    cases resolved : m.resolve (o.directory s) with
    | error f => exact Or.inr (Or.inl ⟨f, .directory s f settled resolved⟩)
    | ok workspace =>
      have placed : Placed m o s workspace := ⟨settled, resolved⟩
      cases found : discover m o.workflow (Path.ofLocation workspace) with
      | error f => exact Or.inr (Or.inl ⟨f, .file s workspace f placed found⟩)
      | ok answer =>
        cases answer with
        | error lines => exact Or.inl (.file s workspace lines placed found)
        | ok file => exact Or.inr (Or.inr ⟨s, workspace, file, placed, found⟩)

end Locating

theorem runFile_of_ready {w : Workflow} {event : Event} {repository : Location} {begun : Machine}
    (ready : Ready registry o s workspace file m w event repository begun) :
    runFile registry debug o s workspace file m =
      (do return exitCode (← (runnerFor debug o s repository).run w event) : Act Int) begun := by
  obtain ⟨⟨n, loaded, started⟩, resolved⟩ := ready
  have placed : Act.resolve (Path.ofLocation workspace) begun = (.ok repository, begun) :=
    congrArg (·, begun) resolved
  rw [runFile_eq, bind_of_ok loaded, bind_of_ok started, bind_of_ok placed]

theorem runFile_eq_ok {code : Int} :
    (runFile registry debug o s workspace file m).1 = .ok code ↔
      ∃ w event repository begun result n, Ready registry o s workspace file m w event repository begun ∧
        (runnerFor debug o s repository).run w event begun = (.ok result, n) ∧
        exitCode result = code := by
  constructor
  · intro done
    have ended : runFile registry debug o s workspace file m =
        (.ok code, (runFile registry debug o s workspace file m).2) := Prod.ext done rfl
    obtain ⟨w, k, loaded, starting⟩ := bind_eq_ok.mp ended
    obtain ⟨event, begun, started, placing⟩ := bind_eq_ok.mp starting
    obtain ⟨repository, _, placed, running⟩ := bind_eq_ok.mp placing
    obtain ⟨resolved, rfl⟩ := ofExcept_eq_ok.mp placed
    obtain ⟨result, n, ran, code⟩ := bind_eq_ok.mp running
    cases code
    exact ⟨w, event, repository, begun, result, _, ⟨⟨k, loaded, started⟩, resolved⟩, ran, rfl⟩
  · rintro ⟨w, event, repository, begun, result, n, ready, ran, rfl⟩
    rw [runFile_of_ready ready, bind_of_ok ran]
    rfl

/-- A run of a file fails when it is loaded, when the event or the repository is made out, or later. -/
theorem runFile_fails (failed : (runFile registry debug o s workspace file m).1 = .error f) :
    (Workflow.load registry file m).1 = .error f ∨
    (∃ w n, Workflow.load registry file m = (.ok w, n) ∧
      ((Event.start o.event o.branch s workspace n).1 = .error f ∨
        ∃ begun : Machine, begun.resolve (Path.ofLocation workspace) = .error f)) ∨
    ∃ w event repository begun, Ready registry o s workspace file m w event repository begun ∧
      ((runnerFor debug o s repository).run w event begun).1 = .error f := by
  have ended : runFile registry debug o s workspace file m =
      (.error f, (runFile registry debug o s workspace file m).2) := Prod.ext failed rfl
  rcases bind_eq_error.mp ended with unloaded | ⟨w, n, loaded, later⟩
  · exact Or.inl (congrArg Prod.fst unloaded)
  rcases bind_eq_error.mp later with unstarted | ⟨event, begun, started, later⟩
  · exact Or.inr (Or.inl ⟨w, n, loaded, Or.inl (congrArg Prod.fst unstarted)⟩)
  rcases bind_eq_error.mp later with unplaced | ⟨repository, _, placed, later⟩
  · exact Or.inr (Or.inl ⟨w, n, loaded, Or.inr ⟨begun, congrArg Prod.fst unplaced⟩⟩)
  obtain ⟨resolved, rfl⟩ := ofExcept_eq_ok.mp placed
  rcases bind_eq_error.mp later with stopped | ⟨result, _, _, done⟩
  · exact Or.inr (Or.inr ⟨w, event, repository, begun, ⟨⟨n, loaded, started⟩, resolved⟩,
      congrArg Prod.fst stopped⟩)
  · cases done

theorem start_taken (o : RunOptions) (s : Settings) (workspace : Location) (n : Machine) :
    (n.taken (Event.start o.event o.branch s workspace n).2).any Answer.breaksOff =
      brokenOff (Event.start o.event o.branch s workspace n).1 := by
  obtain ⟨taken, given, broken⟩ := Event.start_attentive o.event o.branch s workspace n
  rw [Machine.taken_eq given, broken]
  rfl

/-- A run is broken off just when the user breaks off. -/
theorem runFile_interrupted :
    brokenOff (runFile registry debug o s workspace file m).1 = true ↔
      Interrupted registry debug o s workspace file m := by
  constructor
  · intro broken
    obtain ⟨text, failed⟩ := brokenOff_iff.mp broken
    rcases runFile_fails failed with unloaded | ⟨w, n, loaded, unstarted | ⟨begun, unplaced⟩⟩ |
        ⟨w, event, repository, begun, ready, stopped⟩
    · exact .loading text unloaded
    · refine .starting w n loaded ?_
      rw [start_taken]
      exact brokenOff_iff.mpr ⟨text, unstarted⟩
    · cases Fault.isInterrupt_of_isPlain (begun.resolve_plain _ _ unplaced)
    · have reflects := (runnerFor debug o s repository).run_reflects w event begun
      obtain ⟨x, member, own⟩ :=
        List.any_eq_true.mp (reflects.symm.trans (brokenOff_iff.mpr ⟨text, stopped⟩))
      exact .running w event repository begun x ready member own
  · intro interrupted
    cases interrupted with
    | loading text failed =>
      rw [runFile_eq, bind_of_error (Prod.ext failed rfl)]
      rfl
    | starting w n loaded taken =>
      rw [start_taken] at taken
      obtain ⟨text, failed⟩ := brokenOff_iff.mp taken
      rw [runFile_eq, bind_of_ok loaded, bind_of_error (Prod.ext failed rfl)]
      rfl
    | running w event repository begun x ready member own =>
      have reflects := (runnerFor debug o s repository).run_reflects w event begun
      rw [runFile_of_ready ready, reflects.bind_unbroken fun _ _ => rfl]
      exact List.any_eq_true.mpr ⟨x, member, own⟩

section Codes

variable {result : Option WorkflowRun}

theorem exitCode_eq_zero :
    exitCode result = 0 ↔ ∀ run, result = some run → run.status = .success := by
  cases result with
  | none => simp [exitCode]
  | some run => simp [exitCode, RunStatus.exitCode]

theorem exitCode_eq_one :
    exitCode result = 1 ↔ ∃ run, result = some run ∧ run.status ≠ .success := by
  cases result with
  | none => simp [exitCode]
  | some run => simp [exitCode, RunStatus.exitCode]

theorem exitCode_cases (result : Option WorkflowRun) :
    exitCode result = 0 ∨ exitCode result = 1 := by
  cases result with
  | none => exact Or.inl rfl
  | some run =>
    change run.status.exitCode = 0 ∨ run.status.exitCode = 1
    unfold RunStatus.exitCode
    split
    · exact Or.inl rfl
    · exact Or.inr rfl

variable {r : Except Fault Int}

/-- A fault is an interrupt, an ordinary fault or neither, and ends a run accordingly. -/
theorem concluded_error (f : Fault) :
    f.isInterrupt = true ∧ f.isOrdinary = false ∧ concluded (.error f) = .ok 130 ∨
    f.isInterrupt = false ∧ f.isOrdinary = true ∧ concluded (.error f) = .ok 1 ∨
    f.isInterrupt = false ∧ f.isOrdinary = false ∧ concluded (.error f) = .error f := by
  cases interrupt : f.isInterrupt with
  | true =>
    obtain ⟨text, rfl⟩ := Fault.isInterrupt_iff.mp interrupt
    exact Or.inl ⟨rfl, rfl, rfl⟩
  | false => cases ordinary : f.isOrdinary <;> simp [concluded, interrupt, ordinary]

theorem concluded_eq_zero : concluded r = .ok 0 ↔ r = .ok 0 := by
  cases r with
  | ok code => rfl
  | error f => rcases concluded_error f with ⟨_, _, same⟩ | ⟨_, _, same⟩ | ⟨_, _, same⟩ <;> simp [same]

theorem concluded_eq_one :
    concluded r = .ok 1 ↔ r = .ok 1 ∨ ∃ f, r = .error f ∧ f.isOrdinary = true := by
  cases r with
  | ok code => simp [concluded]
  | error f =>
    rcases concluded_error f with ⟨_, loud, same⟩ | ⟨_, ordinary, same⟩ | ⟨_, loud, same⟩
    · simp [same, loud]
    · simp [same, ordinary]
    · simp [same, loud]

theorem concluded_eq_error {f : Fault} :
    concluded r = .error f ↔ r = .error f ∧ f.isOrdinary = false ∧ f.isInterrupt = false := by
  cases r with
  | ok code => simp [concluded]
  | error g =>
    constructor
    · intro failed
      rcases concluded_error g with ⟨_, _, same⟩ | ⟨_, _, same⟩ | ⟨mild, loud, same⟩
      · cases same.symm.trans failed
      · cases same.symm.trans failed
      · cases same.symm.trans failed
        exact ⟨rfl, loud, mild⟩
    · rintro ⟨⟨⟩, loud, mild⟩
      simp [concluded, loud, mild]

/-- No code of a run is taken for an interrupt. -/
theorem concluded_eq_interrupted (own : ∀ code, r = .ok code → code = 0 ∨ code = 1) :
    concluded r = .ok 130 ↔ brokenOff r = true := by
  cases r with
  | ok code => rcases own code rfl with rfl | rfl <;> simp [concluded]
  | error f =>
    rcases concluded_error f with ⟨interrupt, _, same⟩ | ⟨mild, _, same⟩ | ⟨mild, _, same⟩
    · simp [same, interrupt]
    · simp [same, mild]
    · simp [same, mild]

theorem concluded_cases {code : Int} (own : ∀ code, r = .ok code → code = 0 ∨ code = 1)
    (done : concluded r = .ok code) : code = 0 ∨ code = 1 ∨ code = 130 := by
  cases r with
  | ok result =>
    cases done
    exact (own code rfl).imp_right Or.inl
  | error f =>
    rcases concluded_error f with ⟨_, _, same⟩ | ⟨_, _, same⟩ | ⟨_, _, same⟩
    · cases same.symm.trans done
      exact Or.inr (Or.inr rfl)
    · cases same.symm.trans done
      exact Or.inr (Or.inl rfl)
    · cases same.symm.trans done

theorem runFile_codes {code : Int}
    (done : (runFile registry debug o s workspace file m).1 = .ok code) : code = 0 ∨ code = 1 := by
  obtain ⟨_, _, _, _, result, _, _, _, rfl⟩ := runFile_eq_ok.mp done
  exact exitCode_cases result

end Codes

theorem Completes.idle_iff {w : Workflow} {event : Event} {result : Option WorkflowRun}
    (completes : Completes registry debug o m w event result) :
    result = none ↔ Trigger.starts (Trigger.listed w.triggers) event.kind event.branch = false := by
  obtain ⟨s, workspace, file, repository, begun, n, _, _, ran⟩ := completes
  constructor
  · rintro rfl
    rw [← Bool.not_eq_true]
    intro starts
    obtain ⟨run, _, _, _, same, _⟩ := Runner.run_consists starts ran
    cases same
  · exact fun idle => Runner.run_none idle ran

/-- A run that is not triggered and a run that succeeds end the same way. -/
theorem exists_completes_zero :
    (∃ s workspace file, Located m o s workspace file ∧
      (runFile registry debug o s workspace file m).1 = .ok 0) ↔
    ∃ w event result, Completes registry debug o m w event result ∧
      (Trigger.starts (Trigger.listed w.triggers) event.kind event.branch = false ∨
        ∃ run, result = some run ∧ run.status = .success) := by
  constructor
  · rintro ⟨s, workspace, file, located, done⟩
    obtain ⟨w, event, repository, begun, result, n, ready, ran, code⟩ := runFile_eq_ok.mp done
    have completes : Completes registry debug o m w event result :=
      ⟨s, workspace, file, repository, begun, n, located, ready, ran⟩
    refine ⟨w, event, result, completes, ?_⟩
    cases result with
    | none => exact Or.inl (completes.idle_iff.mp rfl)
    | some run => exact Or.inr ⟨run, rfl, exitCode_eq_zero.mp code run rfl⟩
  · rintro ⟨w, event, result, completes, passed⟩
    have code : exitCode result = 0 := by
      rcases passed with idle | ⟨run, rfl, success⟩
      · rw [completes.idle_iff.mpr idle]
        rfl
      · exact exitCode_eq_zero.mpr fun _ same => by cases same; exact success
    obtain ⟨s, workspace, file, repository, begun, n, located, ready, ran⟩ := completes
    exact ⟨s, workspace, file, located,
      runFile_eq_ok.mpr ⟨w, event, repository, begun, result, n, ready, ran, code⟩⟩

theorem exists_completes_one :
    (∃ s workspace file, Located m o s workspace file ∧
      (runFile registry debug o s workspace file m).1 = .ok 1) ↔
    ∃ w event run, Completes registry debug o m w event (some run) ∧ run.status ≠ .success := by
  constructor
  · rintro ⟨s, workspace, file, located, done⟩
    obtain ⟨w, event, repository, begun, result, n, ready, ran, code⟩ := runFile_eq_ok.mp done
    obtain ⟨run, rfl, failed⟩ := exitCode_eq_one.mp code
    exact ⟨w, event, run, ⟨s, workspace, file, repository, begun, n, located, ready, ran⟩, failed⟩
  · rintro ⟨w, event, run, ⟨s, workspace, file, repository, begun, n, located, ready, ran⟩, failed⟩
    have code : exitCode (some run) = 1 := exitCode_eq_one.mpr ⟨run, rfl, failed⟩
    exact ⟨s, workspace, file, located,
      runFile_eq_ok.mpr ⟨w, event, repository, begun, some run, n, ready, ran, code⟩⟩

/-- Which exit code a run has. -/
theorem run_eq_ok {code : Int} :
    (run registry debug o m).1 = .ok code ↔
      Unfound m o ∧ code = 1 ∨ ∃ s workspace file, Located m o s workspace file ∧
        concluded (runFile registry debug o s workspace file m).1 = .ok code := by
  constructor
  · intro done
    rcases locating m o with unfound | ⟨f, unlocated⟩ | ⟨s, workspace, file, located⟩
    · rw [run_of_unfound unfound] at done
      cases done
      exact Or.inl ⟨unfound, rfl⟩
    · rw [run_of_unlocated unlocated] at done
      cases done
    · rw [run_of_located located] at done
      exact Or.inr ⟨s, workspace, file, located, done⟩
  · rintro (⟨unfound, rfl⟩ | ⟨s, workspace, file, located, done⟩)
    · exact run_of_unfound unfound
    · exact (run_of_located located).trans done

theorem run_eq_error :
    (run registry debug o m).1 = .error f ↔ Unlocated m o f ∨ Unhandled registry debug o m f := by
  constructor
  · intro failed
    rcases locating m o with unfound | ⟨g, unlocated⟩ | ⟨s, workspace, file, located⟩
    · rw [run_of_unfound unfound] at failed
      cases failed
    · rw [run_of_unlocated unlocated] at failed
      cases failed
      exact Or.inl unlocated
    · rw [run_of_located located] at failed
      exact Or.inr ⟨s, workspace, file, located, concluded_eq_error.mp failed⟩
  · rintro (unlocated | ⟨s, workspace, file, located, unhandled⟩)
    · exact run_of_unlocated unlocated
    · exact (run_of_located located).trans (concluded_eq_error.mpr unhandled)

section Outside

theorem load_fromOutside (loud : f.isOrdinary = false)
    (failed : (Workflow.load registry file m).1 = .error f) :
    FromOutside registry o s workspace file m f := by
  have unforeseen : f.isForeseen = false := by cases f <;> first | rfl | cases loud
  have ordinary : f.isOrdinary ≠ true := by simp [loud]
  cases Workflow.unforeseen_of_load failed unforeseen with
  | unplaced f placed => exact absurd (Workflow.place_refuses _ _ f placed).2 ordinary
  | unasked l f _ asked => exact absurd (Workflow.pathExists_refuses _ _ f asked).2 ordinary
  | valueless l text f here held document => exact .document l text here held document
  | failing l f here failed => exact .script l here failed
  | _ => cases loud

/-- The tool comes with an installer of its own only. -/
theorem runnerFor_installer? (j : Job) (repository : Location) :
    (runnerFor debug o s repository).installer? j = none := by
  cases asked : j.toolchain with
  | none => simp [Runner.installer?, asked]
  | some t => simp [Runner.installer?, asked, runnerFor, Installers.builtin, Installers.find?]

/-- A fault that no handler sees comes from outside, or it is an interrupt. -/
theorem runFile_fromOutside (failed : (runFile registry debug o s workspace file m).1 = .error f)
    (loud : f.isOrdinary = false) (mild : f.isInterrupt = false) :
    FromOutside registry o s workspace file m f := by
  have other : f.isPlain = false := by simp [Fault.isPlain, loud]
  rcases runFile_fails failed with unloaded | ⟨w, n, _, unstarted | ⟨begun, unplaced⟩⟩ |
      ⟨w, event, repository, begun, ready, stopped⟩
  · exact load_fromOutside loud unloaded
  · have explained : Explains (fun _ => False) (Event.start o.event o.branch s workspace) :=
      Event.start_conducts (Act.launch_explains _ _ _) _ _ _
    exact (explained.refuses n f unstarted other mild).elim
  · exact absurd (begun.resolve_plain _ f unplaced) (by simp [other])
  · have explained := (runnerFor debug o s repository).run_explains w event
    obtain ⟨j, member, ⟨step, listed, cause⟩ | ⟨routine, _, installs, _⟩⟩ :=
      explained.refuses begun f stopped other mild
    · rcases cause with bad | ⟨_, raises⟩
      · rw [step.isOrdinary_of_fieldFaults bad] at loud
        cases loud
      · exact .action w event repository begun j step ready member listed raises
    · rw [runnerFor_installer?] at installs
      cases installs

end Outside

/-- A run ends with zero if it was not triggered or succeeded, with 130 if the user broke it off, and
with one if it failed or could not be made. A directory or a file that cannot be asked for ends it without a
code, and so does code from outside that ends the program. How the command line and the documents are read
makes no difference. -/
theorem run_exits {read : Env → List String → Invocation} {args : List String}
    (asked : read m.env args = .request debug (.run o)) :
    let start : Machine := { m with encodes := true }
    let outcome := (executeWith read registry args m).1
    (outcome = .ok 0 ↔ ∃ w event result, Completes registry debug o start w event result ∧
      (Trigger.starts (Trigger.listed w.triggers) event.kind event.branch = false ∨
        ∃ run, result = some run ∧ run.status = .success)) ∧
    (outcome = .ok 130 ↔ ∃ s workspace file, Located start o s workspace file ∧
      Interrupted registry debug o s workspace file start) ∧
    (outcome = .ok 1 ↔ Unfound start o ∨
      (∃ w event run, Completes registry debug o start w event (some run) ∧ run.status ≠ .success) ∨
      Aborts registry debug o start) ∧
    (∀ code, outcome = .ok code → code = 0 ∨ code = 1 ∨ code = 130) ∧
    (∀ f, outcome = .error f ↔ Unlocated start o f ∨ Unhandled registry debug o start f) ∧
    ∀ f, outcome = .error f →
      f = .nulInPath ∨ (∃ path, f = .symlinkLoop path) ∨ (∃ path, f = .refused .nameTooLong path) ∨
      ∃ s workspace file, Located start o s workspace file ∧
        FromOutside registry o s workspace file start f := by
  intro start outcome
  have ran : outcome = (run registry debug o start).1 :=
    congrArg Prod.fst (executeWith_of_request asked)
  rw [ran]
  refine ⟨?_, ?_, ?_, ?_, fun f => run_eq_error, fun f failed => ?_⟩
  · rw [run_eq_ok, ← exists_completes_zero]
    simp [concluded_eq_zero]
  · rw [run_eq_ok]
    simp [concluded_eq_interrupted fun _ => runFile_codes, runFile_interrupted]
  · rw [run_eq_ok, ← exists_completes_one]
    simp only [concluded_eq_one, and_true]
    refine or_congr_right ?_
    constructor
    · rintro ⟨s, workspace, file, located, done | ⟨f, failed, ordinary⟩⟩
      · exact Or.inl ⟨s, workspace, file, located, done⟩
      · exact Or.inr ⟨s, workspace, file, f, located, failed, ordinary⟩
    · rintro (⟨s, workspace, file, located, done⟩ | ⟨s, workspace, file, f, located, failed, ordinary⟩)
      · exact ⟨s, workspace, file, located, Or.inl done⟩
      · exact ⟨s, workspace, file, located, Or.inr ⟨f, failed, ordinary⟩⟩
  · intro code done
    rcases run_eq_ok.mp done with ⟨_, rfl⟩ | ⟨_, _, _, _, done⟩
    · exact Or.inr (Or.inl rfl)
    · exact concluded_cases (fun _ => runFile_codes) done
  · rcases run_eq_error.mp failed with unlocated | ⟨s, workspace, file, located, failed, loud, mild⟩
    · exact unlocated.fault.imp_right (Or.imp_right Or.inl)
    · exact Or.inr (Or.inr (Or.inr ⟨s, workspace, file, located, runFile_fromOutside failed loud mild⟩))

/-- The user breaks off the first step of the workflow. -/
def interruptedMachine : Machine :=
  { pushMachine with answers := [{ failure := some (.interrupted "") }] }

theorem run_exits_interrupted :
    let args := ["run", "--event", "push", "--branch", "main", "--workflow", "ci.yml"]
    let o : RunOptions := { workflow := some "ci.yml", event := some "push", branch := some "main" }
    let start : Machine := { interruptedMachine with encodes := true }
    Invocation.read interruptedMachine.env args = .request false (.run o) ∧
    (execute .builtin args interruptedMachine).1 = .ok 130 ∧
    ∃ s workspace file, Located start o s workspace file ∧
      Interrupted .builtin false o s workspace file start := by
  intro args o start
  have asked : Invocation.read interruptedMachine.env args = .request false (.run o) := by
    decide +kernel
  have ended : (execute .builtin args interruptedMachine).1 = .ok 130 :=
    eq_ok_of_toOption (by decide +kernel)
  exact ⟨asked, ended, (run_exits asked).2.1.mp ended⟩

/-- The directory is a link that leads to itself. -/
def loopMachine : Machine where
  files := .dir [("loop", .link "loop")]
  cwd := []
  temp := []

theorem run_ends_without_code :
    (execute .builtin ["run", "--workspace", "loop"] loopMachine).1 =
      .error (.symlinkLoop "/loop") := by
  have asked : Invocation.read loopMachine.env ["run", "--workspace", "loop"] =
      .request false (.run { workspace := some "loop" }) := by decide +kernel
  rw [execute, executeWith_of_request asked]
  rfl

end LocalCI.Command
