import LocalCI.Proofs.Conduct
import LocalCI.Run

/-! Being broken off by the user. What the tool does by itself is broken off just when a program that
it waits for is: no handler keeps an interrupt to itself, and none makes one up. -/
namespace LocalCI

open Attempt

/-- The program is broken off before it ends. -/
def Answer.breaksOff (a : Answer) : Bool :=
  match a.failure with
  | some (.interrupted _) => true
  | _ => false

/-- The answers that programs gave between two states of a machine. -/
def Machine.taken (m n : Machine) : List Answer :=
  m.answers.take (m.answers.length - n.answers.length)

theorem Machine.taken_eq {m n : Machine} {taken : List Answer}
    (given : m.answers = taken ++ n.answers) : m.taken n = taken := by
  rw [Machine.taken, given, List.length_append, Nat.add_sub_cancel, List.take_left]

def brokenOff {α : Type} (r : Except Fault α) : Bool := (fault? r).any Fault.isInterrupt

@[simp] theorem brokenOff_ok {α : Type} (a : α) : brokenOff (.ok a) = false := rfl

@[simp] theorem brokenOff_error {α : Type} (f : Fault) :
    brokenOff (.error f : Except Fault α) = f.isInterrupt := rfl

theorem Fault.isInterrupt_iff {f : Fault} : f.isInterrupt = true ↔ ∃ text, f = .interrupted text := by
  cases f <;> simp [isInterrupt]

theorem brokenOff_iff {α : Type} {r : Except Fault α} :
    brokenOff r = true ↔ ∃ text, r = .error (.interrupted text) := by
  cases r with
  | ok a => simp
  | error f => simp [Fault.isInterrupt_iff]

theorem Fault.isInterrupt_of_isPlain {f : Fault} (plain : f.isPlain = true) : f.isInterrupt = false := by
  cases f <;> first | rfl | cases plain

/-- A refusal that is no interrupt. -/
abbrev Mild {α : Type} (r : Except Fault α) : Prop := Refuses (fun f => f.isInterrupt = false) r

theorem Mild.not_brokenOff {α : Type} {r : Except Fault α} (mild : Mild r) : brokenOff r = false := by
  cases r with
  | ok a => rfl
  | error f => exact mild f rfl

namespace Attempt

variable {σ α β : Type} {answers : σ → List Answer} {x : Attempt σ α} {f : α → Attempt σ β}

def Unbroken (x : Attempt σ α) : Prop := ∀ s, brokenOff (x s).1 = false

/-- No program was started, and nothing broken off. -/
def Undisturbed (answers : σ → List Answer) (s : σ) (e : Option Fault) (t : σ) : Prop :=
  answers t = answers s ∧ e.any Fault.isInterrupt = false

/-- It was broken off just if a program that it waited for was. -/
def Heeded (answers : σ → List Answer) (s : σ) (e : Option Fault) (t : σ) : Prop :=
  ∃ taken, answers s = taken ++ answers t ∧ taken.any Answer.breaksOff = e.any Fault.isInterrupt

instance : Conduct (Undisturbed answers) where
  stays _ := ⟨rfl, rfl⟩
  fails _ plain := ⟨rfl, Fault.isInterrupt_of_isPlain plain⟩
  goesOn _ first rest := ⟨rest.1.trans first.1, rest.2⟩
  closes first last := ⟨last.1.trans first.1, first.2⟩

instance : Conduct (Heeded answers) where
  stays _ := ⟨[], rfl, rfl⟩
  fails _ plain := ⟨[], rfl, (Fault.isInterrupt_of_isPlain plain).symm⟩
  goesOn := by
    rintro s t u e e' plain ⟨taken, given, broken⟩ ⟨more, givenMore, brokenLater⟩
    have mild : e.any Fault.isInterrupt = false := by
      cases e with
      | none => rfl
      | some f => exact Fault.isInterrupt_of_isPlain (plain f rfl)
    refine ⟨taken ++ more, by rw [given, givenMore, List.append_assoc], ?_⟩
    rw [List.any_append, broken, mild, Bool.false_or, brokenLater]
  closes := by
    rintro s t u e ⟨taken, given, broken⟩ ⟨more, givenMore, unbroken⟩
    refine ⟨taken ++ more, by rw [given, givenMore, List.append_assoc], ?_⟩
    rw [List.any_append, unbroken, broken]
    exact Bool.or_false _

/-- It starts no program and is never broken off. -/
abbrev Calm (answers : σ → List Answer) (x : Attempt σ α) : Prop := Conducts (Undisturbed answers) x

/-- It is broken off just when a program that it waits for is. -/
abbrev Attentive (answers : σ → List Answer) (x : Attempt σ α) : Prop := Conducts (Heeded answers) x

/-- The second starts and is broken off as the first: it does something around it that needs no
program. -/
def Echoes (answers : σ → List Answer) (x : Attempt σ α) (y : Attempt σ β) : Prop :=
  ∀ s, answers (y s).2 = answers (x s).2 ∧ brokenOff (y s).1 = brokenOff (x s).1

namespace Calm

theorem throw {e : Fault} (mild : e.isInterrupt = false) :
    Calm answers (throw e : Attempt σ α) := fun _ => ⟨rfl, mild⟩

theorem ofExcept {r : Except Fault α} (mild : Mild r) :
    Calm answers (ofExcept r) := fun _ => ⟨rfl, mild.not_brokenOff⟩

theorem unbroken (calm : Calm answers x) : Unbroken x := fun s => (calm s).2

theorem attentive (calm : Calm answers x) : Attentive answers x := fun s =>
  ⟨[], (calm s).1.symm, (calm s).2.symm⟩

end Calm

namespace Echoes

theorem attentive {y : Attempt σ β} (echoes : Echoes answers x y) (first : Attentive answers x) :
    Attentive answers y := by
  intro s
  obtain ⟨taken, given, broken⟩ := first s
  obtain ⟨same, again⟩ := echoes s
  exact ⟨taken, by rw [same, given], broken.trans again.symm⟩

theorem bind (rest : ∀ a, Calm answers (f a)) : Echoes answers x (x >>= f) := by
  intro s
  rw [bind_apply]
  cases x s with
  | mk outcome t =>
    cases outcome with
    | error e => exact ⟨rfl, rfl⟩
    | ok a => exact rest a t

theorem tryCatch {handle : Fault → Attempt σ α}
    (passes : ∀ text, handle (.interrupted text) = MonadExcept.throw (.interrupted text))
    (rest : ∀ e, e.isInterrupt = false → Calm answers (handle e)) :
    Echoes answers x (tryCatch x handle) := by
  intro s
  rw [tryCatch_apply]
  cases x s with
  | mk outcome t =>
    cases outcome with
    | ok a => exact ⟨rfl, rfl⟩
    | error e =>
      cases interrupt : e.isInterrupt with
      | false =>
        obtain ⟨same, mild⟩ := rest e interrupt t
        exact ⟨same, mild.trans interrupt.symm⟩
      | true =>
        obtain ⟨text, rfl⟩ := Fault.isInterrupt_iff.mp interrupt
        dsimp only
        rw [passes]
        exact ⟨rfl, rfl⟩

theorem attempt_bind {next : Except Fault α → Attempt σ β}
    (passes : ∀ text, next (.error (.interrupted text)) = MonadExcept.throw (.interrupted text))
    (rest : ∀ r, brokenOff r = false → Calm answers (next r)) :
    Echoes answers x (x.attempt >>= next) := by
  intro s
  rw [bind_of_ok (attempt_apply x s)]
  cases ended : brokenOff (x s).1 with
  | false =>
    obtain ⟨same, mild⟩ := rest _ ended (x s).2
    exact ⟨same, mild⟩
  | true =>
    obtain ⟨text, same⟩ := brokenOff_iff.mp ended
    rw [same, passes]
    exact ⟨rfl, rfl⟩

end Echoes

end Attempt

section Mild

theorem Step.directory_mild (workspace : Path) (cwd : Value) : Mild (directory workspace cwd) := by
  unfold directory
  split
  · exact .ok _
  · split
    · exact .ok _
    · exact .error rfl

end Mild

namespace Act

open Machine

theorem print_calm (lines : List Line) : Calm answers (print lines) :=
  print_conducts (fun _ _ => ⟨rfl, rfl⟩) lines

theorem breaksOff_eq (a : Answer) (program : String) :
    a.breaksOff = (a.failure.map fun failure => (failure.fault program).isInterrupt).getD false := by
  unfold Answer.breaksOff
  cases a.failure with
  | none => rfl
  | some failure => cases failure <;> rfl

/-- The one place where an interrupt comes from. -/
theorem launch_attentive (args : List String) (cwd : Option String) (env : Option Env) :
    Attentive answers (launch args cwd env) := by
  intro m
  unfold launch
  split
  next fault refused =>
    obtain ⟨dir, -, refused⟩ := Option.bind_eq_some_iff.mp refused
    exact ⟨[], rfl, (Fault.isInterrupt_of_isPlain (directoryFault?_plain refused)).symm⟩
  next =>
    -- Once the answers are used up, a program ends well.
    have given : m.answers = m.answers.take 1 ++ m.answers.tail := by cases m.answers <;> rfl
    have first : (m.answers.take 1).any Answer.breaksOff = (m.answers.headD {}).breaksOff := by
      cases m.answers with
      | nil => rfl
      | cons a rest => exact Bool.or_false _
    refine ⟨m.answers.take 1, ?_, first.trans ?_⟩
    · dsimp only
      split <;> exact given
    · rw [breaksOff_eq _ (args.headD "")]
      dsimp only
      split
      next failed => rw [failed]; rfl
      next ended => rw [ended]; rfl

end Act

/-- The branch that is checked out can be asked for until the user breaks off. -/
theorem Event.start_attentive (kind branch : Option String) (s : Settings) (workspace : Location) :
    Attentive Machine.answers (start kind branch s workspace) :=
  start_conducts (Act.launch_attentive _ _ _) kind branch s

theorem Checkout.run_attentive (params : Entries) (c : Context) :
    Attentive Machine.answers (run params c) :=
  run_conducts (fun _ _ _ _ _ => Act.launch_attentive _ _ _)
    (fun _ => Act.makeDirs_conducts fun _ _ _ => ⟨[], rfl, rfl⟩)
    (fun _ _ => Act.launch_attentive _ _ _) params

theorem Publisher.publish_attentive (p : Publisher) (d : Deploy) :
    Attentive Machine.answers (p.publish d) :=
  p.publish_conducts d (fun _ _ _ => Act.launch_attentive _ _ _) fun _ _ _ => ⟨[], rfl, rfl⟩

def Session.answers (s : Session) : List Answer := s.machine.answers

namespace JobAct

open Session

variable {α : Type}

theorem onMachine_calm {x : Act α} (calm : Calm Machine.answers x) : Calm answers (onMachine x) :=
  fun s => calm s.machine

theorem onMachine_attentive {x : Act α} (heeds : Attentive Machine.answers x) :
    Attentive answers (onMachine x) := fun s => heeds s.machine

theorem print_calm (lines : List Line) : Calm answers (print lines) :=
  onMachine_calm (Act.print_calm lines)

theorem handOver_calm (declared : Entries) : Calm answers (handOver declared) :=
  .bind .get fun _ => .bind (onMachine_calm (.modify fun _ => ⟨rfl, rfl⟩)) fun _ => .pure _

end JobAct

namespace Step

theorem runShell_attentive (script : String) (cwd : Value) (c : Context) :
    Attentive Machine.answers (runShell script cwd c) := by
  refine .bind (Calm.ofExcept (directory_mild _ _)).attentive fun dir => ?_
  refine .bind (Act.resolve_conducts _) fun place => .bind (Act.pathIsDir_conducts _) fun present => ?_
  split
  · exact .pure _
  · refine .tryCatch (.bind (Act.launch_attentive _ _ _) fun _ => .pure _) fun f => ?_
    split
    next missing => exact Or.inr ⟨Fault.isPlain_of_isMissing missing, .pure _⟩
    next => exact Or.inl rfl

theorem runAction_echoes (handler : Handler) (params : Entries) :
    Echoes Session.answers (handler.run params) (runAction handler params) := by
  refine .tryCatch (fun _ => rfl) fun f mild => ?_
  split
  · exact .pure _
  · exact .throw mild

/-- Running a step is doing what it says in its context. -/
theorem execute_echoes (limit : Int) (step : Step) (s : Session) :
    (step.execute limit s).2.answers =
      (step.perform { s with context := s.context.forStep step }).2.answers ∧
    brokenOff (step.execute limit s).1 =
      brokenOff (step.perform { s with context := s.context.forStep step }).1 := by
  have ends : ∀ reply : Reply, Calm Session.answers (do
      let duration := ((← get).machine.clock - s.machine.clock) / 1000
      let code ← Attempt.ofExcept (exitCode reply.code)
      return (⟨step.name?.getD "", code, tail limit reply.out, tail limit reply.err, duration⟩ :
        StepResult)) := fun reply =>
    .bind .get fun _ => .bind (.ofExcept (exitCode_plain _)) fun _ => .pure _
  exact Echoes.bind (x := JobAct.inContext (s.context.forStep step) step.perform) ends s

theorem execute_attentive {step : Step} (heeds : Attentive Session.answers step.perform)
    (limit : Int) : Attentive Session.answers (step.execute limit) := by
  intro s
  obtain ⟨taken, given, broken⟩ := heeds { s with context := s.context.forStep step }
  obtain ⟨same, again⟩ := step.execute_echoes limit s
  exact ⟨taken, by rw [same]; exact given, broken.trans again.symm⟩

end Step

theorem Provision.installRust_attentive (t : Toolchain) : Attentive Session.answers (installRust t) :=
  installRust_conducts (fun _ _ _ => JobAct.onMachine_attentive (Act.launch_attentive _ _ _))
    (fun _ _ => ⟨[], rfl, rfl⟩) t

theorem provision_echoes {installers : Installers} {t : Toolchain} {installer : Installer}
    (found : installers.find? (Text.lower t.name) = some installer) :
    Echoes Session.answers (Provision.install installer t) (provision installers t) := by
  unfold provision
  rw [found]
  exact .bind fun _ => .bind (.modify fun _ => ⟨rfl, rfl⟩) fun _ => .pure _

end LocalCI
