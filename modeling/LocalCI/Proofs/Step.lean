import LocalCI.Execution
import LocalCI.Proofs.Record
import LocalCI.Proofs.Text.Numeral
import LocalCI.Proofs.Workflow.Loading

/-! What running one step comes to. A step gives a result, whether it goes well or not, and what else
can come of it is listed. A script ends a run when the system refuses to start its shell in any other way
than by not finding it, or cannot look its directory up. An action ends a run when it replies with a code
that stands for no whole number, or with a fault that is no ordinary one. -/
namespace LocalCI

open Attempt

/-- Null or a text. -/
def Value.isOptionalText : Value → Bool
  | .scalar .null => true
  | .scalar (.text _) => true
  | _ => false

/-- The whole number that a code stands for: its own, that of a truth value, the one that is written in
a text, or a real without its fraction. -/
inductive Scalar.Represents : Scalar → Int → Prop where
  | int (n : Int) : Represents (.int n) n
  | bool (b : Bool) : Represents (.bool b) (if b then 1 else 0)
  | real {x : Binary64} {n : Int} : x.truncate? = some n → Represents (.real x) n
  | text {s : String} {n : Int} : Text.Numeral s.toList n → Represents (.text s) n

namespace Step

/-- The session in which the step does what it says. -/
def own (step : Step) (s : Session) : Session := { s with context := s.context.forStep step }

/-- A reply makes a result if its code stands for a whole number. -/
theorem execute_fst (limit : Int) (step : Step) (s : Session) :
    (step.execute limit s).1 = match step.perform (step.own s) with
      | (.error f, _) => .error f
      | (.ok reply, t) => (exitCode reply.code).map fun code =>
        ⟨step.name?.getD "", code, tail limit reply.out, tail limit reply.err,
          (t.machine.clock - s.machine.clock) / 1000⟩ := by
  have inner : JobAct.inContext (s.context.forStep step) step.perform s =
      ((step.perform (step.own s)).1, { (step.perform (step.own s)).2 with context := s.context }) := rfl
  unfold execute
  rw [bind_of_ok (get_apply s), bind_of_ok (show JobAct.context s = (.ok s.context, s) from rfl),
    bind_apply, inner]
  cases step.perform (step.own s) with
  | mk outcome t =>
    cases outcome with
    | error f => rfl
    | ok reply =>
      dsimp only
      rw [bind_of_ok (get_apply _), bind_apply, ofExcept_apply]
      cases exitCode reply.code with
      | error f => rfl
      | ok code => rfl

section Shell

/-- What becomes of the script of a shell step. -/
inductive Start where
  /-- Its directory cannot be looked up. -/
  | unplaced (f : Fault)
  /-- There is no such directory. -/
  | absent (dir : Location)
  /-- The shell is not started, or what it printed is no text. -/
  | refused (f : Fault)
  | ended (done : Finished)

def start (script : String) (cwd : Value) (c : Context) (m : Machine) : Start :=
  match directory c.workspace cwd with
  | .error f => .unplaced f
  | .ok path =>
    match m.resolve path with
    | .error f => .unplaced f
    | .ok dir =>
      match m.pathIsDir (Path.ofLocation dir) with
      | .error f => .unplaced f
      | .ok false => .absent dir
      | .ok true =>
        match (Act.launch (shellCommand ++ [script]) (some (Location.text dir)) (some c.env) m).1 with
        | .error f => .refused f
        | .ok done => .ended done

def Start.reply : Start → Except Fault Reply
  | .unplaced f => .error f
  | .absent dir => .ok (unstarted s!"working directory not found: {Location.text dir}")
  | .refused f => if f.isMissing then .ok (unstarted f.message) else .error f
  | .ended done => .ok done.reply

theorem runShell_fst (script : String) (cwd : Value) (c : Context) (m : Machine) :
    (runShell script cwd c m).1 = (start script cwd c m).reply := by
  unfold runShell start
  cases directory c.workspace cwd with
  | error f => rfl
  | ok path =>
    rw [bind_of_ok (ofExcept_apply _ m), bind_apply, Act.resolve_apply]
    dsimp only
    cases m.resolve path with
    | error f => rfl
    | ok dir =>
      dsimp only
      rw [bind_apply, Act.pathIsDir_apply]
      cases m.pathIsDir (Path.ofLocation dir) with
      | error f => rfl
      | ok present =>
        cases present with
        | false => rfl
        | true =>
          dsimp only
          rw [if_neg (by simp), tryCatch_apply, bind_apply]
          cases Act.launch (shellCommand ++ [script]) (some (Location.text dir)) (some c.env) m with
          | mk outcome n =>
            cases outcome with
            | ok done => rfl
            | error f =>
              dsimp only [Start.reply]
              split <;> rfl

/-- The step comes to a result: its script ran, or there was no directory or no shell for it. -/
def Start.isReported : Start → Bool
  | .unplaced _ => false
  | .absent _ => true
  | .refused f => f.isMissing
  | .ended _ => true

/-- A script that was not started has a code of its own. -/
def Start.exitCode : Start → Int
  | .ended done => done.code
  | _ => 127

/-- What ends the run instead. -/
inductive Start.Escapes : Start → Fault → Prop where
  | nul : Escapes (.unplaced .nulInPath) .nulInPath
  | loop (path : String) : Escapes (.unplaced (.symlinkLoop path)) (.symlinkLoop path)
  | tooLong (path : String) :
      Escapes (.unplaced (.refused .nameTooLong path)) (.refused .nameTooLong path)
  | refused {f : Fault} : f.isMissing = false → Escapes (.refused f) f

theorem directory_succeeds {cwd : Value} (declared : cwd.isOptionalText = true) (workspace : Path) :
    ∃ path, directory workspace cwd = .ok path := by
  unfold directory
  split
  · exact ⟨_, rfl⟩
  next filled =>
    unfold Value.isOptionalText at declared
    split at declared
    next => simp [Value.isTruthy, Scalar.isTruthy] at filled
    next dir => exact ⟨_, rfl⟩
    next => cases declared

/-- A directory that is declared as a text can only be out of the system's reach. -/
theorem escapes_of_unplaced {script : String} {cwd : Value} {c : Context} {m : Machine} {f : Fault}
    (declared : cwd.isOptionalText = true) (unplaced : start script cwd c m = .unplaced f) :
    (start script cwd c m).Escapes f := by
  rw [unplaced]
  unfold start at unplaced
  obtain ⟨path, found⟩ := directory_succeeds declared c.workspace
  rw [found] at unplaced
  dsimp only at unplaced
  split at unplaced
  next fault unresolved =>
    cases unplaced
    rcases m.files.resolve_refuses m.cwd path _ unresolved with rfl | ⟨loop, rfl⟩
    · exact .nul
    · exact .loop loop
  next dir _ =>
    split at unplaced
    next fault unasked =>
      cases unplaced
      obtain ⟨long, rfl⟩ := (m.files.find_refuses m.cwd (Path.ofLocation dir)).map _ _ unasked
      exact .tooLong long
    next => cases unplaced
    next => split at unplaced <;> cases unplaced

theorem Start.exists_reply {begun : Start} (reported : begun.isReported = true) :
    ∃ out err, begun.reply = .ok ⟨.int begun.exitCode, out, err⟩ := by
  cases begun with
  | unplaced f => cases reported
  | absent dir => exact ⟨_, _, rfl⟩
  | refused f => exact ⟨_, _, if_pos reported⟩
  | ended done => exact ⟨_, _, rfl⟩

theorem Start.exists_error {begun : Start} (unreported : begun.isReported = false) :
    ∃ f, begun.reply = .error f ∧ (begun = .unplaced f ∨ begun = .refused f ∧ f.isMissing = false) := by
  cases begun with
  | unplaced f => exact ⟨f, rfl, Or.inl rfl⟩
  | absent dir => cases unreported
  | refused f => exact ⟨f, if_neg (Bool.eq_false_iff.mp unreported), Or.inr ⟨rfl, unreported⟩⟩
  | ended done => cases unreported

/-- A workspace with one directory in it, on a machine whose programs answer as given. -/
def bench (answers : List Answer) : Session where
  context := { workspace := Path.ofLocation ["ws"] }
  machine := { files := .dir [("ws", .dir [("src", .dir [])])], cwd := ["ws"], temp := ["tmp"]
               answers := answers }

end Shell

section Action

theorem exitCode_ok_iff {code : Scalar} {n : Int} : exitCode code = .ok n ↔ code.Represents n := by
  constructor
  · intro read
    unfold exitCode at read
    split at read
    next k =>
      cases read
      exact .int _
    next b =>
      cases read
      exact .bool _
    next s =>
      cases number : Text.integer s with
      | error e =>
        rw [number] at read
        cases read
      | ok k =>
        rw [number] at read
        cases read
        exact .text (Text.integer_ok_iff.mp number)
    next x =>
      cases whole : x.truncate? with
      | none =>
        rw [whole] at read
        cases read
      | some k =>
        rw [whole] at read
        cases read
        exact .real whole
    next => cases read
  · intro stands
    cases stands with
    | int => rfl
    | bool b => rfl
    | real whole => rw [exitCode, whole]; rfl
    | text numeral => rw [exitCode, Text.integer_ok_iff.mpr numeral]; rfl

theorem exitCode_refuses (code : Scalar) :
    Refuses (fun f => f = .noExitCode code ∨ ∃ e, f = .noInteger e) (exitCode code) := by
  unfold exitCode
  split
  · exact .ok _
  · exact .ok _
  next s =>
    cases Text.integer s with
    | ok n => exact .ok _
    | error e => exact .error (Or.inr ⟨e, rfl⟩)
  next x =>
    cases x.truncate? with
    | none => exact .error (Or.inl rfl)
    | some n => exact .ok _
  · exact .error (Or.inl rfl)

variable (limit : Int) (name uses : String) (handler : Handler) (params : Entries) (env : Env)
  (s : Session)

theorem execute_action_raised {f : Fault}
    (raised : (handler.run params ((Step.action name uses handler params env).own s)).1 = .error f)
    (ordinary : f.isOrdinary = true) :
    ∃ r, ((Step.action name uses handler params env).execute limit s).1 = .ok r ∧ r.exitCode = 1 := by
  rw [execute_fst]
  unfold perform runAction
  dsimp only
  rw [tryCatch_apply]
  cases ran : handler.run params ((Step.action name uses handler params env).own s) with
  | mk outcome t =>
    rw [ran] at raised
    cases raised
    dsimp only
    rw [if_pos ordinary]
    exact ⟨_, rfl, rfl⟩

theorem execute_action_replied {reply : Reply}
    (replied : (handler.run params ((Step.action name uses handler params env).own s)).1 = .ok reply) :
    ∃ result : Int → StepResult, (∀ code, (result code).exitCode = code) ∧
      ((Step.action name uses handler params env).execute limit s).1 =
        (exitCode reply.code).map result := by
  rw [execute_fst]
  unfold perform runAction
  dsimp only
  rw [tryCatch_apply]
  cases ran : handler.run params ((Step.action name uses handler params env).own s) with
  | mk outcome t =>
    rw [ran] at replied
    cases replied
    exact ⟨_, fun _ => rfl, rfl⟩

/-- A step whose action raises, or replies with a code, gives a result if the code stands for a whole
number. It is failed unless the action replied and the number is zero. -/
theorem execute_action_returns {ended : Except Fault Reply}
    (ends : (handler.run params ((Step.action name uses handler params env).own s)).1 = ended)
    (exception : ∀ f, ended = .error f → f.isOrdinary = true) :
    let outcome := ((Step.action name uses handler params env).execute limit s).1
    ((∃ r, outcome = .ok r) ↔ ∀ reply, ended = .ok reply → ∃ n, reply.code.Represents n) ∧
    (∀ r, outcome = .ok r → (r.failed = true ↔
      (∃ f, ended = .error f) ∨ ∃ reply, ended = .ok reply ∧ ¬ reply.code.Represents 0)) ∧
    ∀ f, outcome = .error f → ∃ reply, ended = .ok reply ∧
      (f = .noExitCode reply.code ∨ ∃ e, f = .noInteger e) := by
  intro outcome
  cases ended with
  | error f =>
    obtain ⟨r, done, code⟩ := execute_action_raised limit name uses handler params env s ends
      (exception f rfl)
    have failed : r.failed = true := by simp [StepResult.failed, code]
    refine ⟨iff_of_true ⟨r, done⟩ nofun, fun other returned => ?_, fun g escaped => ?_⟩
    · obtain rfl := Except.ok.inj (done.symm.trans returned)
      exact iff_of_true failed (Or.inl ⟨f, rfl⟩)
    · cases done.symm.trans escaped
  | ok reply =>
    obtain ⟨result, codes, same⟩ := execute_action_replied limit name uses handler params env s ends
    cases read : exitCode reply.code with
    | error f =>
      have escaped : outcome = .error f := by rw [show outcome = _ from same, read]; rfl
      have standsForNone : ¬ ∃ n, reply.code.Represents n := by
        rintro ⟨n, stands⟩
        cases read.symm.trans (exitCode_ok_iff.mpr stands)
      refine ⟨iff_of_false ?_ fun all => standsForNone (all reply rfl), ?_, ?_⟩
      · rintro ⟨r, returned⟩
        cases escaped.symm.trans returned
      · intro r returned
        cases escaped.symm.trans returned
      · intro g other
        cases escaped.symm.trans other
        exact ⟨reply, rfl, exitCode_refuses reply.code f read⟩
    | ok n =>
      have returned : outcome = .ok (result n) := by rw [show outcome = _ from same, read]; rfl
      have zero_iff : reply.code.Represents 0 ↔ n = 0 := by
        rw [← exitCode_ok_iff, read, Except.ok.injEq]
      refine ⟨iff_of_true ⟨_, returned⟩ ?_, ?_, ?_⟩
      · rintro _ ⟨⟩
        exact ⟨n, exitCode_ok_iff.mp read⟩
      · intro r again
        cases returned.symm.trans again
        simp [StepResult.failed, codes, zero_iff]
      · intro f escaped
        cases returned.symm.trans escaped

/-- A step whose action does as scripted. -/
def signing (script : Script) : Step :=
  .action "Sign" "acme/sign" (.scripted "acme/sign" script) [] {}

/-- One action raises, and another replies with a text that stands for zero. -/
theorem execute_action_returns_reply :
    (∃ r, ((signing { failure := some (.runtime "no key") }).execute 80 (bench [])).1 = .ok r ∧
      r.failed = true) ∧
    ∃ r, ((signing { code := .text " 0 " }).execute 80 (bench [])).1 = .ok r ∧ r.failed = false := by
  constructor
  · let handler := Handler.scripted "acme/sign" { failure := some (.runtime "no key") }
    have raised : (handler.run [] ((signing { failure := some (.runtime "no key") }).own (bench []))).1 =
        .error (.runtime "no key") := rfl
    obtain ⟨returns, fails, _⟩ := execute_action_returns 80 "Sign" "acme/sign" handler [] {} (bench [])
      raised (by rintro f ⟨⟩; rfl)
    obtain ⟨r, done⟩ := returns.mpr nofun
    exact ⟨r, done, (fails r done).mpr (Or.inl ⟨_, rfl⟩)⟩
  · let handler := Handler.scripted "acme/sign" { code := .text " 0 " }
    have replied : (handler.run [] ((signing { code := .text " 0 " }).own (bench []))).1 =
        .ok ⟨.text " 0 ", some "", some ""⟩ := rfl
    have zero : (Scalar.text " 0 ").Represents 0 := exitCode_ok_iff.mp rfl
    obtain ⟨returns, fails, _⟩ := execute_action_returns 80 "Sign" "acme/sign" handler [] {} (bench [])
      replied nofun
    obtain ⟨r, done⟩ := returns.mpr (by rintro _ ⟨⟩; exact ⟨0, zero⟩)
    refine ⟨r, done, Bool.eq_false_iff.mpr fun failed => ?_⟩
    rcases (fails r done).mp failed with ⟨f, raised⟩ | ⟨_, ⟨⟩, other⟩
    · cases raised
    · exact other zero

/-- One action replies without a code, and another with a text that stands for no number. -/
theorem execute_action_crashes :
    ((signing { code := .null }).execute 80 (bench [])).1 = .error (.noExitCode .null) ∧
    ∃ e, ((signing { code := .text "done" }).execute 80 (bench [])).1 = .error (.noInteger e) :=
  ⟨rfl, _, rfl⟩

end Action

end Step

end LocalCI
