import LocalCI.Proofs.Publish.Secrecy
import LocalCI.Proofs.Workflow.WellFormed

/-! Faults that the tool does not end with as long as every field is what it is declared to be: those about
such a field, and those that pass the handlers of faults. The tool finds a bad field in a step only, and
what passes the handlers comes from the user or from code from outside. -/
namespace LocalCI

open Attempt

/-- If the fault is not the tool's own, the user broke off or it has one of these causes. -/
def Fault.Explained (P : Fault → Prop) (f : Fault) : Prop :=
  f.isPlain = false → f.isInterrupt = false → P f

theorem Fault.isOrdinary_of_isBadField {f : Fault} (bad : f.isBadField = true) : f.isOrdinary = true := by
  cases f <;> first | rfl | cases bad

theorem Fault.Explained.of_isBadField {P : Fault → Prop} {f : Fault} (explained : f.Explained P)
    (bad : f.isBadField = true) : P f := by
  refine explained (by simp [isPlain, bad]) ?_
  cases f <;> first | rfl | cases bad

namespace Attempt

variable {σ α β : Type} {P Q : Fault → Prop} {x : Attempt σ α}

/-- Whenever the attempt fails with a fault that is not the tool's own, the user broke off or there is one
of these causes. -/
abbrev Explains (P : Fault → Prop) (x : Attempt σ α) : Prop := Fails (Fault.Explained P) x

theorem Fails.weaken (weaker : ∀ f, P f → Q f) (first : Explains P x) : Explains Q x :=
  first.mono fun f explained other mild => weaker f (explained other mild)

instance : Conduct (fun (_ : σ) (e : Option Fault) (_ : σ) => ∀ f ∈ e, f.Explained P) where
  stays _ _ none := by cases none
  fails _ plain := by
    rintro f ⟨⟩ other
    exact absurd other (by simp [plain])
  goesOn _ _ later := later
  closes first _ := first

/-- No change of a state is a fault. -/
theorem explained_none (f : Fault) (none : f ∈ (none : Option Fault)) : f.Explained P := by cases none

end Attempt

section Explains

variable {P : Fault → Prop}

theorem Act.launch_explains (args : List String) (cwd : Option String) (env : Option Env) :
    Explains P (launch args cwd env) := by
  refine .of_refuses fun m f failed other mild => ?_
  rcases launch_fails (Prod.ext failed rfl) with ⟨how, dir, rfl⟩ | ⟨failure, rfl⟩
  · cases other
  · cases failure with
    | interrupted text => cases mild
    | _ => cases other

theorem Act.print_explains (lines : List Line) : Explains P (print lines) :=
  print_conducts (fun _ _ => explained_none) lines

theorem JobAct.print_explains (lines : List Line) : Explains P (print lines) :=
  .focus (Act.print_explains lines)

theorem Act.ofWorkflow_bind_explains {α β : Type} {r : Except WorkflowError α} {f : α → Act β}
    (rest : ∀ a, r = .ok a → Explains P (f a)) : Explains P (ofWorkflow r >>= f) := by
  cases r with
  | ok a => exact rest a rfl
  | error e => exact Fails.of_refuses fun _ => .error nofun

theorem Publisher.publish_explains (p : Publisher) (d : Deploy) : Explains P (p.publish d) :=
  p.publish_conducts d (fun _ _ _ => Act.launch_explains _ _ _) fun _ _ _ => explained_none

theorem Checkout.run_explains (params : Entries) (c : Context) : Explains P (run params c) :=
  run_conducts (fun _ _ _ _ _ => Act.launch_explains _ _ _)
    (fun _ => Act.makeDirs_conducts fun _ _ _ => explained_none) (fun _ _ => Act.launch_explains _ _ _) params

theorem Provision.installRust_explains (t : Toolchain) : Explains P (installRust t) :=
  installRust_conducts (fun _ _ _ => Fails.focus (Act.launch_explains _ _ _)) (fun _ _ => explained_none) t

end Explains

namespace Step

/-- The faults that a step is found out by. -/
def fieldFaults : Step → List Fault
  | .shell _ _ cwd _ =>
    if cwd.isTruthy && !cwd.isOptionalText then [.notPath cwd.operandName] else []
  | .action .. => []
  | .other v => [.namelessStep v.typeName, .notStep v.typeName]

theorem isOrdinary_of_fieldFaults (step : Step) {f : Fault} (found : f ∈ step.fieldFaults) :
    f.isOrdinary = true := by
  cases step with
  | shell name run cwd env =>
    unfold fieldFaults at found
    dsimp only at found
    split at found
    · cases List.mem_singleton.mp found
      rfl
    · cases found
  | action name uses handler params env => cases found
  | other v =>
    rcases List.mem_pair.mp found with rfl | rfl <;> rfl

theorem fieldFaults_of_isWellFormed {step : Step} (formed : step.isWellFormed = true) :
    step.fieldFaults = [] := by
  cases step with
  | shell name run cwd env =>
    rw [isWellFormed, Bool.and_eq_true] at formed
    simp [fieldFaults, formed.2]
  | action name uses handler params env => rfl
  | other v => cases formed

/-- The step is an action from outside, and that can fail with the fault. -/
def Raises (step : Step) (f : Fault) : Prop :=
  ∃ name uses label body params env s, step = .action name uses (.custom label body) params env ∧
    ((Handler.custom label body).run params s).1 = .error f

/-- What makes a step fail with a fault that is not the tool's own. An action keeps ordinary faults from the
run. -/
def Causes (step : Step) (f : Fault) : Prop :=
  f ∈ step.fieldFaults ∨ f.isOrdinary = false ∧ step.Raises f

theorem directory_explained (workspace : Path) (name run : String) (cwd : Value) (env : Env) :
    Refuses (Fault.Explained (· ∈ (shell name run cwd env).fieldFaults)) (directory workspace cwd) := by
  unfold directory
  split
  · exact .ok _
  next truthy =>
    split
    · exact .ok _
    next other =>
      refine .error fun _ _ => ?_
      have given : cwd.isTruthy = true := by simpa using truthy
      have untyped : cwd.isOptionalText = false := by
        unfold Value.isOptionalText
        split
        · exact absurd given (by decide)
        · exact absurd rfl (other _)
        · rfl
      simp [fieldFaults, untyped, given]

theorem runShell_explains (name run : String) (cwd : Value) (env : Env) (c : Context) :
    Explains (· ∈ (shell name run cwd env).fieldFaults) (runShell run cwd c) := by
  refine .bind (.ofExcept (directory_explained _ _ _ _ _)) fun dir => ?_
  refine .bind (Act.resolve_conducts _) fun place => .bind (Act.pathIsDir_conducts _) fun present => ?_
  split
  · exact .pure _
  · have launched := Act.launch_explains (P := fun _ => False) (shellCommand ++ [run])
      (some (Location.text place)) (some c.env)
    refine .tryCatch (.bind launched fun _ => .pure _) fun f blameless => ?_
    split
    · exact .pure _
    · exact .throw fun other mild => (blameless other mild).elim

theorem runAction_explains (name uses : String) (handler : Handler) (params : Entries) (env : Env) :
    Explains (action name uses handler params env).Causes (runAction handler params) := by
  have first : Fails (Fault.Explained (action name uses handler params env).Raises) (handler.run params) := by
    cases handler with
    | checkout =>
      refine .bind JobAct.context_conducts fun c => .bind ?_ fun given =>
        .focus (Checkout.run_explains given c)
      exact .bind .get fun _ => .bind (.focus (.modify _)) fun _ => .pure _
    | custom label body =>
      exact .of_refuses fun s f failed _ _ => ⟨name, uses, label, body, params, env, s, rfl, failed⟩
  refine .tryCatch first fun f explained => ?_
  split
  · exact .pure _
  next loud =>
    exact .throw fun other mild => Or.inr ⟨Bool.eq_false_iff.mpr loud, explained other mild⟩

theorem perform_explains (step : Step) : Explains step.Causes step.perform := by
  cases step with
  | shell name run cwd env =>
    exact .bind JobAct.context_conducts fun c =>
      .focus ((runShell_explains name run cwd env c).weaken fun _ => Or.inl)
  | action name uses handler params env => exact runAction_explains name uses handler params env
  | other v => exact .throw fun _ _ => Or.inl (List.mem_cons_of_mem _ List.mem_cons_self)

theorem execute_explains (limit : Int) (step : Step) : Explains step.Causes (step.execute limit) := by
  refine .bind .get fun s => .bind JobAct.context_conducts fun c => ?_
  refine .bind (fun s => step.perform_explains _) fun reply => .bind .get fun _ => ?_
  exact .bind (Conducts.ofExcept (exitCode_plain _)) fun _ => .pure _

end Step

end LocalCI
