import LocalCI.Proofs.Job.Order
import LocalCI.Proofs.Record
import LocalCI.Run

/-! What a run does to its machine, told once for every relation between machines that the tool's own
changes and the programs it starts obey. What code from outside alters in place is a premise. Steps and
deployment also leave the context of the job as it was, whatever an action does to the context it is
given. -/
namespace LocalCI

open Attempt

/-- A relation that holds whatever is changed, as long as the records, the variables and the accounts
stay. -/
class Machine.Changes (M : Machine → Machine → Prop) : Prop extends IsPreorder Machine M where
  of_same : ∀ {m n : Machine}, n.env = m.env → n.accounts = m.accounts → n.calls = m.calls →
    n.alterations = m.alterations → M m n

/-- It holds also for what is started, and for alterations of one kind. -/
class Machine.Moves (Q : outParam (Alteration → Prop)) (M : Machine → Machine → Prop) : Prop
    extends Changes M where
  launch : ∀ args cwd env, Follows M (Act.launch args cwd env)
  record : ∀ (m : Machine) call, M m (m.record call)
  alter : ∀ (m : Machine) a, Q a → M m { m with alterations := m.alterations ++ [a] }

/-- Any alteration at all. -/
def Alteration.Any (_ : Alteration) : Prop := True

instance {P : Call → Prop} : Machine.Changes (Machine.Adds P) where
  of_same env accounts calls _ := .of_same env accounts calls

instance : Machine.Moves Alteration.Any (Machine.Adds Call.Any) where
  launch _ _ _ := Act.launch_adds fun _ => trivial
  record _ _ := Machine.adds_record trivial
  alter _ _ _ := .of_same rfl rfl rfl

section Outside

variable (Q : Alteration → Prop)

/-- Every alteration that the routine may make is of the kind. -/
def Routine.Alters {α : Type} : Routine α → Prop
  | .done _ => True
  | .fail _ => True
  | .wait _ next => next.Alters
  | .look next => ∀ c calls, (next c calls).Alters
  | .setContext _ next => next.Alters
  | .setParams _ next => next.Alters
  | .alter a next => Q a ∧ next.Alters
  | .launch _ _ _ next => ∀ ended, (next ended).Alters
  | .changeFiles _ next => ∀ files, (next files).Alters

def Handler.Alters : Handler → Prop
  | .checkout => True
  | .custom _ body => ∀ params, (body params).Alters Q

def Step.Alters : Step → Prop
  | .action _ _ handler _ _ => handler.Alters Q
  | _ => True

def Installer.Alters : Installer → Prop
  | .rust => True
  | .custom body => ∀ t, (body t).Alters Q

def Job.Alters (j : Job) : Prop := ∀ step ∈ j.steps, step.Alters Q

def Runner.Alters (r : Runner) : Prop := ∀ i ∈ r.installers, i.2.Alters Q

variable {Q}

theorem Routine.alters_any {α : Type} (routine : Routine α) : routine.Alters Alteration.Any := by
  induction routine with
  | done | fail => trivial
  | wait _ _ ih | setContext _ _ ih | setParams _ _ ih => exact ih
  | alter _ _ ih => exact ⟨trivial, ih⟩
  | look _ ih => exact fun c calls => ih c calls
  | launch _ _ _ _ ih => exact fun ended => ih ended
  | changeFiles _ _ ih => exact fun files => ih files

theorem Step.alters_any (step : Step) : step.Alters Alteration.Any := by
  cases step with
  | action name uses handler params env =>
    cases handler with
    | checkout => trivial
    | custom label body => exact fun params => (body params).alters_any
  | _ => trivial

theorem Job.alters_any (j : Job) : j.Alters Alteration.Any := fun step _ => step.alters_any

theorem Runner.alters_any (r : Runner) : r.Alters Alteration.Any := by
  intro i _
  cases i.2 with
  | rust => trivial
  | custom body => exact fun t => (body t).alters_any

end Outside

namespace Session

variable {M : Machine → Machine → Prop}

/-- The machine moves; nothing is said of the context. -/
def Moves (M : Machine → Machine → Prop) (s t : Session) : Prop := M s.machine t.machine

/-- The machine moves and the context stays. -/
structure Keeps (M : Machine → Machine → Prop) (s t : Session) : Prop where
  context : t.context = s.context
  machine : M s.machine t.machine

theorem moves_of_keeps {α : Type} {x : JobAct α} (keeps : Follows (Keeps M) x) :
    Follows (Moves M) x := keeps.mono fun _ _ kept => kept.machine

variable [IsPreorder Machine M]

instance : IsPreorder Session (Moves M) where
  refl s := refl_of M s.machine
  trans _ _ _ first second := trans_of M first second

instance : IsPreorder Session (Keeps M) where
  refl s := ⟨rfl, refl_of M s.machine⟩
  trans _ _ _ first second :=
    ⟨second.context.trans first.context, trans_of M first.machine second.machine⟩

end Session

section OnMachine

variable {M : Machine → Machine → Prop} {α : Type}

theorem JobAct.onMachine_keeps {x : Act α} (moves : Follows M x) :
    Follows (Session.Keeps M) (onMachine x) :=
  .focus moves fun _ _ moved => ⟨rfl, moved⟩

theorem JobAct.onMachine_moves {x : Act α} (moves : Follows M x) :
    Follows (Session.Moves M) (onMachine x) := .focus moves fun _ _ moved => moved

theorem Runner.within_moves {x : JobAct α} (c : Context) (moves : Follows (Session.Moves M) x) :
    Follows M (within c x) := fun m => moves ⟨c, m⟩

/-- A context of its own shields the context of the job. -/
theorem JobAct.inContext_keeps {x : JobAct α} (c : Context) (moves : Follows (Session.Moves M) x) :
    Follows (Session.Keeps M) (inContext c x) := fun s => ⟨rfl, moves { s with context := c }⟩

end OnMachine

section Changes

open Machine JobAct

variable {M : Machine → Machine → Prop} [Changes M]

theorem Act.print_moves (lines : List Line) : Follows M (print lines) := by
  refine print_conducts (fun m line => ?_) lines
  exact Changes.of_same rfl rfl rfl rfl

theorem Act.ofWorkflow_bind_moves {α β : Type} {r : Except WorkflowError α} {f : α → Act β}
    (rest : ∀ a, r = .ok a → Follows M (f a)) : Follows M (ofWorkflow r >>= f) := by
  cases r with
  | ok a => exact rest a rfl
  | error e => exact fun m => refl_of M m

theorem JobAct.print_keeps (lines : List Line) : Follows (Session.Keeps M) (print lines) :=
  onMachine_keeps (Act.print_moves lines)

theorem JobAct.print_moves (lines : List Line) : Follows (Session.Moves M) (print lines) :=
  onMachine_moves (Act.print_moves lines)

theorem JobAct.handOver_keeps (params : Entries) : Follows (Session.Keeps M) (handOver params) :=
  .bind .get fun _ =>
    .bind (onMachine_keeps (.modify fun _ => Changes.of_same rfl rfl rfl rfl)) fun _ => .pure _

theorem Runner.announce_keeps (place : Place) (s : Step) :
    Follows (Session.Keeps M) (announce place s) :=
  .bind (.ofExcept _) fun _ =>
    .bind (onMachine_keeps (.modify fun _ => Changes.of_same rfl rfl rfl rfl)) fun _ => print_keeps _

theorem Runner.newRunId_moves : Follows M newRunId := fun _ => Changes.of_same rfl rfl rfl rfl

end Changes

open JobAct

section Moves

open Machine

variable {Q : Alteration → Prop} {M : Machine → Machine → Prop} [Moves Q M]

include Q

theorem Checkout.run_moves (params : Entries) (c : Context) : Follows M (run params c) :=
  run_conducts (fun _ _ _ _ _ => Moves.launch _ _ _)
    (fun _ => Act.makeDirs_conducts fun _ _ _ => Changes.of_same rfl rfl rfl rfl)
    (fun _ _ => Moves.launch _ _ _) params

theorem Publisher.publish_moves (p : Publisher) (d : Deploy) : Follows M (p.publish d) :=
  p.publish_conducts d (fun _ _ _ => Moves.launch _ _ _) fun _ _ _ => Changes.of_same rfl rfl rfl rfl

theorem Routine.run_moves {α : Type} {routine : Routine α} (own : routine.Alters Q) :
    Follows (Session.Moves M) routine.run := by
  have changes : ∀ {change : Machine → Machine}, (∀ m, M m (change m)) →
      Follows (Session.Moves M) (onMachine (modify change)) := fun each => onMachine_moves (.modify each)
  induction routine with
  | done result => exact .pure _
  | fail fault => exact .throw _
  | wait micros next ih =>
    exact .bind (changes fun _ => Changes.of_same rfl rfl rfl rfl) fun _ => ih own
  | look next ih => exact .bind .get fun s => ih _ _ (own _ _)
  | setContext c next ih => exact .bind (.modify fun s => refl_of M s.machine) fun _ => ih own
  | setParams params next ih =>
    exact .bind (changes fun _ => Changes.of_same rfl rfl rfl rfl) fun _ => ih own
  | alter a next ih => exact .bind (changes fun m => Moves.alter m a own.1) fun _ => ih own.2
  | launch args cwd env next ih =>
    exact .bind (onMachine_moves (.attempt (Moves.launch _ _ _))) fun _ => ih _ (own _)
  | changeFiles change next ih =>
    exact .bind .get fun _ => .bind (changes fun _ => Changes.of_same rfl rfl rfl rfl) fun _ => ih _ (own _)

theorem Handler.run_moves {handler : Handler} (own : handler.Alters Q) (params : Entries) :
    Follows (Session.Moves M) (handler.run params) := by
  refine .bind context_conducts fun c =>
    .bind (Session.moves_of_keeps (handOver_keeps params)) fun given => ?_
  cases handler with
  | checkout => exact onMachine_moves (Checkout.run_moves given c)
  | custom label body =>
    exact .bind (onMachine_moves (.modify fun m => Moves.record m _)) fun _ =>
      Routine.run_moves (own given)

namespace Step

theorem runShell_moves (script : String) (cwd : Value) (c : Context) :
    Follows M (runShell script cwd c) := by
  refine .bind (.ofExcept _) fun path => .bind (Act.resolve_conducts _) fun dir =>
    .bind (Act.pathIsDir_conducts _) fun present => ?_
  split
  · exact .pure _
  · refine .tryCatch (.bind (Moves.launch _ _ _) fun _ => .pure _) fun f => ?_
    split
    · exact .pure _
    · exact .throw _

theorem perform_moves {step : Step} (own : step.Alters Q) :
    Follows (Session.Moves M) step.perform := by
  cases step with
  | shell name run cwd env =>
    exact .bind context_conducts fun c => onMachine_moves (runShell_moves run cwd c)
  | action name uses handler params env =>
    refine .tryCatch (Handler.run_moves own params) fun f => ?_
    split
    · exact .pure _
    · exact .throw _
  | other v => exact .throw _

/-- A step leaves the context of its job as it was. -/
theorem execute_keeps {step : Step} (own : step.Alters Q) (limit : Int) :
    Follows (Session.Keeps M) (step.execute limit) :=
  .bind .get fun _ => .bind context_conducts fun _ =>
    .bind (inContext_keeps _ (perform_moves own)) fun _ => .bind .get fun _ =>
      .bind (.ofExcept _) fun _ => .pure _

end Step

theorem Provision.installRust_moves (t : Toolchain) : Follows (Session.Moves M) (installRust t) :=
  installRust_conducts (fun _ _ _ => onMachine_moves (Moves.launch _ _ _))
    (fun s _ => refl_of M s.machine) t

theorem provision_moves {installers : Installers} (own : ∀ i ∈ installers, i.2.Alters Q)
    (t : Toolchain) : Follows (Session.Moves M) (provision installers t) := by
  unfold provision
  split
  · exact .throw _
  next installer found =>
    refine .bind ?_ fun installed => .bind (.modify fun s => refl_of M s.machine) fun _ => .pure _
    obtain ⟨i, listed, rfl⟩ := Option.map_eq_some_iff.mp found
    have known : i.2.Alters Q := own i (List.mem_of_find?_eq_some listed)
    obtain ⟨name, installer⟩ := i
    cases installer with
    | rust => exact Provision.installRust_moves t
    | custom body => exact Routine.run_moves (known t)

namespace Runner

variable {r : Runner} {j : Job}

theorem provideToolchain_moves (own : r.Alters Q) (j : Job) :
    Follows (Session.Moves M) (r.provideToolchain j) := by
  unfold provideToolchain
  split
  · exact .pure _
  · refine .bind (.attempt (provision_moves own _)) fun ended => ?_
    split
    · exact .bind (print_moves _) fun _ => .pure _
    · exact .bind (print_moves _) fun _ => .pure _
    · exact .throw _

theorem runStep_keeps {s : Step} (own : s.Alters Q) (place : Place) :
    Follows (Session.Keeps M) (r.runStep place s) :=
  .bind (announce_keeps place s) fun _ => .bind (Step.execute_keeps own _) fun _ =>
    .bind (print_keeps _) fun _ => .pure _

/-- Steps leave the context of their job as it was. -/
theorem runSteps_keeps {steps : List Step} (own : ∀ s ∈ steps, s.Alters Q) :
    Follows (Session.Keeps M) (r.runSteps j steps) := by
  induction steps with
  | nil => exact .pure _
  | cons s rest ih =>
    obtain ⟨first, others⟩ := List.forall_mem_cons.mp own
    refine .bind (runStep_keeps first _) fun result => ?_
    split
    · exact .pure _
    · exact .bind (ih others) fun _ => .pure _

theorem choosePublisher_keeps (r : Runner) : Follows (Session.Keeps M) r.choosePublisher := by
  unfold choosePublisher
  split
  · exact .pure _
  · exact .bind context_conducts fun c => .bind (onMachine_keeps (Act.resolve_conducts c.workspace))
      fun _ => .pure _

theorem deployJob_keeps (r : Runner) (j : Job) (d : Deploy) (result : JobResult) :
    Follows (Session.Keeps M) (r.deployJob j d result) := by
  refine .bind r.choosePublisher_keeps fun publisher =>
    .bind (.attempt (onMachine_keeps (publisher.publish_moves d))) fun ended => ?_
  split
  · exact .bind (print_keeps _) fun _ => .pure _
  · exact .bind (print_keeps _) fun _ => .pure _
  · exact .throw _

theorem conclude_keeps (r : Runner) (j : Job) (toolchain : Option Installed) (results : List StepResult)
    (error : Option StepError) : Follows (Session.Keeps M) (r.conclude j toolchain results error) := by
  unfold conclude
  split
  · exact .pure _
  · split
    · split
      · exact r.deployJob_keeps _ _ _
      · exact .pure _
    · exact .pure _

/-- Only providing the toolchain can change the context of a job. -/
theorem build_keeps (own : j.Alters Q) (toolchain : Option Installed) :
    Follows (Session.Keeps M) (r.build j toolchain) :=
  .bind (runSteps_keeps own) fun _ => r.conclude_keeps j toolchain _ _

theorem executeIn_moves (others : r.Alters Q) (own : j.Alters Q) :
    Follows (Session.Moves M) (r.executeIn j) := by
  refine .bind (print_moves _) fun _ => .bind (provideToolchain_moves others j) fun provided => ?_
  split
  · exact .pure _
  · exact Session.moves_of_keeps (build_keeps own _)

theorem execute_moves (others : r.Alters Q) (own : j.Alters Q) : Follows M (r.execute j) :=
  .bind (Act.resolve_conducts _) fun _ => .bind .get fun _ => within_moves _ (executeIn_moves others own)

theorem runJob_moves (others : r.Alters Q) (own : j.Alters Q) (g : Graph) (p : Progress) :
    Follows M (r.runJob g p j) := by
  unfold runJob
  split
  · exact .bind (Act.print_moves _) fun _ => .pure _
  · split
    · exact .bind (Act.print_moves _) fun _ => .pure _
    · exact .bind (execute_moves others own) fun _ => .pure _

theorem runJobs_moves {jobs : List Job} (others : r.Alters Q) (own : ∀ j ∈ jobs, j.Alters Q) (g : Graph)
    (p : Progress) : Follows M (r.runJobs g p jobs) := by
  induction jobs generalizing p with
  | nil => exact .pure _
  | cons j rest ih =>
    obtain ⟨first, later⟩ := List.forall_mem_cons.mp own
    exact .bind (runJob_moves others first g p) fun q => ih later q

/-- A run moves the machine as everything in it does. -/
theorem run_moves {w : Workflow} (others : r.Alters Q) (own : ∀ j ∈ w.jobs, j.Alters Q)
    (event : Event) : Follows M (r.run w event) := by
  unfold run
  split
  · exact .bind (Act.print_moves _) fun _ => .pure _
  · refine Act.ofWorkflow_bind_moves fun g made => Act.ofWorkflow_bind_moves fun ordered placed => ?_
    obtain ⟨_, rfl⟩ := Graph.order_eq_ok.mp placed
    have each : ∀ j ∈ g.placed, j.Alters Q := fun j member =>
      own j (Graph.ofJobs_jobs made ▸ Graph.placed_subset member)
    exact .bind newRunId_moves fun _ => .bind (Act.print_moves _) fun _ =>
      .bind (runJobs_moves others each g _) fun _ => .bind (Act.print_moves _) fun _ => .pure _

end Runner
end Moves
end LocalCI
