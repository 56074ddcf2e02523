import LocalCI.Proofs.Step
import LocalCI.Proofs.Value
import LocalCI.Proofs.Workflow.Steps

/-! Workflows whose fields are what they are declared to be. A workflow that is read is well-formed but for
two fields that are taken as they are written: the directory of a script, and the channel in the
reference of an action. -/
namespace LocalCI

/-- A script has something to run and a directory that is a text, if it has one. -/
def Step.isWellFormed : Step → Bool
  | .shell _ run cwd _ => run ≠ "" && cwd.isOptionalText
  | .action .. => true
  | .other _ => false

def Toolchain.isWellFormed (t : Toolchain) : Bool := t.channel ≠ ""

def Deploy.isWellFormed (d : Deploy) : Bool := d.folder ≠ "" && d.branch ≠ ""

def Job.isWellFormed (job : Job) : Bool :=
  job.steps.all Step.isWellFormed && job.toolchain.all Toolchain.isWellFormed &&
    job.deploy.all Deploy.isWellFormed && job.needs.isSome

def Workflow.isWellFormed (w : Workflow) : Bool := w.jobs.all Job.isWellFormed

/-- What reading does not check in a written step. -/
structure Step.Typed (raw : Value) : Prop where
  directory : (raw.under "run").isTruthy = true →
    (raw.under "working-directory").isOptionalText = true
  /-- The channel is given, or it is the reference, which is not empty. -/
  channel : action? raw = some "dtolnay/rust-toolchain" →
    ((raw.under "with").under "toolchain").isTruthy = true ∨
      (Text.cut? '@' (raw.under "uses").toText).map Prod.snd ≠ some ""

section Texts

theorem Value.textOr_ne_empty_iff {room : Nat} {v : Value} {default text : String}
    (read : v.textOr room default = .ok text) : text ≠ "" ↔ v.isTruthy = true ∨ default ≠ "" := by
  unfold textOr at read
  split at read
  next truthy =>
    obtain ⟨_, rfl⟩ := asText_ok_iff.mp read
    exact iff_of_true (toText_ne_empty truthy) (Or.inl truthy)
  next empty =>
    cases read
    exact (or_iff_right empty).symm

/-- A channel that comes from the reference may be empty. -/
theorem Toolchain.isWellFormed_ofParams {room : Nat} {uses : String} {params : Entries} {t : Toolchain}
    (made : ofParams room uses params = .ok t) :
    t.isWellFormed = true ↔ (Action.nameOf uses = "dtolnay/rust-toolchain" →
      (Entries.valueAt params "toolchain").isTruthy = true ∨
        (Text.cut? '@' uses).map Prod.snd ≠ some "") := by
  rw [isWellFormed, decide_eq_true_iff]
  unfold ofParams at made
  dsimp only at made
  split at made
  next named =>
    obtain ⟨channel, read, ⟨⟩⟩ := bind_ok_iff.mp made
    rw [Value.textOr_ne_empty_iff read, forall_prop_of_true named]
    refine or_congr_right ?_
    cases (Text.cut? '@' uses).map Prod.snd <;> simp
  next other =>
    obtain ⟨channel, read, made⟩ := bind_ok_iff.mp made
    have same : t.channel = channel := by
      split at made
      · obtain ⟨_, _, ⟨⟩⟩ := bind_ok_iff.mp made
        rfl
      · cases made
        rfl
    rw [same]
    refine iff_of_true ?_ (absurd · other)
    exact (Value.textOr_ne_empty_iff read).mpr (Or.inr (by decide))

theorem Deploy.isWellFormed_ofParams {room : Nat} {uses : String} {params : Entries} {d : Deploy}
    (made : ofParams room uses params = .ok d) : d.isWellFormed = true := by
  have filled : ∀ {v : Value} {default text : String}, default ≠ "" → v.textOr room default = .ok text →
      text ≠ "" := fun given read => (Value.textOr_ne_empty_iff read).mpr (Or.inr given)
  unfold ofParams at made
  dsimp only at made
  split at made
  next =>
    obtain ⟨folder, folderRead, made⟩ := bind_ok_iff.mp made
    obtain ⟨branch, branchRead, ⟨⟩⟩ := bind_ok_iff.mp made
    simp [isWellFormed, filled (by decide) folderRead, filled (by decide) branchRead]
  next =>
    obtain ⟨given, made⟩ := guard_ok_iff.mp made
    obtain ⟨folder, folderRead, made⟩ := bind_ok_iff.mp made
    obtain ⟨branch, branchRead, ⟨⟩⟩ := bind_ok_iff.mp made
    obtain ⟨_, rfl⟩ := Value.asText_ok_iff.mp folderRead
    simp [isWellFormed, Value.toText_ne_empty (by simpa using given), filled (by decide) branchRead]

end Texts

namespace Step

variable {room : Nat} {registry : Registry} {raw : Value} {step : Step}

theorem Mirrors.isWellFormed_iff (mirrors : step.Mirrors room registry raw)
    (usesOrRun : (raw.under "uses").isTruthy ≠ (raw.under "run").isTruthy) :
    step.isWellFormed = true ↔ ((raw.under "run").isTruthy = true →
      (raw.under "working-directory").isOptionalText = true) := by
  cases mirrors with
  | shell scripted named =>
    rw [forall_prop_of_true scripted, isWellFormed]
    simp [Value.toText_ne_empty scripted]
  | action used named registered =>
    exact iff_of_true rfl fun scripted => absurd (used.trans scripted.symm) usesOrRun

end Step

theorem forall_iff_of_forall₂ {α β : Type} {R : α → β → Prop} {P : α → Prop} {Q : β → Prop}
    {as : List α} {bs : List β} (pairs : List.Forall₂ R as bs) (same : ∀ a b, R a b → (Q b ↔ P a)) :
    (∀ b ∈ bs, Q b) ↔ ∀ a ∈ as, P a := by
  induction pairs with
  | nil => simp
  | cons first _ ih => rw [List.forall_mem_cons, List.forall_mem_cons, same _ _ first, ih]

namespace Job.Keeps

variable {room : Nat} {registry : Registry} {raw : Value} {job : Job} (kept : Keeps room registry raw job)

include kept

theorem steps_wellFormed_iff :
    (∀ step ∈ job.steps, step.isWellFormed = true) ↔
      ∀ step ∈ rawSteps raw, (step.under "run").isTruthy = true →
        (step.under "working-directory").isOptionalText = true := by
  have proper : ∀ step ∈ (rawSteps raw).filter fun step => Step.kind step = .proper,
      (step.under "uses").isTruthy ≠ (step.under "run").isTruthy := fun step member =>
    kept.usesOrRun step (List.mem_filter.mp member).1
  rw [forall_iff_of_forall₂ ((List.forall₂_and_left _ _).mpr ⟨proper, kept.steps⟩)
    fun _ _ pair => pair.2.isWellFormed_iff pair.1]
  constructor
  · intro each step member scripted
    refine each step (List.mem_filter.mpr ⟨member, ?_⟩) scripted
    have unused : (step.under "uses").isTruthy = false := by
      rw [Bool.eq_false_iff]
      exact fun used => kept.usesOrRun step member (used.trans scripted.symm)
    simpa using Step.kind_of_not_uses unused
  · exact fun each step member => each step (List.mem_filter.mp member).1

theorem toolchain_wellFormed_iff :
    (∀ t, job.toolchain = some t → t.isWellFormed = true) ↔
      ∀ step ∈ rawSteps raw, Step.action? step = some "dtolnay/rust-toolchain" →
        ((step.under "with").under "toolchain").isTruthy = true ∨
          (Text.cut? '@' (step.under "uses").toText).map Prod.snd ≠ some "" := by
  constructor
  · intro each step member selects
    have kind : Step.kind step = .toolchain := by
      rw [Step.kind, selects]
      decide
    obtain ⟨t, held, made⟩ := kept.toolchain_of step member kind
    obtain ⟨used, _⟩ := Step.uses_of_kind kind (by decide)
    rw [Step.action?, if_pos used, Option.some.injEq] at selects
    exact (Toolchain.isWellFormed_ofParams made).mp (each t held) selects
  · intro each t held
    obtain ⟨step, member, kind⟩ := kept.toolchain_iff.mp (by rw [held]; rfl)
    obtain ⟨t', held', made⟩ := kept.toolchain_of step member kind
    obtain rfl := Option.some.inj (held.symm.trans held')
    obtain ⟨used, _⟩ := Step.uses_of_kind kind (by decide)
    refine (Toolchain.isWellFormed_ofParams made).mpr fun selects => each step member ?_
    rw [Step.action?, if_pos used, selects]

theorem deploy_wellFormed {d : Deploy} (held : job.deploy = some d) : d.isWellFormed = true := by
  obtain ⟨last, ends, kind⟩ := kept.deploy_iff.mp (by rw [held]; rfl)
  obtain ⟨d', held', made⟩ := kept.deploy_of last ends kind
  obtain rfl := Option.some.inj (held.symm.trans held')
  exact Deploy.isWellFormed_ofParams made

/-- A job is well-formed just when reading left nothing unchecked. -/
theorem isWellFormed_iff (listed : job.needs.isSome = true) :
    job.isWellFormed = true ↔ ∀ step ∈ rawSteps raw, Step.Typed step := by
  simp only [Job.isWellFormed, Bool.and_eq_true, List.all_eq_true, Option.all_eq_true, listed,
    and_true, kept.steps_wellFormed_iff, kept.toolchain_wellFormed_iff]
  constructor
  · rintro ⟨⟨directories, channels⟩, _⟩ step member
    exact ⟨directories step member, channels step member⟩
  · intro each
    exact ⟨⟨fun step member => (each step member).directory,
      fun step member => (each step member).channel⟩, fun d held => kept.deploy_wellFormed held⟩

end Job.Keeps

namespace Workflow

/-- What reading does not check in a written workflow. -/
def Typed (v : Value) : Prop :=
  ∀ entry ∈ (v.under "jobs").entries, ∀ step ∈ Job.rawSteps entry.2, Step.Typed step

theorem readJob_needs {room : Nat} {registry : Registry} {shared : Env} {key : Scalar} {raw : Value}
    {job : Job} (loaded : readJob room registry shared key raw = .ok job) : job.needs.isSome = true := by
  obtain ⟨id, _, rest⟩ := bind_ok_iff.mp loaded
  obtain ⟨own, read, ⟨⟩⟩ := bind_ok_iff.mp rest
  obtain ⟨_, _, _, _, _, _, _, _, _, _, rfl⟩ := Job.read_ok_iff.mp read
  rfl

theorem read_jobs {room : Nat} {registry : Registry} {defaultName : String} {v : Value} {w : Workflow}
    (loaded : read room registry defaultName v = .ok w) :
    List.Forall₂ (fun entry job => Job.Keeps room registry entry.2 job ∧ job.needs.isSome = true)
      (v.under "jobs").entries w.jobs := by
  unfold read at loaded
  split at loaded
  next data seen =>
    obtain rfl := Value.entries_of_view seen
    obtain ⟨_, _, loaded⟩ := bind_ok_iff.mp loaded
    obtain ⟨rawJobs, listed, loaded⟩ := bind_ok_iff.mp loaded
    obtain ⟨shared, _, loaded⟩ := bind_ok_iff.mp loaded
    obtain ⟨jobs, each, loaded⟩ := bind_ok_iff.mp loaded
    obtain ⟨_, _, ⟨⟩⟩ := bind_ok_iff.mp loaded
    obtain rfl := readJobs_eq_ok (Job.eq_ok_of_lift listed)
    exact (mapM_ok_iff.mp each).imp fun _ _ read => ⟨(readJob_keeps read).2, readJob_needs read⟩
  next => cases loaded

theorem isWellFormed_iff {room : Nat} {registry : Registry} {defaultName : String} {v : Value} {w : Workflow}
    (loaded : read room registry defaultName v = .ok w) : w.isWellFormed = true ↔ Typed v := by
  rw [isWellFormed, List.all_eq_true]
  exact forall_iff_of_forall₂ (read_jobs loaded) fun entry job kept =>
    kept.1.isWellFormed_iff kept.2

end Workflow

end LocalCI
