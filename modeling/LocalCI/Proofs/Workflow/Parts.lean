import LocalCI.Proofs.Workflow.Readers

/-! What the steps of a job are read as. A written step is a step proper, the toolchain or the deployment
of its job, and which of them does not depend on the steps before it. What has been read before only
decides whether it may stand where it stands. -/
namespace LocalCI

namespace Step

/-- What a written step is to its job. -/
inductive Kind where
  | proper
  | toolchain
  | deploy
deriving DecidableEq, Repr

/-- The action that a written step uses, by name. -/
def action? (raw : Value) : Option String :=
  if (raw.under "uses").isTruthy then some (Action.nameOf (raw.under "uses").toText) else none

def kindOf (action : String) : Kind :=
  if action ∈ Action.toolchainNames then .toolchain
  else if action ∈ Action.deployNames then .deploy
  else .proper

theorem kindOf_eq_toolchain {action : String} :
    kindOf action = .toolchain ↔ action ∈ Action.toolchainNames := by
  unfold kindOf
  split
  · simp_all
  · split <;> simp_all

theorem kindOf_eq_deploy {action : String} :
    kindOf action = .deploy ↔ action ∉ Action.toolchainNames ∧ action ∈ Action.deployNames := by
  unfold kindOf
  split
  · simp_all
  · split <;> simp_all

theorem kindOf_eq_proper {action : String} :
    kindOf action = .proper ↔ action ∉ Action.toolchainNames ∧ action ∉ Action.deployNames := by
  unfold kindOf
  split
  · simp_all
  · split <;> simp_all

def kind (raw : Value) : Kind := ((action? raw).map kindOf).getD .proper

theorem kind_of_uses {raw : Value} (used : (raw.under "uses").isTruthy = true) :
    kind raw = kindOf (Action.nameOf (raw.under "uses").toText) := by
  simp [kind, action?, used]

theorem kind_of_not_uses {raw : Value} (unused : (raw.under "uses").isTruthy = false) :
    kind raw = .proper := by
  simp [kind, action?, unused]

theorem uses_of_kind {raw : Value} {k : Kind} (sort : kind raw = k) (other : k ≠ .proper) :
    (raw.under "uses").isTruthy = true ∧ kindOf (Action.nameOf (raw.under "uses").toText) = k := by
  cases used : (raw.under "uses").isTruthy with
  | false => exact absurd (sort.symm.trans (kind_of_not_uses used)) other
  | true => exact ⟨rfl, (kind_of_uses used).symm.trans sort⟩

/-- The step says what is written: a script as its text, an action with its parameters and with the
handler that is registered for it. -/
inductive Mirrors (room : Nat) (registry : Registry) (raw : Value) : Step → Prop where
  | shell {name : String} (scripted : (raw.under "run").isTruthy = true)
      (named : readName room raw.entries = .ok name) :
      Mirrors room registry raw (.shell name (raw.under "run").toText (raw.under "working-directory")
        (Entries.toVars (raw.under "env").entries))
  | action {name : String} {handler : Handler} (used : (raw.under "uses").isTruthy = true)
      (named : readName room raw.entries = .ok name)
      (registered : registry.find? (Action.nameOf (raw.under "uses").toText) = some handler) :
      Mirrors room registry raw (.action name (raw.under "uses").toText handler (raw.under "with").entries
        (Entries.toVars (raw.under "env").entries))

/-- What is asked of every written step, whatever its kind. -/
structure Readable (room : Nat) (raw : Value) : Prop where
  mapping : raw.shape = .mapping
  usesOrRun : (raw.under "uses").isTruthy ≠ (raw.under "run").isTruthy
  named : Succeeds (readName room raw.entries)
  env : (raw.under "env").shape ∈ [.null, .mapping]
  envFits : (raw.under "env").entries.fit room = true
  params : (raw.under "with").isTruthy = false ∨ (raw.under "with").shape = .mapping
  usesFits : (raw.under "uses").fits room = true
  runFits : (raw.under "run").fits room = true

theorem Readable.unscripted {room : Nat} {raw : Value} (readable : Readable room raw)
    (used : (raw.under "uses").isTruthy = true) : ¬ (raw.under "run").isTruthy = true :=
  fun scripted => readable.usesOrRun (used.trans scripted.symm)

end Step

namespace Job

/-- One step of a job as it is read. -/
inductive Part where
  | step (s : Step)
  | toolchain (t : Toolchain)
  | deploy (d : Deploy)

namespace Part

def kind : Part → Step.Kind
  | .step _ => .proper
  | .toolchain _ => .toolchain
  | .deploy _ => .deploy

/-- The part that a written step makes, by its kind. -/
inductive Of (room : Nat) (registry : Registry) (raw : Value) : Part → Prop where
  | step {s : Step} (kind : Step.kind raw = .proper) (mirrors : s.Mirrors room registry raw) :
      Of room registry raw (.step s)
  | toolchain {t : Toolchain} (kind : Step.kind raw = .toolchain)
      (made : Toolchain.ofParams room (raw.under "uses").toText (raw.under "with").entries = .ok t) :
      Of room registry raw (.toolchain t)
  | deploy {d : Deploy} (kind : Step.kind raw = .deploy)
      (made : Deploy.ofParams room (raw.under "uses").toText (raw.under "with").entries = .ok d) :
      Of room registry raw (.deploy d)

/-- The part that a step is read as. -/
structure Reads (room : Nat) (registry : Registry) (raw : Value) (part : Part) : Prop where
  readable : Step.Readable room raw
  made : Of room registry raw part

theorem Of.kind_eq {room : Nat} {registry : Registry} {raw : Value} {part : Part}
    (made : Of room registry raw part) : Step.kind raw = part.kind := by
  cases made with
  | step kind _ => exact kind
  | toolchain kind _ => exact kind
  | deploy kind _ => exact kind

theorem map_kind_eq {room : Nat} {registry : Registry} {raws : List Value} {parts : List Part}
    (reads : List.Forall₂ (Reads room registry) raws parts) :
    raws.map Step.kind = parts.map kind := by
  induction reads with
  | nil => rfl
  | cons first _ ih => rw [List.map_cons, List.map_cons, first.made.kind_eq, ih]

end Part

namespace Draft

def put (draft : Draft) : Part → Draft
  | .step s => { draft with steps := draft.steps ++ [s] }
  | .toolchain t => { draft with toolchain := some t }
  | .deploy d => { draft with deploy := some d }

/-- Nothing may follow the deployment, and there is one toolchain at most. -/
def Admits (draft : Draft) (part : Part) : Prop :=
  draft.deploy = none ∧ (part.kind = .toolchain → draft.toolchain = none)

variable {room : Nat} {registry : Registry} {job place : String} {draft next : Draft} {raw : Value}

theorem resolve_ok_iff {uses : String} {handler : Handler} :
    registry.resolve uses = .ok handler ↔ registry.find? (Action.nameOf uses) = some handler := by
  unfold Registry.resolve
  split <;> simp_all

section Action

variable {name uses : String} {params : Entries} {env : Env}

theorem addAction_toolchain (kind : Step.kindOf (Action.nameOf uses) = .toolchain) :
    draft.addAction room registry job place name uses params env = .ok next ↔
      draft.toolchain = none ∧
        ∃ t, Toolchain.ofParams room uses params = .ok t ∧ draft.put (.toolchain t) = next := by
  unfold addAction
  rw [if_pos (List.contains_iff_mem.mpr (Step.kindOf_eq_toolchain.mp kind))]
  dsimp only
  rw [guard_ok_iff, bind_ok_iff]
  simp only [pure_ok_iff, Bool.not_eq_true, Option.isSome_eq_false_iff, Option.isNone_iff_eq_none]
  rfl

theorem addAction_deploy (kind : Step.kindOf (Action.nameOf uses) = .deploy) :
    draft.addAction room registry job place name uses params env = .ok next ↔
      ∃ d, Deploy.ofParams room uses params = .ok d ∧ draft.put (.deploy d) = next := by
  obtain ⟨other, names⟩ := Step.kindOf_eq_deploy.mp kind
  unfold addAction
  rw [if_neg fun listed => other (List.contains_iff_mem.mp listed),
    if_pos (List.contains_iff_mem.mpr names), bind_ok_iff]
  simp only [pure_ok_iff]
  rfl

theorem addAction_proper (kind : Step.kindOf (Action.nameOf uses) = .proper) :
    draft.addAction room registry job place name uses params env = .ok next ↔
      ∃ handler, registry.find? (Action.nameOf uses) = some handler ∧
        draft.put (.step (.action name uses handler params env)) = next := by
  obtain ⟨noToolchain, noDeploy⟩ := Step.kindOf_eq_proper.mp kind
  unfold addAction
  rw [if_neg fun listed => noToolchain (List.contains_iff_mem.mp listed),
    if_neg fun listed => noDeploy (List.contains_iff_mem.mp listed), bind_ok_iff]
  simp only [lift_ok_iff, resolve_ok_iff, pure_ok_iff]
  rfl

end Action

/-- What adding a step comes to, check by check. -/
theorem add_eq_ok :
    draft.add room registry job place raw = .ok next ↔
      raw.shape = .mapping ∧ (raw.under "uses").isTruthy ≠ (raw.under "run").isTruthy ∧
      draft.deploy = none ∧ ∃ name, Step.readName room raw.entries = .ok name ∧
      (raw.under "env").shape ∈ [.null, .mapping] ∧
      (raw.under "env").entries.fit room = true ∧
      ((raw.under "with").isTruthy = false ∨ (raw.under "with").shape = .mapping) ∧
      if (raw.under "run").isTruthy then
        (raw.under "run").fits room = true ∧
        draft.put (.step (.shell name (raw.under "run").toText (raw.under "working-directory")
          (Entries.toVars (raw.under "env").entries))) = next
      else
        (raw.under "uses").fits room = true ∧
        draft.addAction room registry job place name (raw.under "uses").toText (raw.under "with").entries
          (Entries.toVars (raw.under "env").entries) = .ok next := by
  unfold add
  split
  next entries seen =>
    have mapping := Value.shape_of_view seen
    obtain rfl := Value.entries_of_view seen
    dsimp only
    rw [guard_ok_iff, guard_ok_iff]
    simp only [bind_ok_iff, lift_ok_iff, readParams_ok_iff, Value.asEnv_ok_iff]
    constructor
    · rintro ⟨differ, unended, name, named, _, ⟨env, envFit, rfl⟩, _, ⟨params, rfl⟩, added⟩
      refine ⟨mapping, fun same => differ (beq_iff_eq.mpr same), by simpa using unended, name, named,
        env, envFit, params, ?_⟩
      split at added
      next scripted =>
        obtain ⟨_, written, added⟩ := bind_ok_iff.mp added
        obtain ⟨fit, rfl⟩ := Value.asText_ok_iff.mp written
        rw [if_pos (show (raw.under "run").isTruthy = true from scripted)]
        exact ⟨fit, pure_ok_iff.mp added⟩
      next unscripted =>
        obtain ⟨_, written, added⟩ := bind_ok_iff.mp added
        obtain ⟨fit, rfl⟩ := Value.asText_ok_iff.mp written
        rw [if_neg (show ¬ (raw.under "run").isTruthy = true from unscripted)]
        exact ⟨fit, added⟩
    · rintro ⟨_, differ, unended, name, named, env, envFit, params, added⟩
      refine ⟨fun same => differ (beq_iff_eq.mp same), by simp [unended], name, named, _,
        ⟨env, envFit, rfl⟩, _, ⟨params, rfl⟩, ?_⟩
      split
      next scripted =>
        rw [if_pos (show (raw.under "run").isTruthy = true from scripted)] at added
        exact bind_ok_iff.mpr ⟨_, Value.asText_ok_iff.mpr ⟨added.1, rfl⟩, pure_ok_iff.mpr added.2⟩
      next unscripted =>
        rw [if_neg (show ¬ (raw.under "run").isTruthy = true from unscripted)] at added
        exact bind_ok_iff.mpr ⟨_, Value.asText_ok_iff.mpr ⟨added.1, rfl⟩, added.2⟩
  next other =>
    refine iff_of_false nofun fun ⟨mapping, _⟩ => ?_
    exact other _ (Value.view_of_shape mapping)

/-- A step is added just when it can be read and the draft admits what it is read as. -/
theorem add_ok_iff :
    draft.add room registry job place raw = .ok next ↔
      ∃ part, Part.Reads room registry raw part ∧ draft.Admits part ∧ draft.put part = next := by
  rw [add_eq_ok]
  constructor
  · rintro ⟨mapping, usesOrRun, unended, name, named, env, envFit, params, added⟩
    split at added
    next scripted =>
      have unused := Bool.eq_false_iff.mpr fun used => usesOrRun (used.trans scripted.symm)
      have readable : Step.Readable room raw := ⟨mapping, usesOrRun, ⟨name, named⟩, env, envFit, params,
        Value.fits_of_empty unused, added.1⟩
      exact ⟨_, ⟨readable, .step (Step.kind_of_not_uses unused) (.shell scripted named)⟩,
        ⟨unended, nofun⟩, added.2⟩
    next unscripted =>
      have empty := Bool.eq_false_iff.mpr unscripted
      have used : (raw.under "uses").isTruthy = true := by
        rw [← Bool.not_eq_false]
        exact fun unused => usesOrRun (unused.trans empty.symm)
      have readable : Step.Readable room raw := ⟨mapping, usesOrRun, ⟨name, named⟩, env, envFit, params,
        added.1, Value.fits_of_empty empty⟩
      have kind := Step.kind_of_uses used
      cases sort : Step.kindOf (Action.nameOf (raw.under "uses").toText) with
      | toolchain =>
        obtain ⟨free, t, made, put⟩ := (addAction_toolchain sort).mp added.2
        exact ⟨_, ⟨readable, .toolchain (kind.trans sort) made⟩, ⟨unended, fun _ => free⟩, put⟩
      | deploy =>
        obtain ⟨d, made, put⟩ := (addAction_deploy sort).mp added.2
        exact ⟨_, ⟨readable, .deploy (kind.trans sort) made⟩, ⟨unended, nofun⟩, put⟩
      | proper =>
        obtain ⟨handler, registered, put⟩ := (addAction_proper sort).mp added.2
        exact ⟨_, ⟨readable, .step (kind.trans sort) (.action used named registered)⟩,
          ⟨unended, nofun⟩, put⟩
  · rintro ⟨part, ⟨readable, made⟩, ⟨unended, free⟩, rfl⟩
    obtain ⟨name, named⟩ := readable.named
    refine ⟨readable.mapping, readable.usesOrRun, unended, name, named, readable.env,
      readable.envFits, readable.params, ?_⟩
    cases made with
    | toolchain kind made =>
      obtain ⟨used, sort⟩ := Step.uses_of_kind kind nofun
      rw [if_neg (readable.unscripted used)]
      exact ⟨readable.usesFits, (addAction_toolchain sort).mpr ⟨free rfl, _, made, rfl⟩⟩
    | deploy kind made =>
      obtain ⟨used, sort⟩ := Step.uses_of_kind kind nofun
      rw [if_neg (readable.unscripted used)]
      exact ⟨readable.usesFits, (addAction_deploy sort).mpr ⟨_, made, rfl⟩⟩
    | step kind mirrors =>
      cases mirrors with
      | shell scripted again =>
        obtain rfl := Except.ok.inj (again.symm.trans named)
        rw [if_pos scripted]
        exact ⟨readable.runFits, rfl⟩
      | action used again registered =>
        obtain rfl := Except.ok.inj (again.symm.trans named)
        rw [if_neg (readable.unscripted used)]
        exact ⟨readable.usesFits, (addAction_proper ((Step.kind_of_uses used).symm.trans kind)).mpr
          ⟨_, registered, rfl⟩⟩

/-- The draft admits the parts one after another. -/
def AdmitsAll (draft : Draft) : List Part → Prop
  | [] => True
  | part :: rest => draft.Admits part ∧ (draft.put part).AdmitsAll rest

/-- The steps are read one by one, each on its own, and put into the draft in their order. -/
theorem addAll_ok_iff {raws : List Value} {index : Nat} {final : Draft} :
    addAll room registry job index draft raws = .ok final ↔
      ∃ parts, List.Forall₂ (Part.Reads room registry) raws parts ∧ draft.AdmitsAll parts ∧
        parts.foldl put draft = final := by
  induction raws generalizing index draft with
  | nil =>
    constructor
    · rintro ⟨⟩
      exact ⟨[], .nil, trivial, rfl⟩
    · rintro ⟨_, ⟨⟩, _, rfl⟩
      rfl
  | cons raw rest ih =>
    rw [addAll, bind_ok_iff]
    constructor
    · rintro ⟨next, added, others⟩
      obtain ⟨part, reads, admits, rfl⟩ := add_ok_iff.mp added
      obtain ⟨parts, all, admitsAll, rfl⟩ := ih.mp others
      exact ⟨part :: parts, .cons reads all, ⟨admits, admitsAll⟩, rfl⟩
    · rintro ⟨_, _ | ⟨reads, all⟩, ⟨admits, admitsAll⟩, rfl⟩
      exact ⟨_, add_ok_iff.mpr ⟨_, reads, admits, rfl⟩, ih.mpr ⟨_, all, admitsAll, rfl⟩⟩

theorem not_mem_dropLast_cons {α : Type} {a b : α} {rest : List α} :
    a ∉ (b :: rest).dropLast ↔ (rest ≠ [] → a ≠ b) ∧ a ∉ rest.dropLast := by
  cases rest <;> simp

/-- Parts are admitted when there is no more than one toolchain, and no deployment but as the last. -/
theorem admitsAll_iff {parts : List Part} :
    draft.AdmitsAll parts ↔
      (parts ≠ [] → draft.deploy = none) ∧ .deploy ∉ (parts.map Part.kind).dropLast ∧
      draft.toolchain.toList.length + (parts.map Part.kind).count .toolchain ≤ 1 := by
  induction parts generalizing draft with
  | nil => cases free : draft.toolchain <;> simp [AdmitsAll]
  | cons part rest ih =>
    rw [AdmitsAll, ih, List.map_cons, not_mem_dropLast_cons, List.count_cons]
    cases part with
    | step s =>
      simp only [Admits, put, Part.kind]
      grind
    | toolchain t =>
      have free : draft.toolchain = none ↔ draft.toolchain.toList.length = 0 := by
        cases draft.toolchain <;> simp
      simp only [Admits, put, Part.kind, free, Option.toList_some, List.length_singleton]
      grind
    | deploy d =>
      simp only [Admits, put, Part.kind, ne_eq, List.map_eq_nil_iff]
      grind

end Draft

theorem read_ok_iff {room : Nat} {registry : Registry} {id : String} {v : Value} {job : Job} :
    read room registry id v = .ok job ↔
      v.shape = .mapping ∧ ((v.under "steps").isTruthy = false ∨ (v.under "steps").shape = .list) ∧
      ∃ draft runsOn needs env, Draft.addAll room registry id 0 {} (rawSteps v) = .ok draft ∧
        readRunsOn room (v.under "runs-on") = .ok runsOn ∧
        (v.under "needs").asTexts room s!"jobs.{id}.needs" = .ok needs ∧
        (v.under "env").asEnv room s!"jobs.{id}.env" = .ok env ∧
        ⟨id, draft.steps, runsOn, draft.toolchain, draft.deploy, some needs, env⟩ = job := by
  unfold read
  split
  next raw seen =>
    have mapping := Value.shape_of_view seen
    obtain rfl := Value.entries_of_view seen
    simp only [bind_ok_iff, lift_ok_iff, readSteps_ok_iff]
    constructor
    · rintro ⟨_, ⟨steps, rfl⟩, draft, added, runsOn, image, needs, listed, env, set, made⟩
      exact ⟨mapping, steps, draft, runsOn, needs, env, added, image, listed, set,
        pure_ok_iff.mp made⟩
    · rintro ⟨_, steps, draft, runsOn, needs, env, added, image, listed, set, made⟩
      exact ⟨_, ⟨steps, rfl⟩, draft, added, runsOn, image, needs, listed, env, set,
        pure_ok_iff.mpr made⟩
  next other =>
    refine iff_of_false nofun fun ⟨mapping, _⟩ => ?_
    exact other _ (Value.view_of_shape mapping)

end Job

end LocalCI
