import LocalCI.Proofs.Workflow.Parts

/-! Which values are jobs. What is asked of a job is asked of each of its steps by itself, apart from two
things: no more than one step selects a toolchain, and none but the last deploys. On top of that
everything that is taken as a text has to be one that can be written. -/
namespace LocalCI

/-- The keys and the values of a mapping. -/
def Value.members (v : Value) : List Value := v.entries.flatMap fun e => [.scalar e.1, e.2]

theorem Value.members_fit {room : Nat} {v : Value} :
    (∀ t ∈ v.members, t.fits room = true) ↔ v.entries.fit room = true := by
  rw [members, List.forall_mem_flatMap]
  simp [Entries.fit]

namespace Step

/-- The action selects a toolchain, deploys or is registered, and has its folder where it needs one. -/
def Serves (registry : Registry) (raw : Value) (action : String) : Prop :=
  (action ∈ Action.toolchainNames ∨ action ∈ Action.deployNames ∨
    (registry.find? action).isSome = true) ∧
  (action = "jamesives/github-pages-deploy-action" →
    ((raw.under "with").under "folder").isTruthy = true)

/-- What a written step has to be, apart from its texts being such as can be written. -/
structure Grammar (registry : Registry) (raw : Value) : Prop where
  mapping : raw.shape = .mapping
  /-- There is a script or an action, and not both. -/
  usesOrRun : (raw.under "uses").isTruthy ≠ (raw.under "run").isTruthy
  env : (raw.under "env").shape ∈ [.null, .mapping]
  params : (raw.under "with").isTruthy = false ∨ (raw.under "with").shape = .mapping
  /-- A script without a name is not blank. -/
  named : isNameless raw.entries = false
  serves : ∀ action ∈ action? raw, Serves registry raw action

/-- What is taken as a text of a written step. -/
def texts (raw : Value) : List Value :=
  [raw.under "name", raw.under "run", raw.under "uses"] ++ (raw.under "env").members ++
    (action? raw).toList.flatMap fun action =>
      (Action.textParams action).map (raw.under "with").under

variable {room : Nat} {registry : Registry} {raw : Value}

theorem textParams_of_proper {action : String} (proper : kindOf action = .proper) :
    Action.textParams action = [] := by
  obtain ⟨noToolchain, noDeploy⟩ := kindOf_eq_proper.mp proper
  simp only [Action.toolchainNames, Action.deployNames, List.mem_cons, List.not_mem_nil, or_false,
    not_or] at noToolchain noDeploy
  simp [Action.textParams, noToolchain, noDeploy]

theorem action?_of_uses (used : (raw.under "uses").isTruthy = true) :
    action? raw = some (Action.nameOf (raw.under "uses").toText) := if_pos used

theorem action?_of_not_uses (unused : (raw.under "uses").isTruthy = false) : action? raw = none :=
  if_neg (Bool.eq_false_iff.mp unused)

/-- What a readable step with an action is read as depends on the action alone. -/
theorem exists_of_uses (readable : Readable room raw) (used : (raw.under "uses").isTruthy = true) :
    (∃ part, Job.Part.Of room registry raw part) ↔
      Serves registry raw (Action.nameOf (raw.under "uses").toText) ∧
      ∀ key ∈ Action.textParams (Action.nameOf (raw.under "uses").toText),
        ((raw.under "with").under key).fits room = true := by
  have kind := kind_of_uses used
  obtain ⟨name, named⟩ := readable.named
  cases sort : kindOf (Action.nameOf (raw.under "uses").toText) with
  | toolchain =>
    have selects := kindOf_eq_toolchain.mp sort
    have serves : Serves registry raw (Action.nameOf (raw.under "uses").toText) :=
      ⟨Or.inl selects, fun same => absurd (same ▸ selects) (by decide)⟩
    rw [and_iff_right serves]
    refine Iff.trans ?_ (Toolchain.ofParams_succeeds selects)
    constructor
    · rintro ⟨_, made⟩
      cases made with
      | toolchain _ made => exact ⟨_, made⟩
      | step other _ => cases other.symm.trans (kind.trans sort)
      | deploy other _ => cases other.symm.trans (kind.trans sort)
    · rintro ⟨t, made⟩
      exact ⟨_, .toolchain (kind.trans sort) made⟩
  | deploy =>
    have names := (kindOf_eq_deploy.mp sort).2
    rw [Serves, and_iff_right (Or.inr (Or.inl names))]
    refine Iff.trans ?_ (Deploy.ofParams_succeeds names)
    constructor
    · rintro ⟨_, made⟩
      cases made with
      | deploy _ made => exact ⟨_, made⟩
      | step other _ => cases other.symm.trans (kind.trans sort)
      | toolchain other _ => cases other.symm.trans (kind.trans sort)
    · rintro ⟨d, made⟩
      exact ⟨_, .deploy (kind.trans sort) made⟩
  | proper =>
    obtain ⟨noToolchain, noDeploy⟩ := kindOf_eq_proper.mp sort
    rw [textParams_of_proper sort]
    constructor
    · rintro ⟨_, made⟩
      cases made with
      | step _ mirrors =>
        cases mirrors with
        | shell scripted _ => exact absurd scripted (readable.unscripted used)
        | action _ _ registered =>
          refine ⟨⟨Or.inr (Or.inr (Option.isSome_of_mem registered)), fun same => ?_⟩, by simp⟩
          exact absurd (same ▸ noDeploy) (by decide)
      | toolchain other _ => cases other.symm.trans (kind.trans sort)
      | deploy other _ => cases other.symm.trans (kind.trans sort)
    · rintro ⟨⟨known, _⟩, _⟩
      obtain ⟨handler, registered⟩ := Option.isSome_iff_exists.mp
        ((known.resolve_left noToolchain).resolve_left noDeploy)
      exact ⟨_, .step (kind.trans sort) (.action used named registered)⟩

/-- A script is read as a step, whatever else is registered. -/
theorem exists_of_run (readable : Readable room raw) (unused : (raw.under "uses").isTruthy = false) :
    ∃ part, Job.Part.Of room registry raw part := by
  obtain ⟨name, named⟩ := readable.named
  have scripted : (raw.under "run").isTruthy = true := by
    rw [← Bool.not_eq_false]
    exact fun empty => readable.usesOrRun (unused.trans empty.symm)
  exact ⟨_, .step (kind_of_not_uses unused) (.shell scripted named)⟩

theorem exists_of_iff (readable : Readable room raw) :
    (∃ part, Job.Part.Of room registry raw part) ↔
      ∀ action ∈ action? raw, Serves registry raw action ∧
        ∀ key ∈ Action.textParams action, ((raw.under "with").under key).fits room = true := by
  cases used : (raw.under "uses").isTruthy with
  | true => simp [exists_of_uses readable used, action?_of_uses used]
  | false => simp [exists_of_run readable used, action?_of_not_uses used]

theorem texts_fit :
    (∀ t ∈ texts raw, t.fits room = true) ↔
      (raw.under "name").fits room = true ∧ (raw.under "run").fits room = true ∧
      (raw.under "uses").fits room = true ∧ (∀ t ∈ (raw.under "env").members, t.fits room = true) ∧
      ∀ action ∈ action? raw, ∀ key ∈ Action.textParams action,
        ((raw.under "with").under key).fits room = true := by
  simp only [texts, List.forall_mem_append, List.forall_mem_cons, List.not_mem_nil, false_implies,
    implies_true, true_and, List.forall_mem_flatMap, List.forall_mem_map, Option.mem_toList,
    Option.mem_def, and_assoc]

theorem readable_iff :
    Readable room raw ↔
      raw.shape = .mapping ∧ (raw.under "uses").isTruthy ≠ (raw.under "run").isTruthy ∧
      (raw.under "env").shape ∈ [.null, .mapping] ∧
      ((raw.under "with").isTruthy = false ∨ (raw.under "with").shape = .mapping) ∧
      isNameless raw.entries = false ∧
      (raw.under "name").fits room = true ∧ (raw.under "run").fits room = true ∧
      (raw.under "uses").fits room = true ∧ ∀ t ∈ (raw.under "env").members, t.fits room = true := by
  rw [Value.members_fit]
  constructor
  · rintro ⟨mapping, usesOrRun, named, env, envFits, params, uses, run⟩
    obtain ⟨name, nameless⟩ := (readName_succeeds run uses).mp named
    exact ⟨mapping, usesOrRun, env, params, nameless, name, run, uses, envFits⟩
  · rintro ⟨mapping, usesOrRun, env, params, nameless, name, run, uses, envFits⟩
    exact ⟨mapping, usesOrRun, (readName_succeeds run uses).mpr ⟨name, nameless⟩, env, envFits,
      params, uses, run⟩

/-- A written step is read just when it follows the grammar and its texts can be written. -/
theorem exists_reads_iff :
    (∃ part, Job.Part.Reads room registry raw part) ↔
      Grammar registry raw ∧ ∀ t ∈ texts raw, t.fits room = true := by
  rw [texts_fit]
  constructor
  · rintro ⟨part, readable, made⟩
    have serves := (exists_of_iff readable).mp ⟨part, made⟩
    obtain ⟨mapping, usesOrRun, env, params, named, name, run, uses, set⟩ := readable_iff.mp readable
    exact ⟨⟨mapping, usesOrRun, env, params, named, fun action used => (serves action used).1⟩,
      name, run, uses, set, fun action used => (serves action used).2⟩
  · rintro ⟨⟨mapping, usesOrRun, env, params, named, serves⟩, name, run, uses, set, given⟩
    have readable := readable_iff.mpr ⟨mapping, usesOrRun, env, params, named, name, run, uses, set⟩
    obtain ⟨part, made⟩ := (exists_of_iff readable).mpr fun action used =>
      ⟨serves action used, given action used⟩
    exact ⟨part, readable, made⟩

end Step

namespace Job

/-- What a job has to be, apart from its texts being such as can be written. -/
structure Grammar (registry : Registry) (v : Value) : Prop where
  mapping : v.shape = .mapping
  steps : (v.under "steps").isTruthy = false ∨ (v.under "steps").shape = .list
  each : ∀ raw ∈ rawSteps v, Step.Grammar registry raw
  toolchain : ((rawSteps v).map Step.kind).count .toolchain ≤ 1
  deploy : .deploy ∉ ((rawSteps v).map Step.kind).dropLast
  runsOn : (v.under "runs-on").shape ∈ [.null, .text, .list]
  needs : (v.under "needs").shape ∈ [.null, .text, .list]
  env : (v.under "env").shape ∈ [.null, .mapping]

/-- What is taken as a text of a job. -/
def texts (v : Value) : List Value :=
  (rawSteps v).flatMap Step.texts ++ (v.under "runs-on").items ++ (v.under "needs").items ++
    (v.under "env").members

variable {room : Nat} {registry : Registry}

theorem addAll_succeeds {job : String} {index : Nat} {raws : List Value} :
    Succeeds (Draft.addAll room registry job index {} raws) ↔
      (∀ raw ∈ raws, ∃ part, Part.Reads room registry raw part) ∧
      .deploy ∉ (raws.map Step.kind).dropLast ∧ (raws.map Step.kind).count .toolchain ≤ 1 := by
  rw [← exists_forall₂_iff]
  constructor
  · rintro ⟨draft, added⟩
    obtain ⟨parts, reads, admits, _⟩ := Draft.addAll_ok_iff.mp added
    obtain ⟨_, deploy, toolchain⟩ := Draft.admitsAll_iff.mp admits
    rw [Part.map_kind_eq reads]
    exact ⟨⟨parts, reads⟩, deploy, by simpa using toolchain⟩
  · rintro ⟨⟨parts, reads⟩, deploy, toolchain⟩
    rw [Part.map_kind_eq reads] at deploy toolchain
    have admits : Draft.AdmitsAll {} parts :=
      Draft.admitsAll_iff.mpr ⟨fun _ => rfl, deploy, by simpa using toolchain⟩
    exact ⟨_, Draft.addAll_ok_iff.mpr ⟨parts, reads, admits, rfl⟩⟩

theorem read_succeeds {id : String} {v : Value} :
    Succeeds (read room registry id v) ↔
      v.shape = .mapping ∧ ((v.under "steps").isTruthy = false ∨ (v.under "steps").shape = .list) ∧
      Succeeds (Draft.addAll room registry id 0 {} (rawSteps v)) ∧
      Succeeds (readRunsOn room (v.under "runs-on")) ∧
      Succeeds ((v.under "needs").asTexts room s!"jobs.{id}.needs") ∧
      Succeeds ((v.under "env").asEnv room s!"jobs.{id}.env") := by
  constructor
  · rintro ⟨job, read⟩
    obtain ⟨mapping, steps, draft, runsOn, needs, env, added, image, listed, set, _⟩ :=
      read_ok_iff.mp read
    exact ⟨mapping, steps, ⟨draft, added⟩, ⟨runsOn, image⟩, ⟨needs, listed⟩, env, set⟩
  · rintro ⟨mapping, steps, ⟨draft, added⟩, ⟨runsOn, image⟩, ⟨needs, listed⟩, env, set⟩
    exact ⟨_, read_ok_iff.mpr ⟨mapping, steps, draft, runsOn, needs, env, added, image, listed, set,
      rfl⟩⟩

/-- A value is read as a job just when it follows the grammar of jobs and everything that is taken as a
text can be written. -/
theorem read_accepts_grammar (room : Nat) (registry : Registry) (id : String) (v : Value) :
    (∃ job, read room registry id v = .ok job) ↔
      Grammar registry v ∧ ∀ t ∈ texts v, t.fits room = true := by
  have accepted : Succeeds (read room registry id v) ↔ _ := read_succeeds
  simp only [addAll_succeeds, Step.exists_reads_iff, readRunsOn_succeeds, Value.asTexts_succeeds,
    Value.asEnv_succeeds, ← Value.members_fit] at accepted
  refine accepted.trans ?_
  simp only [texts, List.forall_mem_append, List.forall_mem_flatMap]
  constructor
  · rintro ⟨mapping, steps, ⟨each, deploy, toolchain⟩, ⟨runsOn, images⟩, ⟨needs, needed⟩, env, set⟩
    exact ⟨⟨mapping, steps, fun raw member => (each raw member).1, toolchain, deploy, runsOn, needs, env⟩,
      ⟨⟨fun raw member => (each raw member).2, images⟩, needed⟩, set⟩
  · rintro ⟨⟨mapping, steps, each, toolchain, deploy, runsOn, needs, env⟩, ⟨⟨written, images⟩, needed⟩, set⟩
    exact ⟨mapping, steps, ⟨fun raw member => ⟨each raw member, written raw member⟩, deploy, toolchain⟩,
      ⟨runsOn, images⟩, ⟨needs, needed⟩, env, set⟩

/-- A job that needs one other, whatever that is called. -/
def needing (name : Value) : Value := .map [(.text "needs", .list [name])]

theorem needing_grammar (name : Value) : Grammar registry (needing name) where
  mapping := rfl
  steps := Or.inl rfl
  each := nofun
  toolchain := Nat.zero_le 1
  deploy := nofun
  runsOn := List.mem_cons_self
  needs := by
    change Shape.list ∈ [.null, .text, .list]
    decide
  env := List.mem_cons_self

theorem needing_refused {id : String} {name : Value} {f : Fault} (unwritten : name.asText room = .error f) :
    ¬ ∃ job, read room registry id (needing name) = .ok job := by
  intro accepted
  obtain ⟨_, _, _, _, needs, _⟩ := read_succeeds.mp accepted
  have fit : name.fits room = true := ((Value.asTexts_succeeds _).mp needs).2 _ List.mem_cons_self
  cases (Value.asText_of_fits fit).symm.trans unwritten

/-- The least number that is too long to be written names no job, and neither do lists for which there is
no room, though a list of either has the shape that the grammar asks for. -/
theorem read_refuses_grammar :
    Grammar .builtin (needing (.scalar (.int (Nat.pow 10 Text.digitLimit)))) ∧
    (¬ ∃ job, read 900 .builtin "build"
      (needing (.scalar (.int (Nat.pow 10 Text.digitLimit)))) = .ok job) ∧
    Grammar .builtin (needing (Workflow.nested 901)) ∧
    ¬ ∃ job, read 900 .builtin "build" (needing (Workflow.nested 901)) = .ok job :=
  ⟨needing_grammar _, needing_refused (Workflow.digitLimit_asText 900), needing_grammar _,
    needing_refused (Workflow.nested_asText 900)⟩

end Job

end LocalCI
