import LocalCI.Proofs.Workflow.Parts

/-! Reading keeps every step. The steps of a job are split three ways in one pass: what is neither toolchain
nor deployment stays in its order, and the two others are what one step of their kind says. -/
namespace LocalCI

namespace Job

/-- What is read of a job is what is written, step by step. -/
structure Keeps (room : Nat) (registry : Registry) (raw : Value) (job : Job) : Prop where
  usesOrRun : ∀ step ∈ rawSteps raw, (step.under "uses").isTruthy ≠ (step.under "run").isTruthy
  steps : List.Forall₂ (Step.Mirrors room registry)
    ((rawSteps raw).filter fun step => Step.kind step = .proper) job.steps
  toolchain_iff : job.toolchain.isSome = true ↔ ∃ step ∈ rawSteps raw, Step.kind step = .toolchain
  toolchain_of : ∀ step ∈ rawSteps raw, Step.kind step = .toolchain → ∃ t, job.toolchain = some t ∧
    Toolchain.ofParams room (step.under "uses").toText (step.under "with").entries = .ok t
  deploy_iff : job.deploy.isSome = true ↔
    ∃ last, (rawSteps raw).getLast? = some last ∧ Step.kind last = .deploy
  deploy_of : ∀ last, (rawSteps raw).getLast? = some last → Step.kind last = .deploy →
    ∃ d, job.deploy = some d ∧
      Deploy.ofParams room (last.under "uses").toText (last.under "with").entries = .ok d
  /-- Nothing else is made of a step, and nothing is made of none. -/
  count : (rawSteps raw).length =
    job.steps.length + job.toolchain.toList.length + job.deploy.toList.length

namespace Part

variable {room : Nat} {registry : Registry} {raws : List Value} {parts : List Part}

def step? : Part → Option Step
  | .step s => some s
  | _ => none

theorem exists_reads (reads : List.Forall₂ (Reads room registry) raws parts) {raw : Value}
    (member : raw ∈ raws) : ∃ part ∈ parts, Reads room registry raw part := by
  induction reads with
  | nil => cases member
  | cons first _ ih =>
    rcases List.mem_cons.mp member with rfl | later
    · exact ⟨_, List.mem_cons_self, first⟩
    · obtain ⟨part, found, same⟩ := ih later
      exact ⟨part, List.mem_cons_of_mem _ found, same⟩

theorem mirrors_steps (reads : List.Forall₂ (Reads room registry) raws parts) :
    List.Forall₂ (Step.Mirrors room registry) (raws.filter fun step => Step.kind step = .proper)
      (parts.filterMap step?) := by
  induction reads with
  | nil => exact .nil
  | cons first _ ih =>
    cases first.made with
    | step kind mirrors =>
      rw [List.filter_cons_of_pos (by simpa using kind)]
      exact .cons mirrors ih
    | toolchain kind _ =>
      rw [List.filter_cons_of_neg (by simp [kind])]
      exact ih
    | deploy kind _ =>
      rw [List.filter_cons_of_neg (by simp [kind])]
      exact ih

theorem Of.toolchain_of_kind {raw : Value} {part : Part} (made : Of room registry raw part)
    (kind : Step.kind raw = .toolchain) : ∃ t, part = .toolchain t ∧
      Toolchain.ofParams room (raw.under "uses").toText (raw.under "with").entries = .ok t := by
  cases made with
  | toolchain _ made => exact ⟨_, rfl, made⟩
  | step other _ => cases kind.symm.trans other
  | deploy other _ => cases kind.symm.trans other

theorem Of.deploy_of_kind {raw : Value} {part : Part} (made : Of room registry raw part)
    (kind : Step.kind raw = .deploy) : ∃ d, part = .deploy d ∧
      Deploy.ofParams room (raw.under "uses").toText (raw.under "with").entries = .ok d := by
  cases made with
  | deploy _ made => exact ⟨_, rfl, made⟩
  | step other _ => cases kind.symm.trans other
  | toolchain other _ => cases kind.symm.trans other

end Part

namespace Draft

variable {draft : Draft} {parts : List Part}

theorem steps_foldl_put : (parts.foldl put draft).steps = draft.steps ++ parts.filterMap Part.step? := by
  induction parts generalizing draft with
  | nil => simp
  | cons part rest ih =>
    rw [List.foldl_cons, ih]
    cases part <;> simp [put, Part.step?, List.filterMap_cons]

/-- A toolchain that was put in stays, as no other is admitted after it. -/
theorem toolchain_foldl_put (admits : draft.AdmitsAll parts) {t : Toolchain} :
    (parts.foldl put draft).toolchain = some t ↔
      draft.toolchain = some t ∨ Part.toolchain t ∈ parts := by
  induction parts generalizing draft with
  | nil => simp
  | cons part rest ih =>
    rw [List.foldl_cons, ih admits.2]
    cases part with
    | step s => simp [put]
    | toolchain other => simp [put, admits.1.2 rfl, eq_comm]
    | deploy d => simp [put]

theorem deploy_foldl_put (admits : draft.AdmitsAll parts) {d : Deploy} :
    (parts.foldl put draft).deploy = some d ↔ draft.deploy = some d ∨ Part.deploy d ∈ parts := by
  induction parts generalizing draft with
  | nil => simp
  | cons part rest ih =>
    rw [List.foldl_cons, ih admits.2]
    cases part with
    | step s => simp [put]
    | toolchain t => simp [put]
    | deploy other => simp [put, admits.1.1, eq_comm]

section Reads

variable {room : Nat} {registry : Registry} {raws : List Value} {raw : Value}

theorem toolchain_of_reads (reads : List.Forall₂ (Part.Reads room registry) raws parts)
    (admits : draft.AdmitsAll parts) (member : raw ∈ raws) (kind : Step.kind raw = .toolchain) :
    ∃ t, (parts.foldl put draft).toolchain = some t ∧
      Toolchain.ofParams room (raw.under "uses").toText (raw.under "with").entries = .ok t := by
  obtain ⟨_, listed, reading⟩ := Part.exists_reads reads member
  obtain ⟨t, rfl, made⟩ := reading.made.toolchain_of_kind kind
  exact ⟨t, (toolchain_foldl_put admits).mpr (.inr listed), made⟩

theorem deploy_of_reads (reads : List.Forall₂ (Part.Reads room registry) raws parts)
    (admits : draft.AdmitsAll parts) (member : raw ∈ raws) (kind : Step.kind raw = .deploy) :
    ∃ d, (parts.foldl put draft).deploy = some d ∧
      Deploy.ofParams room (raw.under "uses").toText (raw.under "with").entries = .ok d := by
  obtain ⟨_, listed, reading⟩ := Part.exists_reads reads member
  obtain ⟨d, rfl, made⟩ := reading.made.deploy_of_kind kind
  exact ⟨d, (deploy_foldl_put admits).mpr (.inr listed), made⟩

end Reads

/-- How much a draft holds. -/
def size (draft : Draft) : Nat :=
  draft.steps.length + draft.toolchain.toList.length + draft.deploy.toList.length

/-- What is admitted has its own place in the draft. -/
theorem size_put {part : Part} (admits : draft.Admits part) : (draft.put part).size = draft.size + 1 := by
  cases part with
  | step s =>
    simp only [size, put, List.length_append, List.length_singleton]
    omega
  | toolchain t => simp [size, put, admits.2 rfl]; omega
  | deploy d => simp [size, put, admits.1]

theorem size_foldl_put (admits : draft.AdmitsAll parts) :
    (parts.foldl put draft).size = draft.size + parts.length := by
  induction parts generalizing draft with
  | nil => rfl
  | cons part rest ih =>
    rw [List.foldl_cons, ih admits.2, size_put admits.1, List.length_cons]
    omega

end Draft

theorem getLast?_of_not_mem_dropLast {α : Type} {a : α} {items : List α} (member : a ∈ items)
    (last : a ∉ items.dropLast) : items.getLast? = some a := by
  rcases List.eq_nil_or_concat items with rfl | ⟨before, b, rfl⟩
  · cases member
  · simp_all

theorem read_keeps {room : Nat} {registry : Registry} {id : String} {v : Value} {job : Job}
    (loaded : read room registry id v = .ok job) : job.name = id ∧ Keeps room registry v job := by
  obtain ⟨_, _, draft, runsOn, needs, env, added, _, _, _, rfl⟩ := read_ok_iff.mp loaded
  obtain ⟨parts, reads, admits, rfl⟩ := Draft.addAll_ok_iff.mp added
  have kinds := Part.map_kind_eq reads
  refine ⟨rfl, fun step member => ?_, ?_, ⟨fun set => ?_, ?_⟩,
    fun _ => Draft.toolchain_of_reads reads admits, ⟨fun set => ?_, ?_⟩,
    fun _ ends => Draft.deploy_of_reads reads admits (List.mem_of_getLast? ends), ?_⟩
  · obtain ⟨_, _, reading⟩ := Part.exists_reads reads member
    exact reading.readable.usesOrRun
  · dsimp only
    rw [Draft.steps_foldl_put]
    exact Part.mirrors_steps reads
  · obtain ⟨t, held⟩ := Option.isSome_iff_exists.mp set
    have listed := ((Draft.toolchain_foldl_put admits).mp held).resolve_left nofun
    have member : .toolchain ∈ (rawSteps v).map Step.kind :=
      kinds ▸ List.mem_map.mpr ⟨_, listed, rfl⟩
    exact List.mem_map.mp member
  · rintro ⟨step, member, kind⟩
    obtain ⟨t, held, _⟩ := Draft.toolchain_of_reads reads admits member kind
    exact Option.isSome_iff_exists.mpr ⟨t, held⟩
  · obtain ⟨d, held⟩ := Option.isSome_iff_exists.mp set
    have listed := ((Draft.deploy_foldl_put admits).mp held).resolve_left nofun
    have ends := getLast?_of_not_mem_dropLast (List.mem_map.mpr ⟨_, listed, rfl⟩)
      (Draft.admitsAll_iff.mp admits).2.1
    rw [← kinds, List.getLast?_map] at ends
    exact Option.map_eq_some_iff.mp ends
  · rintro ⟨last, ends, kind⟩
    obtain ⟨d, held, _⟩ := Draft.deploy_of_reads reads admits (List.mem_of_getLast? ends) kind
    exact Option.isSome_iff_exists.mpr ⟨d, held⟩
  · have all : (parts.foldl Draft.put {}).size = _ := Draft.size_foldl_put admits
    rw [reads.length_eq]
    exact (Nat.zero_add _).symm.trans all.symm

end Job

namespace Workflow

theorem readJob_keeps {room : Nat} {registry : Registry} {shared : Env} {key : Scalar} {raw : Value}
    {job : Job} (loaded : readJob room registry shared key raw = .ok job) :
    job.name = key.toText ∧ Job.Keeps room registry raw job := by
  obtain ⟨id, written, rest⟩ := bind_ok_iff.mp loaded
  obtain ⟨own, read, ⟨⟩⟩ := bind_ok_iff.mp rest
  obtain ⟨_, rfl⟩ := (Value.asText_ok_iff (v := .scalar key)).mp written
  obtain ⟨named, kept⟩ := Job.read_keeps read
  exact ⟨named, ⟨kept.usesOrRun, kept.steps, kept.toolchain_iff, kept.toolchain_of, kept.deploy_iff,
    kept.deploy_of, kept.count⟩⟩

/-- A workflow that is read has one job for each that is written, in their order, and no step of them is
lost, doubled or moved. -/
theorem read_keeps_steps {room : Nat} {registry : Registry} {defaultName : String} {v : Value} {w : Workflow}
    (loaded : read room registry defaultName v = .ok w) :
    List.Forall₂ (fun entry job => job.name = entry.1.toText ∧ Job.Keeps room registry entry.2 job)
      (v.under "jobs").entries w.jobs := by
  unfold read at loaded
  split at loaded
  next data seen =>
    obtain rfl := Value.entries_of_view seen
    obtain ⟨_, _, loaded⟩ := bind_ok_iff.mp loaded
    obtain ⟨rawJobs, listed, loaded⟩ := bind_ok_iff.mp loaded
    obtain ⟨shared, _, loaded⟩ := bind_ok_iff.mp loaded
    obtain ⟨jobs, each, loaded⟩ := bind_ok_iff.mp loaded
    obtain ⟨_, _, ⟨⟩⟩ := bind_ok_iff.mp loaded
    obtain rfl := readJobs_eq_ok (Job.eq_ok_of_lift listed)
    exact (mapM_ok_iff.mp each).imp fun _ _ => readJob_keeps
  next => cases loaded

/-- Documentation that is built with a toolchain of its own and published, and a check of it. -/
def docs : Value :=
  let text (s : String) : Value := .scalar (.text s)
  let map (entries : List (String × Value)) : Value := .map (entries.map fun e => (.text e.1, e.2))
  let uses (action : String) (params : List (String × Value)) : Value :=
    map [("uses", text action), ("with", map params)]
  map [("on", text "push"), ("jobs", map [
    ("docs", map [("steps", .list [
      map [("uses", text "actions/checkout@v2")],
      uses "actions-rs/toolchain@v1" [("toolchain", text "nightly"), ("override", .scalar (.bool true))],
      map [("run", text "cd editor\ncargo doc")],
      map [("name", text "List"), ("run", text "ls")],
      uses "JamesIves/github-pages-deploy-action@4.1.5"
        [("folder", text "editor/docs"), ("branch", text "docs")]])]),
    ("check", map [("needs", text "docs"), ("steps", .list [
      map [("run", text "ls")],
      uses "dtolnay/rust-toolchain@beta" []])])])]

theorem read_keeps_steps_docs :
    ∃ w, read 900 .builtin "ci" docs = .ok w ∧
      w.jobs.map (fun job => job.steps.map Step.display) =
        [["uses: actions/checkout@v2", "cd editor\ncargo doc", "ls"], ["ls"]] ∧
      w.jobs.map (fun job => (job.toolchain, job.deploy)) =
        [(some ⟨"rust", "nightly", true, none⟩, some ⟨"editor/docs", "docs"⟩),
          (some ⟨"rust", "beta", true, some "minimal"⟩, none)] ∧
      List.Forall₂ (fun entry job => job.name = entry.1.toText ∧ Job.Keeps 900 .builtin entry.2 job)
        (docs.under "jobs").entries w.jobs := by
  have steps : (read 900 .builtin "ci" docs).toOption.map (·.jobs.map (·.steps.map Step.display)) =
      some [["uses: actions/checkout@v2", "cd editor\ncargo doc", "ls"], ["ls"]] := by
    decide +kernel
  have others : ((read 900 .builtin "ci" docs).toOption.map fun w =>
        w.jobs.map fun job => (job.toolchain, job.deploy)) =
      some [(some ⟨"rust", "nightly", true, none⟩, some ⟨"editor/docs", "docs"⟩),
        (some ⟨"rust", "beta", true, some "minimal"⟩, none)] := by
    decide +kernel
  cases result : read 900 .builtin "ci" docs with
  | error e =>
    rw [result] at steps
    cases steps
  | ok w =>
    rw [result] at steps others
    exact ⟨w, rfl, Option.some.inj steps, Option.some.inj others, read_keeps_steps result⟩

end Workflow

end LocalCI
