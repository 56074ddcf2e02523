import LocalCI.Job.Builder
import LocalCI.Proofs.Attempt
import LocalCI.Proofs.Workflow.Readers

/-! The two ways to declare a job in code. A builder that got some calls holds what the calls that were
not refused amount to, part by part: lists are joined, variables merged, and of the other parts the last
one counts. The job it builds is the one that is defined from these parts at once. -/
namespace LocalCI

open Attempt

namespace Env

variable {name other value : String}

def names (env : Env) : List String := env.vars.map Prod.fst

/-- A variable that is there has a first place. -/
theorem exists_split {vars : List (String × String)} (present : name ∈ vars.map Prod.fst) :
    ∃ before old after, vars = before ++ (name, old) :: after ∧ name ∉ before.map Prod.fst := by
  obtain ⟨front, back, parts, absent⟩ := List.eq_append_cons_of_mem present
  obtain ⟨before, rest, rfl, rfl, tail⟩ := List.map_eq_append_iff.mp parts
  obtain ⟨⟨found, old⟩, after, rfl, rfl, _⟩ := List.map_eq_cons_iff.mp tail
  exact ⟨before, old, after, rfl, absent⟩

theorem names_set (env : Env) :
    (env.set name value).names = if name ∈ env.names then env.names else env.names ++ [name] := by
  unfold names set
  by_cases present : name ∈ env.vars.map Prod.fst
  · obtain ⟨before, old, after, parts, absent⟩ := exists_split present
    rw [if_pos present, parts, Named.put_append absent]
    simp
  · rw [if_neg present, Named.put_of_not_mem present]
    simp

theorem mem_names_set {env : Env} :
    other ∈ (env.set name value).names ↔ other ∈ env.names ∨ other = name := by
  rw [names_set]
  by_cases present : name ∈ env.names
  · rw [if_pos present]
    constructor
    · exact Or.inl
    · rintro (member | rfl)
      · exact member
      · exact present
  · simp [if_neg present]

theorem set_set (env : Env) (old : String) :
    (env.set name old).set name value = env.set name value := by
  unfold set
  by_cases present : name ∈ env.vars.map Prod.fst
  · obtain ⟨before, older, after, parts, absent⟩ := exists_split present
    rw [parts, Named.put_append absent, Named.put_append absent, Named.put_append absent]
  · rw [Named.put_of_not_mem present, Named.put_of_not_mem present, Named.put_append present]

/-- A variable that has its place can be set before or after another one. -/
theorem set_comm {env : Env} (present : name ∈ env.names) (different : name ≠ other)
    (first : String) :
    (env.set other first).set name value = (env.set name value).set other first := by
  obtain ⟨vars⟩ := env
  simp only [set, Env.mk.injEq]
  induction vars with
  | nil => cases present
  | cons v rest ih =>
    by_cases same : v.1 = name
    · simp [Named.put, same, different]
    · have later : name ∈ rest.map Prod.fst := by simpa [names, Ne.symm same] using present
      by_cases target : v.1 = other
      · simp [Named.put, target, Ne.symm different]
      · simp [Named.put, same, target, ih later]

theorem overlay_set_of_not_mem {env : Env} {vars : List (String × String)}
    (present : name ∈ env.names) (absent : name ∉ vars.map Prod.fst) :
    (env.overlay ⟨vars⟩).set name value = (env.set name value).overlay ⟨vars⟩ := by
  induction vars generalizing env with
  | nil => rfl
  | cons v rest ih =>
    obtain ⟨different, absent⟩ := List.ne_and_not_mem_of_not_mem_cons absent
    have kept : name ∈ (env.set v.1 v.2).names := mem_names_set.mpr (Or.inl present)
    have next := ih kept absent
    rw [set_comm present different] at next
    exact next

/-- To set a variable on top is to set it in the upper variables. -/
theorem overlay_set (env : Env) {top : Env} (distinct : top.names.Nodup) :
    (env.overlay top).set name value = env.overlay (top.set name value) := by
  obtain ⟨vars⟩ := top
  by_cases present : name ∈ vars.map Prod.fst
  · obtain ⟨before, old, after, rfl, absent⟩ := exists_split present
    have once : name ∉ after.map Prod.fst := by
      have parts : (before.map Prod.fst ++ name :: after.map Prod.fst).Nodup := by
        simpa [names] using distinct
      exact (List.nodup_cons.mp (List.nodup_append.mp parts).2.1).1
    have upper : (Env.mk (before ++ (name, old) :: after)).set name value =
        ⟨before ++ (name, value) :: after⟩ := congrArg Env.mk (Named.put_append absent value old after)
    have split : ∀ v, env.overlay ⟨before ++ (name, v) :: after⟩ =
        ((env.overlay ⟨before⟩).set name v).overlay ⟨after⟩ := by
      intro v
      simp [overlay, List.foldl_append]
    have placed : name ∈ ((env.overlay ⟨before⟩).set name old).names :=
      mem_names_set.mpr (Or.inr rfl)
    rw [upper, split, split, overlay_set_of_not_mem placed once, set_set]
  · have upper : (Env.mk vars).set name value = ⟨vars ++ [(name, value)]⟩ :=
      congrArg Env.mk (Named.put_of_not_mem present value)
    rw [upper]
    simp [overlay, List.foldl_append]

theorem nodup_names_set {env : Env} (distinct : env.names.Nodup) :
    (env.set name value).names.Nodup := by
  rw [names_set]
  split
  next => exact distinct
  next absent =>
    refine List.nodup_append.mpr ⟨distinct, List.pairwise_singleton _ _, ?_⟩
    intro other member last final same
    obtain rfl := List.mem_singleton.mp final
    exact absent (same ▸ member)

/-- Variables that are put on top one after the other can be put together first. -/
theorem overlay_overlay (env : Env) {top : Env} (distinct : top.names.Nodup) (more : Env) :
    (env.overlay top).overlay more = env.overlay (top.overlay more) := by
  obtain ⟨vars⟩ := more
  induction vars generalizing top with
  | nil => rfl
  | cons v rest ih =>
    have distinctNext : (top.set v.1 v.2).names.Nodup := nodup_names_set distinct
    have next := ih distinctNext
    rw [← overlay_set env distinct] at next
    exact next

/-- It makes no difference whether the upper variables were set one by one before. -/
theorem overlay_empty_overlay (env top : Env) :
    env.overlay (({} : Env).overlay top) = env.overlay top := by
  have none : ({} : Env).names.Nodup := List.Pairwise.nil
  exact (overlay_overlay env none top).symm

end Env

/-- Values under their names, as they are given for variables. -/
abbrev Variables := List (String × Value)

namespace Variables

/-- Later values win over earlier ones, and a name keeps its first place. -/
def merge (first second : Variables) : Variables :=
  second.foldl (fun vars e => Named.put e.1 e.2 vars) first

def mergeAll (maps : List Variables) : Variables := maps.foldl merge []

/-- What keeps the first value that cannot be written from it. -/
def obstacle? (room : Nat) (vars : Variables) : Option Value.Obstacle :=
  vars.findSome? fun e => e.2.obstacle? room

/-- Every value can be written. -/
def fits (room : Nat) (vars : Variables) : Bool := vars.all fun e => e.2.fits room

def texts (vars : Variables) : Env := ⟨vars.map fun e => (e.1, e.2.toText)⟩

variable {room : Nat} {vars : Variables}

theorem obstacle?_eq_none : obstacle? room vars = none ↔ fits room vars = true := by
  simp [obstacle?, fits, Value.fits]

theorem ofValues_eq (room : Nat) (vars : Variables) :
    Env.ofValues room vars = match obstacle? room vars with
      | none => .ok (({} : Env).overlay (texts vars))
      | some o => .error o.fault := by
  unfold Env.ofValues
  -- The induction is on the values, from any variables that are set already.
  generalize ({} : Env) = start
  induction vars generalizing start with
  | nil => rfl
  | cons e rest ih =>
    obtain ⟨name, v⟩ := e
    rw [List.foldlM_cons]
    dsimp only
    rw [Value.asText_eq]
    cases found : v.obstacle? room with
    | none =>
      have same : obstacle? room ((name, v) :: rest) = obstacle? room rest := by
        simp [obstacle?, found]
      rw [same]
      exact ih (start.set name v.toText)
    | some o =>
      have first : obstacle? room ((name, v) :: rest) = some o := by simp [obstacle?, found]
      rw [first]
      rfl

theorem ofValues_of_fits (fit : fits room vars = true) :
    Env.ofValues room vars = .ok (({} : Env).overlay (texts vars)) := by
  rw [ofValues_eq, obstacle?_eq_none.mpr fit]

theorem texts_put (name : String) (v : Value) (vars : Variables) :
    texts (Named.put name v vars) = (texts vars).set name v.toText :=
  congrArg Env.mk (Named.map_put Value.toText name v vars)

theorem texts_merge (first second : Variables) :
    texts (merge first second) = (texts first).overlay (texts second) := by
  induction second generalizing first with
  | nil => rfl
  | cons e rest ih =>
    have next := ih (Named.put e.1 e.2 first)
    rw [texts_put] at next
    exact next

theorem texts_foldl_merge (first : Variables) (maps : List Variables) :
    texts (maps.foldl merge first) =
      maps.foldl (fun env vars => env.overlay (texts vars)) (texts first) := by
  induction maps generalizing first with
  | nil => rfl
  | cons vars rest ih => rw [List.foldl_cons, ih, texts_merge, List.foldl_cons]

/-- Variables that were merged are set as they are. -/
theorem overlay_texts_mergeAll (maps : List Variables) :
    ({} : Env).overlay (texts (mergeAll maps)) = texts (mergeAll maps) := by
  have flat : texts (mergeAll maps) =
      ({} : Env).overlay ⟨maps.flatMap fun vars => (texts vars).vars⟩ := by
    rw [mergeAll, texts_foldl_merge, Env.overlay, List.foldl_flatMap]
    rfl
  rw [flat]
  exact Env.overlay_empty_overlay _ _

theorem fits_merge {first second : Variables} (fit : fits room first = true)
    (others : fits room second = true) : fits room (merge first second) = true := by
  induction second generalizing first with
  | nil => exact fit
  | cons e rest ih =>
    simp only [fits, List.all_cons, Bool.and_eq_true] at others
    exact ih (Named.all_put others.1 fit) others.2

theorem fits_mergeAll {maps : List Variables} (each : ∀ vars ∈ maps, fits room vars = true) :
    fits room (mergeAll maps) = true := by
  have general : ∀ first, fits room first = true → fits room (maps.foldl merge first) = true := by
    induction maps with
    | nil => exact fun _ fit => fit
    | cons vars rest ih =>
      intro first fit
      obtain ⟨next, others⟩ := List.forall_mem_cons.mp each
      exact ih others _ (fits_merge fit next)
  exact general [] rfl

end Variables

namespace JobBuilder

/-- The parts of a job that calls are about. -/
inductive Component where
  | steps
  | needs
  | env
  | image
  | toolchain
  | deploy
deriving DecidableEq, Repr

namespace Call

def component : Call → Component
  | .dependsOn _ => .needs
  | .runsOn _ => .image
  | .defineStep _ _ _ => .steps
  | .useAction _ _ _ => .steps
  | .withToolchain _ => .toolchain
  | .deployTo _ => .deploy
  | .withEnv _ => .env

/-- The step of a call that is not refused. -/
def step? (room : Nat) (registry : Registry) : Call → Option Step
  | .defineStep name run cwd => (Step.sh room name run cwd []).toOption
  | .useAction name uses params => (Step.use room registry name uses params []).toOption
  | _ => none

@[simp] def names? : Call → Option (List String)
  | .dependsOn names => some names
  | _ => none

/-- The variables of a call that is not refused. -/
@[simp] def variables? (room : Nat) : Call → Option Variables
  | .withEnv values => if Variables.fits room values then some values else none
  | _ => none

/-- The image that is set; it may be set to none. -/
@[simp] def image? : Call → Option (Option String)
  | .runsOn image => some image
  | _ => none

@[simp] def toolchain? : Call → Option Toolchain
  | .withToolchain t => some t
  | _ => none

@[simp] def deploy? : Call → Option Deploy
  | .deployTo d => some d
  | _ => none

/-- Why a call is refused: an action is not known, or a value has no text. -/
inductive Refused (room : Nat) (registry : Registry) : Call → Fault → Prop where
  | action {name uses params e} : registry.resolve uses = .error e →
      Refused room registry (.useAction name uses params) (.workflow e)
  | value {values o} : Variables.obstacle? room values = some o →
      Refused room registry (.withEnv values) o.fault

end Call

/-- What a builder holds after some calls, part by part. -/
def gathered (room : Nat) (registry : Registry) (b : JobBuilder) (calls : List Call) : JobBuilder where
  name := b.name
  needs := b.needs ++ (calls.filterMap Call.names?).flatten
  steps := b.steps ++ calls.filterMap (Call.step? room registry)
  env := (calls.filterMap (Call.variables? room)).foldl (fun env vars => env.overlay (Variables.texts vars))
    b.env
  runsOn := (calls.filterMap Call.image?).getLast?.getD b.runsOn
  toolchain := (calls.filterMap Call.toolchain?).getLast?.or b.toolchain
  deploy := (calls.filterMap Call.deploy?).getLast?.or b.deploy

variable {room : Nat} {registry : Registry}

theorem gathered_nil (b : JobBuilder) : gathered room registry b [] = b := by
  simp [gathered]

theorem gathered_gathered (b : JobBuilder) (first second : List Call) :
    gathered room registry (gathered room registry b first) second =
      gathered room registry b (first ++ second) := by
  simp [gathered, List.foldl_append, List.getLast?_append, Option.or_assoc]

section Calls

theorem use_eq (name uses : String) (params : Entries) :
    Step.use room registry name uses params [] =
      match registry.resolve uses with
      | .ok handler => .ok (.action name uses handler params {})
      | .error e => .error (.workflow e) := by
  unfold Step.use
  cases registry.resolve uses <;> rfl

theorem call_useAction (name uses : String) (params : Entries) (b : JobBuilder) :
    call room registry (.useAction name uses params) b =
      match registry.resolve uses with
      | .ok handler =>
        (.ok (), { b with steps := b.steps ++ [.action name uses handler params {}] })
      | .error e => (.error (.workflow e), b) := by
  rw [call, bind_apply, ofExcept_apply, use_eq]
  cases registry.resolve uses <;> rfl

theorem call_withEnv (values : Variables) (b : JobBuilder) :
    call room registry (.withEnv values) b =
      match Variables.obstacle? room values with
      | none => (.ok (), { b with env := b.env.overlay (Variables.texts values) })
      | some o => (.error o.fault, b) := by
  have twice := Env.overlay_empty_overlay b.env (Variables.texts values)
  rw [call, bind_apply, ofExcept_apply, Variables.ofValues_eq]
  cases Variables.obstacle? room values with
  | none => exact congrArg (fun env => (Except.ok (), ({ b with env := env } : JobBuilder))) twice
  | some o => rfl

/-- One call adds what it amounts to; a refused one amounts to nothing. -/
theorem call_snd (c : Call) (b : JobBuilder) : (call room registry c b).2 = gathered room registry b [c] := by
  cases c with
  | useAction name uses params =>
    rw [call_useAction]
    cases resolved : registry.resolve uses with
    | error e =>
      have none : Call.step? room registry (.useAction name uses params) = none := by
        rw [Call.step?, use_eq, resolved]
        rfl
      simp [gathered, List.filterMap_cons, none]
    | ok handler =>
      have added : Call.step? room registry (.useAction name uses params) =
          some (.action name uses handler params {}) := by
        rw [Call.step?, use_eq, resolved]
        rfl
      simp [gathered, List.filterMap_cons, added]
  | withEnv values =>
    rw [call_withEnv]
    cases found : Variables.obstacle? room values with
    | none =>
      have fit : Variables.fits room values = true := Variables.obstacle?_eq_none.mp found
      simp [gathered, List.filterMap_cons, Call.step?, fit]
    | some o =>
      have unfit : ¬Variables.fits room values = true := fun fit => by
        simp [Variables.obstacle?_eq_none.mpr fit] at found
      simp [gathered, List.filterMap_cons, Call.step?, unfit]
  | defineStep name run cwd =>
    have added : Call.step? room registry (.defineStep name run cwd) = some (.shell name run cwd {}) := rfl
    simp [call, gathered, List.filterMap_cons, added]
  | dependsOn | runsOn | withToolchain | deployTo =>
    simp [call, gathered, List.filterMap_cons, Call.step?]

theorem call_fst_eq_error {c : Call} {b : JobBuilder} {f : Fault} :
    (call room registry c b).1 = .error f ↔ c.Refused room registry f := by
  constructor
  · intro failed
    cases c with
    | useAction name uses params =>
      rw [call_useAction] at failed
      cases resolved : registry.resolve uses with
      | error e =>
        rw [resolved] at failed
        cases failed
        exact .action resolved
      | ok handler =>
        rw [resolved] at failed
        cases failed
    | withEnv values =>
      rw [call_withEnv] at failed
      cases found : Variables.obstacle? room values with
      | none =>
        rw [found] at failed
        cases failed
      | some o =>
        rw [found] at failed
        cases failed
        exact .value found
    | _ => cases failed
  · intro refused
    cases refused with
    | action unresolved => rw [call_useAction, unresolved]
    | value found => rw [call_withEnv, found]

theorem call_of_refused {c : Call} {f : Fault} (refused : c.Refused room registry f) (b : JobBuilder) :
    (call room registry c b).2 = b := by
  cases refused with
  | action unresolved => rw [call_useAction, unresolved]
  | value found => rw [call_withEnv, found]

theorem after_eq_gathered (b : JobBuilder) (calls : List Call) :
    after room registry b calls = gathered room registry b calls := by
  induction calls generalizing b with
  | nil => exact (gathered_nil b).symm
  | cons c rest ih =>
    have next := ih (call room registry c b).2
    rw [call_snd, gathered_gathered] at next
    rw [after, List.foldl_cons, call_snd]
    exact next

end Calls

section Order

/-- What is taken from the calls about one part is not in the others. -/
theorem filterMap_component {β : Type} {f : Call → Option β} {part : Component}
    (only : ∀ c, c.component ≠ part → f c = none) (calls : List Call) :
    calls.filterMap f = (calls.filter fun c => c.component = part).filterMap f := by
  rw [List.filterMap_filter]
  refine List.filterMap_congr fun c _ => ?_
  by_cases about : c.component = part
  · simp [about]
  · simp [about, only c about]

/-- Calls may change places as long as those about the same part keep their order. -/
theorem gathered_congr (b : JobBuilder) {calls others : List Call}
    (same : ∀ part, (calls.filter fun c => c.component = part) =
      others.filter fun c => c.component = part) :
    gathered room registry b calls = gathered room registry b others := by
  have taken : ∀ {β : Type} {f : Call → Option β} {part : Component},
      (∀ c, c.component ≠ part → f c = none) → calls.filterMap f = others.filterMap f := by
    intro β f part only
    rw [filterMap_component only calls, filterMap_component only others, same part]
  have steps : ∀ c : Call, c.component ≠ .steps → c.step? room registry = none := by
    intro c
    cases c <;> simp [Call.component, Call.step?]
  have needs : ∀ c : Call, c.component ≠ .needs → c.names? = none := by
    intro c
    cases c <;> simp [Call.component]
  have env : ∀ c : Call, c.component ≠ .env → c.variables? room = none := by
    intro c
    cases c <;> simp [Call.component]
  have image : ∀ c : Call, c.component ≠ .image → c.image? = none := by
    intro c
    cases c <;> simp [Call.component]
  have toolchain : ∀ c : Call, c.component ≠ .toolchain → c.toolchain? = none := by
    intro c
    cases c <;> simp [Call.component]
  have deploy : ∀ c : Call, c.component ≠ .deploy → c.deploy? = none := by
    intro c
    cases c <;> simp [Call.component]
  simp only [gathered, taken steps, taken needs, taken env, taken image, taken toolchain, taken deploy]

theorem filter_swap {c d : Call} (different : c.component ≠ d.component) (before later : List Call)
    (part : Component) :
    ((before ++ c :: d :: later).filter fun x => x.component = part) =
      (before ++ d :: c :: later).filter fun x => x.component = part := by
  simp only [List.filter_append, List.filter_cons]
  by_cases first : c.component = part
  · have second : d.component ≠ part := fun same => different (first.trans same.symm)
    simp [first, second]
  · simp [first]

end Order

/-- A job that is built call by call is the job that is defined at once from what the calls amount to:
the steps in the order of the calls, all the names, the variables merged from left to right, and the last
image, toolchain and deployment. A call that is refused leaves the builder as it was, and calls about
different parts can be made in either order. -/
theorem build_eq_define (room : Nat) (registry : Registry) (name : String) (calls : List Call) :
    Job.define room name (calls.filterMap (Call.step? room registry)) (calls.filterMap Call.names?).flatten
        (Variables.mergeAll (calls.filterMap (Call.variables? room)))
        ((calls.filterMap Call.image?).getLast?.getD none)
        (calls.filterMap Call.toolchain?).getLast? (calls.filterMap Call.deploy?).getLast? .null =
      .ok (after room registry { name := name } calls).build ∧
    (∀ c b f, (call room registry c b).1 = .error f ↔ c.Refused room registry f) ∧
    (∀ c b f, c.Refused room registry f → (call room registry c b).2 = b) ∧
    ∀ b before c d later, c.component ≠ d.component →
      after room registry b (before ++ c :: d :: later) =
        after room registry b (before ++ d :: c :: later) := by
  refine ⟨?_, fun _ _ _ => call_fst_eq_error, fun _ b _ refused => call_of_refused refused b, ?_⟩
  · have fit : ∀ vars ∈ calls.filterMap (Call.variables? room), Variables.fits room vars = true := by
      intro vars member
      obtain ⟨c, _, given⟩ := List.mem_filterMap.mp member
      cases c with
      | withEnv values =>
        obtain ⟨fit, same⟩ := Option.ite_none_right_eq_some.mp given
        exact Option.some.inj same ▸ fit
      | _ => cases given
    have env : Env.ofValues room (Variables.mergeAll (calls.filterMap (Call.variables? room))) =
        .ok (Variables.texts (Variables.mergeAll (calls.filterMap (Call.variables? room)))) := by
      rw [Variables.ofValues_of_fits (Variables.fits_mergeAll fit), Variables.overlay_texts_mergeAll]
    rw [after_eq_gathered, Job.define, env, Variables.mergeAll, Variables.texts_foldl_merge]
    simp [gathered, build, Value.isNull, Variables.texts, bind, Except.bind, pure, Except.pure]
  · intro b before c d later different
    rw [after_eq_gathered, after_eq_gathered]
    exact gathered_congr b (filter_swap different before later)

end JobBuilder
end LocalCI
