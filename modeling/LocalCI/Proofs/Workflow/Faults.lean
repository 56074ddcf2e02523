import LocalCI.Proofs.Attempt
import LocalCI.Proofs.Value.Writing
import LocalCI.Workflow.Reader
import Mathlib.Data.List.TakeWhile

/-! Why data is refused as a workflow. Every reader refuses in its own words, and three things besides
end the reading: a script that is blank where the name of its step is taken from it, a whole number that
is too long to be written, and data that is nested too deeply to be written. -/
namespace LocalCI

namespace Text

theorem linesFrom_ne_nil {line cs : List Char} (some : line ≠ [] ∨ cs ≠ []) :
    linesFrom line cs ≠ [] := by
  fun_induction linesFrom line cs with
  | case1 line empty => simp_all
  | case2 line filled => simp
  | case3 line rest ih => simp
  | case4 line c rest _ breaks ih => simp
  | case5 line c rest _ breaks ih => exact ih (Or.inl (List.cons_ne_nil _ _))

theorem eq_empty_of_lines_eq_nil {s : String} (none : lines s = []) : s = "" := by
  by_contra filled
  have nonempty : s.toList ≠ [] := by simpa using filled
  exact linesFrom_ne_nil (Or.inr nonempty) (List.map_eq_nil_iff.mp none)

theorem isBlankText_of_strip_eq_empty {s : String} (none : strip s = "") : isBlankText s = true := by
  have trimmed : trim s.toList = [] := by simpa [strip] using none
  have inner : ∀ c ∈ s.toList.dropWhile isBlank, isBlank c = true := by
    simpa [trim, trimEnd, trimStart] using trimmed
  rw [isBlankText, List.all_eq_true]
  intro c member
  rw [← List.takeWhile_append_dropWhile (p := isBlank) (l := s.toList)] at member
  rcases List.mem_append.mp member with before | after
  · exact List.mem_takeWhile_imp before
  · exact inner c after

end Text

/-- The faults that reading may end with: a word of refusal, and three that tell what is in the data. -/
inductive Fault.Expected (data : Value) (room : Nat) (blank : Prop) : Fault → Prop where
  | workflow (e : WorkflowError) : Expected data room blank (.workflow e)
  | blankCommand : blank → Expected data room blank .blankCommand
  | noInteger (e : Text.IntegerError) : data.isWritable = false → Expected data room blank (.noInteger e)
  | tooDeep {v : Value} : data.Part v → room < v.height → Expected data room blank .tooDeep

section Readers

-- All readers are at parts of the same data, and `blank` stands for its having a step without a name.
variable {data : Value} {room : Nat} {blank : Prop}

theorem Value.asText_refuses {v : Value} (part : data.Part v) :
    Refuses (Fault.Expected data room blank) (v.asText room) := by
  rw [asText_eq]
  split
  next => exact .ok _
  next o found =>
    have tells := obstacleWithin_tells v found
    cases o with
    | number =>
      have long : v.isWritable = false := tells
      exact .error (.noInteger _ (Bool.eq_false_iff.mpr fun short => by simp [part.isWritable short] at long))
    | depth => exact .error (.tooDeep part tells)

theorem Value.asTexts_refuses (what : String) {v : Value} (part : data.Part v) :
    Refuses (Fault.Expected data room blank) (v.asTexts room what) := by
  unfold asTexts
  split
  · exact .ok _
  · exact .ok _
  · next items seen =>
    rw [← items_of_view seen]
    exact .mapM fun u member => asText_refuses (part.item member)
  · exact .error (.workflow _)

theorem Entries.toEnv_refuses {entries : Entries} (parts : data.Parts entries) :
    Refuses (Fault.Expected data room blank) (toEnv room entries) :=
  .foldlM (fun _ e member => .bind (Value.asText_refuses (parts e member).1) fun _ _ =>
    .bind (Value.asText_refuses (parts e member).2) fun _ _ => .ok _) _

theorem Value.asEnv_refuses (what : String) {v : Value} (part : data.Part v) :
    Refuses (Fault.Expected data room blank) (v.asEnv room what) := by
  unfold asEnv
  split
  · exact .ok _
  · next entries seen =>
    rw [← entries_of_view seen]
    exact Entries.toEnv_refuses part.entries
  · exact .error (.workflow _)

theorem Value.textOr_refuses (default : String) {v : Value} (part : data.Part v) :
    Refuses (Fault.Expected data room blank) (v.textOr room default) := by
  unfold textOr
  split
  · exact asText_refuses part
  · exact .ok _

theorem Rule.ofEntry_refuses {key : Scalar} {config : Value} (named : data.Part (.scalar key))
    (part : data.Part config) : Refuses (Fault.Expected data room blank) (ofEntry room key config) := by
  refine .bind (Value.asText_refuses named) fun event _ => ?_
  split
  · next entries seen =>
    dsimp only
    split
    · exact .ok _
    · refine .bind (Value.asTexts_refuses _ ?_) fun _ _ => .ok _
      rw [← Value.entries_of_view seen]
      exact part.entries.valueAt _
  · exact .ok _

theorem Rule.readAll_refuses {v : Value} (part : data.Part v) :
    Refuses (Fault.Expected data room blank) (readAll room v) := by
  unfold readAll
  split
  · exact .error (.workflow _)
  · exact .ok _
  · next items seen =>
    rw [← Value.items_of_view seen]
    exact .mapM fun u member => .bind (Value.asText_refuses (part.item member)) fun _ _ => .ok _
  · next entries seen =>
    refine .mapM fun e member => ?_
    rw [← Value.entries_of_view seen] at member
    exact ofEntry_refuses (part.key member) (part.value member)
  · exact .error (.workflow _)

theorem Toolchain.ofParams_refuses (uses : String) {params : Entries} (parts : data.Parts params) :
    Refuses (Fault.Expected data room blank) (ofParams room uses params) := by
  unfold ofParams
  dsimp only
  split
  · exact .bind (Value.textOr_refuses _ (parts.valueAt _)) fun _ _ => .ok _
  · refine .bind (Value.textOr_refuses _ (parts.valueAt _)) fun _ _ => ?_
    split
    · exact .bind (.map (Value.asText_refuses (parts.valueAt _)) some) fun _ _ => .ok _
    · exact .bind (.ok _) fun _ _ => .ok _

theorem Deploy.ofParams_refuses (uses : String) {params : Entries} (parts : data.Parts params) :
    Refuses (Fault.Expected data room blank) (ofParams room uses params) := by
  unfold ofParams
  dsimp only
  split
  · exact .bind (Value.textOr_refuses _ (parts.valueAt _)) fun _ _ =>
      .bind (Value.textOr_refuses _ (parts.valueAt _)) fun _ _ => .ok _
  · split
    · exact .bind (.error (.workflow _)) nofun
    · exact .bind (Value.asText_refuses (parts.valueAt _)) fun _ _ =>
        .bind (Value.textOr_refuses _ (parts.valueAt _)) fun _ _ => .ok _

/-- The step has no name, and a script that has nothing to name it by. -/
def Step.isNameless (raw : Entries) : Bool :=
  !(Entries.valueAt raw "name").isTruthy && (Entries.valueAt raw "run").isTruthy &&
    Text.isBlankText (Entries.valueAt raw "run").toText

theorem Step.readName_refuses {raw : Entries} (parts : data.Parts raw)
    (nameless : isNameless raw = true → blank) :
    Refuses (Fault.Expected data room blank) (readName room raw) := by
  unfold readName
  dsimp only
  split
  next => exact Value.asText_refuses (parts.valueAt _)
  next unnamed =>
    split
    next scripted =>
      refine .bind (Value.asText_refuses (parts.valueAt _)) fun script written => ?_
      split
      next => exact .ok _
      next none =>
        refine .error (.blankCommand (nameless ?_))
        have nothing := Text.isBlankText_of_strip_eq_empty (Text.eq_empty_of_lines_eq_nil none)
        rw [← (Value.asText_ok_iff.mp written).2] at nothing
        simp [isNameless, unnamed, scripted, nothing]
    next => exact .bind (Value.asText_refuses (parts.valueAt _)) fun _ _ => .ok _

namespace Job

theorem lift_refuses {α : Type} (r : Except WorkflowError α) :
    Refuses (Fault.Expected data room blank) (lift r) := by
  cases r with
  | ok a => exact .ok a
  | error e => exact .error (.workflow e)

theorem eq_ok_of_lift {α : Type} {r : Except WorkflowError α} {a : α} (lifted : lift r = .ok a) :
    r = .ok a := by
  cases r with
  | ok b => exact congrArg Except.ok (Except.ok.inj lifted)
  | error e => cases lifted

theorem Draft.addAction_refuses (registry : Registry) (draft : Draft) (job place name uses : String)
    {params : Entries} (env : Env) (parts : data.Parts params) :
    Refuses (Fault.Expected data room blank)
      (draft.addAction room registry job place name uses params env) := by
  unfold addAction
  split
  · split
    · exact .bind (.error (.workflow _)) nofun
    · exact .bind (Toolchain.ofParams_refuses _ parts) fun _ _ => .ok _
  · split
    · exact .bind (Deploy.ofParams_refuses _ parts) fun _ _ => .ok _
    · exact .bind (lift_refuses _) fun _ _ => .ok _

theorem readParams_parts {place : String} {v : Value} {params : Entries}
    (read : readParams place v = .ok params) (part : data.Part v) : data.Parts params := by
  unfold readParams at read
  split at read
  · cases read
    simp [Value.Parts]
  · split at read
    · next entries seen =>
      cases read
      rw [← Value.entries_of_view seen]
      exact part.entries
    · cases read

theorem Draft.add_refuses (registry : Registry) (job place : String) (draft : Draft) {raw : Value}
    (part : data.Part raw) (nameless : Step.isNameless raw.entries = true → blank) :
    Refuses (Fault.Expected data room blank) (draft.add room registry job place raw) := by
  unfold add
  split
  next entries seen =>
    obtain rfl := Value.entries_of_view seen
    have parts := part.entries
    dsimp only
    split
    · exact .bind (.error (.workflow _)) nofun
    · split
      · exact .bind (.error (.workflow _)) nofun
      · refine .bind (Step.readName_refuses parts nameless) fun name _ =>
          .bind (Value.asEnv_refuses _ (parts.valueAt _)) fun env _ =>
          .bind (lift_refuses _) fun params given => ?_
        split
        · exact .bind (Value.asText_refuses (parts.valueAt _)) fun _ _ => .ok _
        · refine .bind (Value.asText_refuses (parts.valueAt _)) fun uses _ => ?_
          exact addAction_refuses registry draft job place name uses env
            (readParams_parts (eq_ok_of_lift given) (parts.valueAt _))
  next => exact .error (.workflow _)

theorem Draft.addAll_refuses (registry : Registry) (job : String) {steps : List Value}
    (parts : ∀ raw ∈ steps, data.Part raw)
    (nameless : ∀ raw ∈ steps, Step.isNameless raw.entries = true → blank)
    (index : Nat) (draft : Draft) :
    Refuses (Fault.Expected data room blank) (addAll room registry job index draft steps) := by
  induction steps generalizing index draft with
  | nil => exact .ok draft
  | cons raw rest ih =>
    refine .bind (add_refuses registry job _ draft (parts raw List.mem_cons_self)
      (nameless raw List.mem_cons_self)) fun draft _ => ih ?_ ?_ _ draft
    · exact fun other member => parts other (List.mem_cons_of_mem _ member)
    · exact fun other member => nameless other (List.mem_cons_of_mem _ member)

theorem readSteps_eq_ok {job : String} {v : Value} {steps : List Value}
    (read : readSteps job v = .ok steps) : steps ⊆ v.items := by
  unfold readSteps at read
  split at read
  · cases read
    exact List.nil_subset _
  · split at read
    · next items seen =>
      cases read
      rw [Value.items_of_view seen]
      exact List.Subset.refl _
    · cases read

theorem readRunsOn_refuses {v : Value} (part : data.Part v) :
    Refuses (Fault.Expected data room blank) (readRunsOn room v) := by
  unfold readRunsOn
  split
  · exact .ok _
  · exact .bind (Value.asTexts_refuses _ part) fun _ _ => .ok _

/-- The steps of a job as they are written. -/
def rawSteps (v : Value) : List Value := (Entries.valueAt v.entries "steps").items

theorem read_refuses (registry : Registry) (id : String) {v : Value} (part : data.Part v)
    (nameless : ∀ raw ∈ rawSteps v, Step.isNameless raw.entries = true → blank) :
    Refuses (Fault.Expected data room blank) (read room registry id v) := by
  unfold read
  split
  next raw seen =>
    obtain rfl := Value.entries_of_view seen
    have parts := part.entries
    refine .bind (lift_refuses _) fun steps listed => ?_
    have own := readSteps_eq_ok (eq_ok_of_lift listed)
    refine .bind (Draft.addAll_refuses registry id ?_ (fun step member => nameless step (own member))
      0 {}) fun draft _ => .bind (readRunsOn_refuses (parts.valueAt _)) fun _ _ =>
      .bind (Value.asTexts_refuses _ (parts.valueAt _)) fun _ _ =>
      .bind (Value.asEnv_refuses _ (parts.valueAt _)) fun _ _ => .ok _
    exact fun step member => (parts.valueAt _).item (own member)
  next => exact .error (.workflow _)

end Job

namespace Workflow

theorem triggersValue_part {entries : Entries} (parts : data.Parts entries) :
    data.Part (triggersValue entries) := by
  unfold triggersValue Entries.get?
  split
  next v found => exact parts.find? found
  next =>
    cases found : Entries.find? entries (.bool true) with
    | none => exact .absent
    | some v => exact parts.find? found

theorem readJobs_eq_ok {v : Value} {jobs : Entries} (read : readJobs v = .ok jobs) :
    v.entries = jobs := by
  unfold readJobs at read
  split at read
  · cases read
  · next entries _ seen =>
    cases read
    exact Value.entries_of_view seen
  · cases read

/-- The steps of all jobs as they are written. -/
def rawSteps (v : Value) : List Value :=
  (Entries.valueAt v.entries "jobs").entries.flatMap fun job => Job.rawSteps job.2

theorem readJob_refuses (registry : Registry) (shared : Env) {key : Scalar} {raw : Value}
    (named : data.Part (.scalar key)) (part : data.Part raw)
    (nameless : ∀ step ∈ Job.rawSteps raw, Step.isNameless step.entries = true → blank) :
    Refuses (Fault.Expected data room blank) (readJob room registry shared key raw) :=
  .bind (Value.asText_refuses named) fun id _ =>
    .bind (Job.read_refuses registry id part nameless) fun _ _ => .ok _

theorem read_refuses (registry : Registry) (defaultName : String) {v : Value} (part : data.Part v)
    (nameless : ∀ raw ∈ rawSteps v, Step.isNameless raw.entries = true → blank) :
    Refuses (Fault.Expected data room blank) (read room registry defaultName v) := by
  unfold read
  split
  next entries seen =>
    obtain rfl := Value.entries_of_view seen
    have parts := part.entries
    refine .bind (Rule.readAll_refuses (triggersValue_part parts)) fun triggers _ =>
      .bind (Job.lift_refuses _) fun jobs listed => ?_
    obtain rfl := readJobs_eq_ok (Job.eq_ok_of_lift listed)
    refine .bind (Value.asEnv_refuses _ (parts.valueAt _)) fun shared _ => .bind (.mapM fun job member => ?_)
      fun _ _ => .bind (Value.textOr_refuses _ (parts.valueAt _)) fun _ _ => .ok _
    have jobs := parts.valueAt "jobs"
    refine readJob_refuses registry shared (jobs.key member) (jobs.value member) ?_
    exact fun raw inJob => nameless raw (List.mem_flatMap.mpr ⟨job, member, inJob⟩)
  next => exact .error (.workflow _)

end Workflow

end Readers

namespace Workflow

/-- Data of any shape makes a workflow or is refused as one, unless a step is to be named by a blank
script, a whole number is too long to be written, or a part is nested too deeply to be written. -/
theorem read_accepts_or_refuses (room : Nat) (registry : Registry) (defaultName : String) (v : Value) :
    (∃ w, read room registry defaultName v = .ok w) ∨
    (∃ e, read room registry defaultName v = .error (.workflow e)) ∨
    (read room registry defaultName v = .error .blankCommand ∧
      ∃ raw ∈ rawSteps v, Step.isNameless raw.entries = true) ∨
    ((∃ e, read room registry defaultName v = .error (.noInteger e)) ∧ v.isWritable = false) ∨
    (read room registry defaultName v = .error .tooDeep ∧
      ∃ part, v.Part part ∧ room < part.height) := by
  have refuses : Refuses (Fault.Expected v room (∃ raw ∈ rawSteps v, Step.isNameless raw.entries = true))
      (read room registry defaultName v) :=
    read_refuses registry defaultName .whole fun raw member nameless => ⟨raw, member, nameless⟩
  cases result : read room registry defaultName v with
  | ok w => exact Or.inl ⟨w, rfl⟩
  | error f =>
    right
    cases refuses f result with
    | workflow e => exact Or.inl ⟨e, rfl⟩
    | blankCommand named => exact Or.inr (Or.inl ⟨rfl, named⟩)
    | noInteger e long => exact Or.inr (Or.inr (Or.inl ⟨⟨e, rfl⟩, long⟩))
    | tooDeep part deep => exact Or.inr (Or.inr (Or.inr ⟨rfl, _, part, deep⟩))

/-- One job with one step. -/
def oneStep (on : Value) (step : Entries) : Value :=
  .map [(.text "on", on), (.text "jobs", .map [(.text "build",
    .map [(.text "steps", .list [.map step])])])]

/-- Lists inside of one another. -/
def nested : Nat → Value
  | 0 => .null
  | depth + 1 => .list [nested depth]

theorem nested_asText (room : Nat) : (nested (room + 1)).asText room = .error .tooDeep := by
  have deep : ∀ around, Value.obstacleWithin room around (nested (room + 1)) = some .depth := by
    intro around
    induction room with
    | zero => rfl
    | succ room ih =>
      rw [nested, Value.obstacleWithin, Value.obstacleAmong, ih]
      rfl
  rw [Value.asText_eq, Value.obstacle?, deep]
  rfl

/-- The least number that is too long. -/
theorem digitLimit_asText (room : Nat) :
    (Value.scalar (.int (Nat.pow 10 Text.digitLimit))).asText room = .error (.noInteger .unwritable) := by
  have long : Text.isWritable (Nat.pow 10 Text.digitLimit) = false := by
    unfold Text.isWritable
    generalize Nat.pow 10 Text.digitLimit = n
    simp
  -- Which number it is does not matter from here on, and it is better not computed.
  generalize Nat.pow 10 Text.digitLimit = n at long
  rw [Value.asText_eq, Value.obstacle?, Value.obstacleWithin,
    if_neg (by simp [Scalar.isWritable, long])]
  rfl

/-- A list of triggers with one that cannot be written. -/
theorem read_of_unwritten {room : Nat} {trigger : Value} {f : Fault}
    (unwritten : trigger.asText room = .error f) (registry : Registry) (step : Entries) :
    read room registry "ci" (oneStep (.list [trigger]) step) = .error f := by
  have triggers : Rule.readAll room (.list [trigger]) = .error f := by
    simp only [Rule.readAll, Value.view, List.mapM_cons, unwritten]
    rfl
  change (Rule.readAll room (.list [trigger]) >>= _) = _
  rw [triggers]
  rfl

/-- A step whose script is one blank, a trigger that is the least number too long to be written, and one
for which there is no room. -/
theorem read_fails_otherwise :
    read 900 .builtin "ci" (oneStep (.text "push") [(.text "run", .text " ")]) = .error .blankCommand ∧
    read 900 .builtin "ci" (oneStep (.list [.scalar (.int (Nat.pow 10 Text.digitLimit))])
      [(.text "run", .text "make")]) = .error (.noInteger .unwritable) ∧
    read 900 .builtin "ci" (oneStep (.list [nested 901]) [(.text "run", .text "make")]) =
      .error .tooDeep :=
  ⟨rfl, read_of_unwritten (digitLimit_asText 900) _ _, read_of_unwritten (nested_asText 900) _ _⟩

end Workflow

end LocalCI
