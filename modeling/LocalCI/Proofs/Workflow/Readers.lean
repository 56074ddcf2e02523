import LocalCI.Proofs.Workflow.Faults
import Mathlib.Data.List.Forall2

/-! When the readers of a job's parts succeed. A reader asks for the shape of a value, and a value that
is taken as a text must be one that can be written. Values that count as empty always are. -/
namespace LocalCI

section Results

variable {ε α β : Type}

theorem bind_ok_iff {r : Except ε α} {f : α → Except ε β} {b : β} :
    r >>= f = .ok b ↔ ∃ a, r = .ok a ∧ f a = .ok b := by
  cases r with
  | error e => exact ⟨nofun, nofun⟩
  | ok a =>
    constructor
    · exact fun rest => ⟨a, rfl, rest⟩
    · rintro ⟨_, ⟨⟩, rest⟩
      exact rest

theorem pure_ok_iff {a b : α} : (pure a : Except ε α) = .ok b ↔ a = b :=
  ⟨Except.ok.inj, congrArg Except.ok⟩

theorem guard_ok_iff {c : Prop} [Decidable c] {e : ε} {f : α → Except ε β} {r : Except ε β} {b : β} :
    (if c then throw e >>= f else r) = .ok b ↔ ¬ c ∧ r = .ok b := by
  by_cases stops : c
  · rw [if_pos stops]
    exact ⟨nofun, fun goes => absurd stops goes.1⟩
  · rw [if_neg stops]
    exact ⟨fun goes => ⟨stops, goes⟩, fun goes => goes.2⟩

theorem mapM_ok_iff {f : α → Except ε β} {as : List α} {bs : List β} :
    as.mapM f = .ok bs ↔ List.Forall₂ (fun a b => f a = .ok b) as bs := by
  induction as generalizing bs with
  | nil =>
    rw [List.mapM_nil]
    constructor
    · rintro ⟨⟩
      exact .nil
    · rintro ⟨⟩
      rfl
  | cons a as ih =>
    rw [List.mapM_cons, bind_ok_iff]
    constructor
    · rintro ⟨b, first, rest⟩
      obtain ⟨bs, others, ⟨⟩⟩ := bind_ok_iff.mp rest
      exact .cons first (ih.mp others)
    · rintro (_ | ⟨first, others⟩)
      exact ⟨_, first, bind_ok_iff.mpr ⟨_, ih.mpr others, rfl⟩⟩

/-- Items that each have a partner have a list of partners. -/
theorem exists_forall₂_iff {R : α → β → Prop} {as : List α} :
    (∃ bs, List.Forall₂ R as bs) ↔ ∀ a ∈ as, ∃ b, R a b := by
  induction as with
  | nil => exact ⟨fun _ _ member => absurd member List.not_mem_nil, fun _ => ⟨[], .nil⟩⟩
  | cons a as ih =>
    rw [List.forall_mem_cons, ← ih]
    constructor
    · rintro ⟨_, _ | ⟨first, others⟩⟩
      exact ⟨⟨_, first⟩, _, others⟩
    · rintro ⟨⟨b, first⟩, bs, others⟩
      exact ⟨b :: bs, .cons first others⟩

/-- The result is not an error. -/
def Succeeds (r : Except ε α) : Prop := ∃ a, r = .ok a

theorem succeeds_ok (a : α) : Succeeds (.ok a : Except ε α) := ⟨a, rfl⟩

theorem not_succeeds_error (e : ε) : ¬ Succeeds (.error e : Except ε α) := nofun

theorem succeeds_map_iff {r : Except ε α} (f : α → β) : Succeeds (r.map f) ↔ Succeeds r := by
  cases r with
  | error e => exact ⟨nofun, nofun⟩
  | ok a => exact ⟨fun _ => ⟨a, rfl⟩, fun _ => ⟨f a, rfl⟩⟩

/-- Where the rest succeeds under a condition that does not depend on what was read before. -/
theorem succeeds_bind_iff {r : Except ε α} {f : α → Except ε β} {P : Prop}
    (rest : ∀ a, r = .ok a → (Succeeds (f a) ↔ P)) : Succeeds (r >>= f) ↔ Succeeds r ∧ P := by
  constructor
  · rintro ⟨b, done⟩
    obtain ⟨a, first, done⟩ := bind_ok_iff.mp done
    exact ⟨⟨a, first⟩, (rest a first).mp ⟨b, done⟩⟩
  · rintro ⟨⟨a, first⟩, holds⟩
    obtain ⟨b, done⟩ := (rest a first).mpr holds
    exact ⟨b, bind_ok_iff.mpr ⟨a, first, done⟩⟩

/-- Where nothing after it can fail. -/
theorem succeeds_bind_iff_left {r : Except ε α} {f : α → Except ε β}
    (rest : ∀ a, Succeeds (f a)) : Succeeds (r >>= f) ↔ Succeeds r :=
  (succeeds_bind_iff fun a _ => iff_true_intro (rest a)).trans (and_iff_left trivial)

theorem succeeds_mapM_iff {f : α → Except ε β} {as : List α} :
    Succeeds (as.mapM f) ↔ ∀ a ∈ as, Succeeds (f a) := by
  simp only [Succeeds, mapM_ok_iff, exists_forall₂_iff]

end Results

/-- How a value shows itself to a reader. -/
inductive Shape where
  | null
  | text
  | list
  | mapping
  | other
deriving DecidableEq, Repr

namespace Value

def shape (v : Value) : Shape :=
  match v.view with
  | .scalar .null => .null
  | .scalar (.text _) => .text
  | .list _ => .list
  | .map _ => .mapping
  | _ => .other

/-- What a mapping has under a key: null where there is nothing, or where there is no mapping. -/
def under (v : Value) (key : String) : Value := Entries.valueAt v.entries key

variable {room : Nat} {v : Value}

/-- A loop is opened to a collection with as many parts. -/
theorem parts_of_empty (empty : v.isTruthy = false) : v.items = [] ∧ v.entries = [] := by
  match v, empty with
  | .scalar _, _ => exact ⟨rfl, rfl⟩
  | .list [], _ => exact ⟨rfl, rfl⟩
  | .map [], _ => exact ⟨rfl, rfl⟩
  | .set _, _ => exact ⟨rfl, rfl⟩
  | .loop label (.scalar _), _ => exact ⟨rfl, rfl⟩
  | .loop label (.list []), _ => exact ⟨rfl, rfl⟩
  | .loop label (.map []), _ => exact ⟨rfl, rfl⟩
  | .loop label (.set _), _ => exact ⟨rfl, rfl⟩
  | .loop label (.loop other body), _ =>
    by_cases same : other = label
    · simp [items, entries, view, close, same]
    · simp [items, entries, view, close, same]

theorem eq_null_of_isNull (null : v.isNull = true) : v = .null := by
  unfold isNull at null
  split at null
  next => rfl
  next => cases null

theorem shape_of_view {entries : Entries} (seen : v.view = .map entries) : v.shape = .mapping := by
  simp only [shape, seen]

theorem view_of_shape (mapping : v.shape = .mapping) : v.view = .map v.entries := by
  unfold shape at mapping
  unfold entries
  generalize v.view = seen at mapping ⊢
  split at mapping <;> simp_all

theorem asText_succeeds : Succeeds (v.asText room) ↔ v.fits room = true := by
  simp only [Succeeds, asText_ok_iff, exists_and_left, exists_eq', and_true]

theorem textOr_succeeds (default : String) : Succeeds (v.textOr room default) ↔ v.fits room = true := by
  unfold textOr
  split
  next => exact asText_succeeds
  next empty =>
    exact iff_of_true (succeeds_ok _) (fits_of_empty (Bool.eq_false_iff.mpr empty))

theorem asTexts_succeeds (what : String) :
    Succeeds (v.asTexts room what) ↔
      v.shape ∈ [.null, .text, .list] ∧ ∀ u ∈ v.items, u.fits room = true := by
  unfold asTexts shape items
  generalize v.view = seen
  split
  · simp [succeeds_ok]
  · simp [succeeds_ok]
  · simp [succeeds_mapM_iff, asText_succeeds]
  · split <;> simp_all [not_succeeds_error]

end Value

/-- Every name and every value can be written. -/
def Entries.fit (room : Nat) (entries : Entries) : Bool :=
  entries.all fun e => (Value.scalar e.1).fits room && e.2.fits room

section Variables

variable {room : Nat}

/-- The variables that a mapping lists; of a name that comes twice, the last. -/
def Entries.toVars (entries : Entries) : Env :=
  entries.foldl (fun env e => env.set e.1.toText e.2.toText) {}

theorem Entries.toEnv_ok_iff {entries : Entries} {env : Env} :
    toEnv room entries = .ok env ↔ fit room entries = true ∧ toVars entries = env := by
  unfold toEnv toVars
  -- The induction is on the entries, from any variables that are set already.
  generalize ({} : Env) = start
  induction entries generalizing start with
  | nil => exact ⟨fun same => ⟨rfl, Except.ok.inj same⟩, fun both => congrArg Except.ok both.2⟩
  | cons e rest ih =>
    obtain ⟨key, v⟩ := e
    rw [List.foldlM_cons, bind_ok_iff, List.foldl_cons]
    simp only [fit, List.all_cons, Bool.and_eq_true]
    constructor
    · rintro ⟨next, set, others⟩
      obtain ⟨_, named, set⟩ := bind_ok_iff.mp set
      obtain ⟨_, valued, ⟨⟩⟩ := bind_ok_iff.mp set
      obtain ⟨keyShort, rfl⟩ := Value.asText_ok_iff.mp named
      obtain ⟨short, rfl⟩ := Value.asText_ok_iff.mp valued
      obtain ⟨restShort, same⟩ := (ih _).mp others
      exact ⟨⟨⟨keyShort, short⟩, restShort⟩, same⟩
    · rintro ⟨⟨⟨keyShort, short⟩, restShort⟩, same⟩
      refine ⟨_, bind_ok_iff.mpr ⟨_, Value.asText_ok_iff.mpr ⟨keyShort, rfl⟩, ?_⟩,
        (ih _).mpr ⟨restShort, same⟩⟩
      exact bind_ok_iff.mpr ⟨_, Value.asText_ok_iff.mpr ⟨short, rfl⟩, rfl⟩

theorem Value.asEnv_ok_iff {v : Value} {what : String} {env : Env} :
    v.asEnv room what = .ok env ↔
      v.shape ∈ [.null, .mapping] ∧ v.entries.fit room = true ∧
        Entries.toVars v.entries = env := by
  unfold asEnv shape entries
  generalize v.view = seen
  split
  · simp [Entries.fit, Entries.toVars]
  · simp [Entries.toEnv_ok_iff]
  · split <;> simp_all

theorem Value.asEnv_succeeds {v : Value} (what : String) :
    Succeeds (v.asEnv room what) ↔
      v.shape ∈ [.null, .mapping] ∧ v.entries.fit room = true := by
  simp only [Succeeds, asEnv_ok_iff, exists_and_left, exists_eq', and_true]

end Variables

/-- The parameters that a job takes as texts, of the actions that are no steps. -/
def Action.textParams (name : String) : List String :=
  if name = "actions-rs/toolchain" then ["toolchain", "profile"]
  else if name = "dtolnay/rust-toolchain" then ["toolchain"]
  else if name = "jamesives/github-pages-deploy-action" then ["folder", "branch"]
  else if name = "peaceiris/actions-gh-pages" then ["publish_dir", "publish_branch"]
  else []

section Params

variable {room : Nat} {uses : String} {params : Entries}

theorem Toolchain.ofParams_succeeds (selects : Action.nameOf uses ∈ Action.toolchainNames) :
    Succeeds (ofParams room uses params) ↔
      ∀ key ∈ Action.textParams (Action.nameOf uses),
        (Entries.valueAt params key).fits room = true := by
  unfold ofParams
  dsimp only
  rcases List.mem_pair.mp selects with name | name
  · have keys : Action.textParams "actions-rs/toolchain" = ["toolchain", "profile"] := rfl
    rw [name, if_neg (by decide), keys, List.forall_mem_cons, List.forall_mem_singleton,
      ← Value.textOr_succeeds "stable"]
    refine succeeds_bind_iff fun channel _ => ?_
    split
    next =>
      refine (succeeds_bind_iff_left fun _ => succeeds_ok _).trans ?_
      exact (succeeds_map_iff some).trans Value.asText_succeeds
    next empty =>
      exact iff_of_true (succeeds_ok _) (Value.fits_of_empty (Bool.eq_false_iff.mpr empty))
  · have keys : Action.textParams "dtolnay/rust-toolchain" = ["toolchain"] := rfl
    rw [name, if_pos rfl, keys, List.forall_mem_singleton, ← Value.textOr_succeeds]
    exact succeeds_bind_iff_left fun _ => succeeds_ok _

theorem Deploy.ofParams_succeeds (names : Action.nameOf uses ∈ Action.deployNames) :
    Succeeds (ofParams room uses params) ↔
      (Action.nameOf uses = "jamesives/github-pages-deploy-action" →
        (Entries.valueAt params "folder").isTruthy = true) ∧
      ∀ key ∈ Action.textParams (Action.nameOf uses),
        (Entries.valueAt params key).fits room = true := by
  unfold ofParams
  dsimp only
  rcases List.mem_pair.mp names with name | name
  · have keys : Action.textParams "jamesives/github-pages-deploy-action" = ["folder", "branch"] :=
      rfl
    rw [name, if_neg (by decide), keys, List.forall_mem_cons, List.forall_mem_singleton,
      ← Value.asText_succeeds, ← Value.textOr_succeeds "gh-pages"]
    cases given : (Entries.valueAt params "folder").isTruthy with
    | false => exact iff_of_false nofun fun holds => Bool.false_ne_true (holds.1 rfl)
    | true =>
      rw [Bool.not_true, if_neg Bool.false_ne_true, and_iff_right fun _ => rfl]
      exact succeeds_bind_iff fun _ _ => succeeds_bind_iff_left fun _ => succeeds_ok _
  · have keys : Action.textParams "peaceiris/actions-gh-pages" =
        ["publish_dir", "publish_branch"] := rfl
    rw [name, if_pos rfl, keys, List.forall_mem_cons, List.forall_mem_singleton,
      ← Value.textOr_succeeds "public", ← Value.textOr_succeeds "gh-pages"]
    rw [and_iff_right fun other => absurd other (by decide)]
    exact succeeds_bind_iff fun _ _ => succeeds_bind_iff_left fun _ => succeeds_ok _

end Params

namespace Text

theorem strip_eq_empty_of_isBlankText {s : String} (blank : isBlankText s = true) :
    strip s = "" := by
  have start : s.toList.dropWhile isBlank = [] :=
    List.dropWhile_eq_nil_iff.mpr (List.all_eq_true.mp blank)
  simp [strip, trim, trimStart, trimEnd, start]

theorem lines_strip_eq_nil {s : String} : lines (strip s) = [] ↔ isBlankText s = true := by
  constructor
  · exact fun none => isBlankText_of_strip_eq_empty (eq_empty_of_lines_eq_nil none)
  · intro blank
    rw [strip_eq_empty_of_isBlankText blank]
    rfl

end Text

/-- A step can be named unless it has only a blank script to be named by. -/
theorem Step.readName_succeeds {room : Nat} {raw : Entries}
    (run : (Entries.valueAt raw "run").fits room = true)
    (uses : (Entries.valueAt raw "uses").fits room = true) :
    Succeeds (readName room raw) ↔
      (Entries.valueAt raw "name").fits room = true ∧ isNameless raw = false := by
  unfold readName
  dsimp only
  split
  next named => simp [Value.asText_succeeds, isNameless, named]
  next unnamed =>
    have short : (Entries.valueAt raw "name").fits room = true :=
      Value.fits_of_empty (Bool.eq_false_iff.mpr unnamed)
    split
    next scripted =>
      have blank : isNameless raw = Text.isBlankText (Entries.valueAt raw "run").toText := by
        simp [isNameless, unnamed, scripted]
      rw [blank]
      constructor
      · rintro ⟨name, read⟩
        obtain ⟨script, written, read⟩ := bind_ok_iff.mp read
        obtain ⟨_, rfl⟩ := Value.asText_ok_iff.mp written
        refine ⟨short, Bool.eq_false_iff.mpr fun blank => ?_⟩
        rw [Text.lines_strip_eq_nil.mpr blank] at read
        cases read
      · rintro ⟨_, filled⟩
        cases first : Text.lines (Text.strip (Entries.valueAt raw "run").toText) with
        | nil => exact absurd (Text.lines_strip_eq_nil.mp first) (Bool.eq_false_iff.mp filled)
        | cons line rest =>
          refine ⟨"Run " ++ line, bind_ok_iff.mpr ⟨_, Value.asText_ok_iff.mpr ⟨run, rfl⟩, ?_⟩⟩
          rw [first]
          rfl
    next unscripted =>
      have named : isNameless raw = false := by simp [isNameless, unscripted]
      refine (succeeds_bind_iff_left fun _ => succeeds_ok _).trans ?_
      exact iff_of_true (Value.asText_succeeds.mpr uses) ⟨short, named⟩

namespace Job

theorem lift_ok_iff {α : Type} {r : Except WorkflowError α} {a : α} :
    lift r = .ok a ↔ r = .ok a :=
  ⟨eq_ok_of_lift, fun same => same ▸ rfl⟩

theorem readSteps_ok_iff {job : String} {v : Value} {steps : List Value} :
    readSteps job v = .ok steps ↔
      (v.isTruthy = false ∨ v.shape = .list) ∧ v.items = steps := by
  unfold readSteps
  cases filled : v.isTruthy with
  | false => simp [(Value.parts_of_empty filled).1]
  | true =>
    unfold Value.shape Value.items
    generalize v.view = seen
    simp only [Bool.not_true, Bool.false_eq_true, if_false, Bool.true_eq_false, false_or]
    split
    · simp
    · split <;> simp_all

/-- The mapping under `with` is taken as it is. -/
theorem readParams_ok_iff {place : String} {v : Value} {params : Entries} :
    readParams place v = .ok params ↔
      (v.isTruthy = false ∨ v.shape = .mapping) ∧ v.entries = params := by
  unfold readParams
  cases filled : v.isTruthy with
  | false => simp [(Value.parts_of_empty filled).2]
  | true =>
    unfold Value.shape Value.entries
    generalize v.view = seen
    simp only [Bool.not_true, Bool.false_eq_true, if_false, Bool.true_eq_false, false_or]
    split
    · simp
    · split <;> simp_all

theorem readRunsOn_succeeds {room : Nat} {v : Value} :
    Succeeds (readRunsOn room v) ↔
      v.shape ∈ [.null, .text, .list] ∧ ∀ u ∈ v.items, u.fits room = true := by
  rw [← Value.asTexts_succeeds "runs-on"]
  unfold readRunsOn
  split
  next null =>
    obtain rfl := Value.eq_null_of_isNull null
    exact iff_of_true (succeeds_ok _) (succeeds_ok _)
  next => exact succeeds_bind_iff_left fun _ => succeeds_ok _

end Job

end LocalCI
