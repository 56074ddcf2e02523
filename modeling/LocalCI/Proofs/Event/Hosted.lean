import LocalCI.Proofs.Event.Precedence

/-! Events of the hosting service. They are read in two ways: from its variables alone, and through the
settings, which let the tool's own variables and then git have a say. Both ways give one event where
the service names a branch and nothing of the user's own stands in between. -/
namespace LocalCI

open Attempt

namespace Settings

variable {env : Env}

/-- The variable is unset, blank, or a whole number that is not negative. -/
def NaturalIn (env : Env) (name : String) : Prop :=
  ∀ raw, env.get? name = some raw →
    Text.isBlankText raw = true ∨ ∃ n, Text.integer raw = .ok n ∧ 0 ≤ n

theorem naturalSetting_isOk_iff {name : String} (default : Int) :
    (∃ n, naturalSetting env name default = .ok n) ↔ NaturalIn env name := by
  unfold naturalSetting NaturalIn
  cases given : env.get? name with
  | none => simp
  | some raw =>
    by_cases blank : Text.isBlankText raw = true
    · simp [blank]
    · cases number : Text.integer raw with
      | error e => simp [blank, number]
      | ok n =>
        by_cases negative : n < 0
        · simp [blank, number, negative]
        · simp [blank, number, negative, Int.not_lt.mp negative]

/-- The limit is all that can keep settings from being read. -/
theorem ofEnv_isOk_iff : (∃ s, ofEnv env = .ok s) ↔ NaturalIn env "ACTRUN_OUTPUT_LIMIT" := by
  rw [← naturalSetting_isOk_iff defaultOutputLimit]
  unfold ofEnv
  cases naturalSetting env "ACTRUN_OUTPUT_LIMIT" defaultOutputLimit with
  | error e => simp [bind, Except.bind]
  | ok n => simp [bind, Except.bind, pure, Except.pure]

end Settings

namespace Event

variable {env : Env} {kind : String}

/-- The variables of the service alone: an unnamed branch is an empty one. -/
theorem eventOf?_eq (named : env.nonEmpty? "GITHUB_EVENT_NAME" = some kind) :
    Trigger.eventOf? env = some ⟨kind, Trigger.branchOf
      (((hostedBase? env kind).or (env.nonEmpty? "GITHUB_REF")).getD "")⟩ := by
  have ref : env.getD "GITHUB_REF" "" = (env.nonEmpty? "GITHUB_REF").getD "" := by
    unfold Env.getD Env.nonEmpty?
    cases env.get? "GITHUB_REF" with
    | none => rfl
    | some value => by_cases empty : value = "" <;> simp [Option.filter, empty]
  simp only [Trigger.eventOf?, named, Option.map_some, ref, hostedBase?]
  split
  · cases env.nonEmpty? "GITHUB_BASE_REF" <;> simp
  · simp

/-- Where the hosting service names an event and a branch, and the user neither, the settings lead to
the same event as the variables of the service do, and no program is started. -/
theorem start_eq_hosted (named : env.nonEmpty? "GITHUB_EVENT_NAME" = some kind)
    (ownKind : env.nonEmpty? "ACTRUN_EVENT" = none)
    (ownBranch : env.nonEmpty? "ACTRUN_BRANCH" = none)
    (limit : Settings.NaturalIn env "ACTRUN_OUTPUT_LIMIT")
    (branch : (∃ ref, env.nonEmpty? "GITHUB_REF" = some ref) ∨
      kind = Trigger.pullRequest ∧ ∃ base, env.nonEmpty? "GITHUB_BASE_REF" = some base)
    (workspace : Location) :
    ∃ s e, Settings.ofEnv env = .ok s ∧ Trigger.eventOf? env = some e ∧
      ∀ m, start none none s workspace m = (.ok e, m) := by
  obtain ⟨s, read⟩ := Settings.ofEnv_isOk_iff.mpr limit
  have kindNamed : Settings.either? env "ACTRUN_EVENT" "GITHUB_EVENT_NAME" = some kind := by
    rw [Settings.either?, ownKind, named, Option.none_or]
  have hosted : namedBranch? env kind =
      (hostedBase? env kind).or (env.nonEmpty? "GITHUB_REF") := by
    rw [namedBranch?, Settings.either?, ownBranch, Option.none_or]
  obtain ⟨b, found⟩ : ∃ b, namedBranch? env kind = some b := by
    rw [hosted]
    rcases branch with ⟨ref, known⟩ | ⟨rfl, base, known⟩
    · cases hostedBase? env kind <;> simp [known]
    · exact ⟨base, by simp [hostedBase?, known]⟩
  refine ⟨s, ⟨kind, Trigger.branchOf b⟩, read, ?_, ?_⟩
  · rw [eventOf?_eq named, ← hosted, found, Option.getD_some]
  · intro m
    rw [start_of_env kindNamed found read workspace, pure_apply]

/-- A pull request without a ref of its own; the user's variables are there and empty. -/
def hostedPullRequest : Env := ⟨[("ACTRUN_EVENT", ""), ("ACTRUN_BRANCH", ""),
  ("ACTRUN_OUTPUT_LIMIT", " 80 "), ("GITHUB_EVENT_NAME", "pull_request"), ("GITHUB_REF", ""),
  ("GITHUB_BASE_REF", "refs/heads/develop")]⟩

theorem start_eq_hosted_pullRequest :
    Trigger.eventOf? hostedPullRequest = some ⟨"pull_request", "develop"⟩ ∧
    ∃ s, Settings.ofEnv hostedPullRequest = .ok s ∧
      ∀ m, start none none s ["ws"] m = (.ok ⟨"pull_request", "develop"⟩, m) := by
  have alone : Trigger.eventOf? hostedPullRequest = some ⟨"pull_request", "develop"⟩ := by decide
  have limit : Settings.NaturalIn hostedPullRequest "ACTRUN_OUTPUT_LIMIT" := by
    intro raw given
    obtain rfl : " 80 " = raw := Option.some.inj given
    exact Or.inr ⟨80, by rfl, by decide⟩
  have named : hostedPullRequest.nonEmpty? "GITHUB_EVENT_NAME" = some "pull_request" := rfl
  have base : hostedPullRequest.nonEmpty? "GITHUB_BASE_REF" = some "refs/heads/develop" := rfl
  obtain ⟨s, e, read, event, started⟩ := start_eq_hosted named rfl rfl limit
    (Or.inr ⟨rfl, _, base⟩) ["ws"]
  rw [alone] at event
  cases event
  exact ⟨alone, s, read, started⟩

end Event
end LocalCI
