import LocalCI.Proofs.Glob
import LocalCI.Proofs.Text.Search
import LocalCI.Trigger

/-! Which events start a run, said without the matcher: the kind is a known one, and a rule for the kind
has no branches or a pattern whose language holds the name of the branch. -/
namespace LocalCI

open Glob

namespace Trigger

/-- The text starts like a ref, so it is not yet the name of a branch. -/
def isRef (branch : String) : Bool :=
  Text.startsWith branch "refs/heads/" || Text.startsWith branch "heads/"

theorem branchOf_of_not_isRef {branch : String} (plain : isRef branch = false) :
    branchOf branch = branch := by
  obtain ⟨long, short⟩ := (Bool.or_eq_false_iff).mp plain
  simp [branchOf, Text.after?, long, short]

/-- A text and the branch that it names: one way to write a ref is taken off, and only once. -/
inductive Names : String → String → Prop where
  | ref (name) : Names ("refs/heads/" ++ name) name
  | head (name) : Names ("heads/" ++ name) name
  | itself {name} : isRef name = false → Names name name

theorem branchOf_ref (name : String) : branchOf ("refs/heads/" ++ name) = name := by
  rw [branchOf, Text.after?_append]

theorem branchOf_head (name : String) : branchOf ("heads/" ++ name) = name := by
  have other : Text.startsWith ("heads/" ++ name) "refs/heads/" = false := by
    simp [Text.startsWith, List.isPrefixOf]
  have unmatched : Text.after? "refs/heads/" ("heads/" ++ name) = none :=
    Text.after?_eq_none.mpr other
  rw [branchOf, unmatched, Text.after?_append, Option.getD_some]

/-- Every text names exactly one branch. -/
theorem names_iff {branch name : String} : Names branch name ↔ branchOf branch = name := by
  constructor
  · intro names
    cases names with
    | ref => exact branchOf_ref name
    | head => exact branchOf_head name
    | itself plain => exact branchOf_of_not_isRef plain
  · rintro rfl
    cases long : Text.after? "refs/heads/" branch with
    | some rest =>
      obtain rfl := Text.after?_eq_some.mp long
      rw [branchOf_ref]
      exact .ref rest
    | none =>
      cases short : Text.after? "heads/" branch with
      | some rest =>
        obtain rfl := Text.after?_eq_some.mp short
        rw [branchOf_head]
        exact .head rest
      | none =>
        have plain : isRef branch = false := Bool.or_eq_false_iff.mpr
          ⟨Text.after?_eq_none.mp long, Text.after?_eq_none.mp short⟩
        rw [branchOf_of_not_isRef plain]
        exact .itself plain

/-- The texts that name a branch which does not start like a ref itself. -/
theorem names_of_plain {branch name : String} (plain : isRef name = false) :
    Names branch name ↔ branch = name ∨ branch = "heads/" ++ name ∨ branch = "refs/heads/" ++ name := by
  constructor
  · intro names
    cases names with
    | ref => exact Or.inr (Or.inr rfl)
    | head => exact Or.inr (Or.inl rfl)
    | itself => exact Or.inl rfl
  · rintro (rfl | rfl | rfl)
    · exact .itself plain
    · exact .head name
    · exact .ref name

end Trigger

open Trigger

namespace Rule

/-- No pattern of the rule has an opening bracket. -/
def IsBracketFree (rule : Rule) : Prop := ∀ pattern ∈ rule.branches.getD [], '[' ∉ pattern.toList

instance (rule : Rule) : Decidable rule.IsBracketFree :=
  inferInstanceAs (Decidable (∀ pattern ∈ rule.branches.getD [], '[' ∉ pattern.toList))

/-- The rule is for the kind, and for every branch or for the branch that is named: one of its patterns
stands for it. -/
def Covers (rule : Rule) (kind branch : String) : Prop :=
  rule.event = kind ∧ (rule.branches = none ∨ ∃ patterns, rule.branches = some patterns ∧
    ∃ pattern ∈ patterns, ∃ name, Names branch name ∧ name.toList ∈ patternLanguage pattern.toList)

theorem accepts_iff_covers {rule : Rule} (plain : rule.IsBracketFree) (kind branch : String) :
    rule.accepts kind branch = true ↔ rule.Covers kind branch := by
  obtain ⟨event, branches⟩ := rule
  cases branches with
  | none => simp [accepts, Covers]
  | some patterns =>
    have fits : ∀ pattern ∈ patterns, globMatches pattern (branchOf branch) = true ↔
        ∃ name, Names branch name ∧ name.toList ∈ patternLanguage pattern.toList := by
      intro pattern member
      rw [globMatches_iff (plain pattern member)]
      simp only [names_iff, exists_eq_left']
    simp only [accepts, Covers, Bool.and_eq_true, beq_iff_eq, List.any_eq_true, reduceCtorEq,
      false_or, Option.some.injEq, exists_eq_left']
    refine and_congr_right fun _ => exists_congr fun pattern => and_congr_right fun member => ?_
    exact fits pattern member

end Rule

namespace Trigger

theorem starts_iff_covers (rules : Option (List Rule))
    (plain : ∀ rule ∈ rules.getD defaultRules, rule.IsBracketFree) (kind branch : String) :
    starts rules kind branch = true ↔ (kind = "push" ∨ kind = "pull_request") ∧
      ∃ rule ∈ rules.getD defaultRules, rule.Covers kind branch := by
  have known : knownKinds.contains kind = true ↔ kind = "push" ∨ kind = "pull_request" := by
    simp [knownKinds, push, pullRequest]
  rw [starts, Bool.and_eq_true, known, List.any_eq_true]
  refine and_congr_right fun _ => exists_congr fun rule => and_congr_right fun member => ?_
  exact Rule.accepts_iff_covers (plain rule member) kind branch

/-- The default rules take every pull request, and the pushes to one branch. -/
theorem covered_by_default {kind branch : String} :
    (∃ rule ∈ defaultRules, rule.Covers kind branch) ↔
      kind = "pull_request" ∨ kind = "push" ∧ Names branch "master" := by
  have master : ∀ name : String,
      name.toList ∈ patternLanguage defaultBranch.toList ↔ name = "master" := by
    intro name
    rw [patternLanguage_of_literal (by decide) (by decide)]
    exact String.toList_inj
  simp only [defaultRules, List.mem_cons, List.not_mem_nil, or_false, exists_eq_or_imp,
    exists_eq_left, Rule.Covers, true_or, and_true, reduceCtorEq, false_or, Option.some.injEq,
    exists_eq_left', master, exists_eq_right, pullRequest, push, eq_comm (b := kind)]

/-- An event starts a run if and only if its kind is known and a rule covers it: the stars and question
marks of a pattern without brackets mean what they say, and what is left of the branch without a ref in
front is looked up. Without rules of its own every pull request starts a run, and of the pushes those to
one branch, however that branch is written. -/
theorem startsOn_iff_covers (rules : Option (List Rule)) (kind : Value) (branch : String)
    (plain : ∀ rule ∈ rules.getD defaultRules, rule.IsBracketFree) :
    (startsOn rules kind (.text branch) = true ↔
      ∃ name, kind = .text name ∧ (name = "push" ∨ name = "pull_request") ∧
        ∃ rule ∈ rules.getD defaultRules, rule.Covers name branch) ∧
    startsOn none (.text "pull_request") (.text branch) = true ∧
    (startsOn none (.text "push") (.text branch) = true ↔
      branch = "master" ∨ branch = "heads/master" ∨ branch = "refs/heads/master") := by
  have byDefault : ∀ name, startsOn none (.text name) (.text branch) = true ↔
      (name = "push" ∨ name = "pull_request") ∧ ∃ rule ∈ defaultRules, rule.Covers name branch :=
    fun name => starts_iff_covers none (by decide) name branch
  refine ⟨?_, ?_, ?_⟩
  · constructor
    · intro started
      unfold startsOn at started
      split at started
      next name _ same =>
        cases same
        exact ⟨name, rfl, (starts_iff_covers rules plain name branch).mp started⟩
      next => cases started
    · rintro ⟨name, rfl, covered⟩
      exact (starts_iff_covers rules plain name branch).mpr covered
  · rw [byDefault, covered_by_default]
    exact ⟨Or.inr rfl, Or.inl rfl⟩
  · rw [byDefault, covered_by_default]
    have refs : Names branch "master" ↔ branch = "master" ∨ branch = "heads/master" ∨
        branch = "refs/heads/master" := names_of_plain (by decide +kernel)
    simpa using refs

/-- Release candidates on any branch below `release`, and pull requests to anything. -/
def releaseRules : List Rule := [⟨"push", some ["main", "release/*-rc?*"]⟩, ⟨"pull_request", none⟩]

/-- The first star goes over a slash, and the second stands for nothing. -/
theorem startsOn_iff_covers_release :
    let branch := "refs/heads/release/2.0/beta-rc1"
    (∀ rule ∈ (some releaseRules).getD defaultRules, rule.IsBracketFree) ∧
    startsOn (some releaseRules) (.text "push") (.text branch) = true ∧
    ∃ rule ∈ releaseRules, rule.Covers "push" branch := by
  intro branch
  have plain : ∀ rule ∈ (some releaseRules).getD defaultRules, rule.IsBracketFree := by
    decide +kernel
  have started : startsOn (some releaseRules) (.text "push") (.text branch) = true := by
    decide +kernel
  obtain ⟨name, same, _, covered⟩ := (startsOn_iff_covers _ _ branch plain).1.mp started
  cases same
  exact ⟨plain, started, covered⟩

end Trigger
end LocalCI
