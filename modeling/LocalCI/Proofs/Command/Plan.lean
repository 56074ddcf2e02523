import LocalCI.Proofs.Command.CheckExit
import LocalCI.Proofs.Record
import LocalCI.Proofs.Workflow.Readers

/-! What a plan tells about triggers. A rule that has no branches to print is told as one for any branch.
That is so for a rule without a list of branches; a rule whose list is empty matches nothing. In a file
such a rule comes from an entry that gives an empty list. -/
namespace LocalCI

open Attempt

section Printing

variable {m n : Machine}

/-- A line for the output is encoded as it is, or not at all. -/
theorem Line.encode_out {text : String} {line : Line} (encoded : (Line.out text).encode = .ok line) :
    line = .out text := by
  unfold Line.encode at encoded
  dsimp only at encoded
  split at encoded
  next => cases encoded
  next => exact (Except.ok.inj encoded).symm

namespace Act

theorem printLine_out {text : String} (printed : printLine (.out text) m = (.ok (), n)) :
    n.printed = m.printed ++ [.out text] := by
  unfold printLine at printed
  rw [bind_of_ok (get_apply m)] at printed
  by_cases encodes : m.encodes = true
  · rw [if_pos encodes] at printed
    obtain ⟨line, k, encoded, stored⟩ := bind_eq_ok.mp printed
    obtain ⟨same, rfl⟩ := ofExcept_eq_ok.mp encoded
    cases Line.encode_out same
    cases stored
    rfl
  · rw [if_neg encodes] at printed
    cases printed
    rfl

/-- Lines for the output that are printed are printed as they are. -/
theorem print_out {lines : List Line} (outs : ∀ line ∈ lines, line.isErr = false)
    (printed : print lines m = (.ok (), n)) : n.printed = m.printed ++ lines := by
  induction lines generalizing m with
  | nil =>
    cases printed
    simp
  | cons line rest ih =>
    obtain ⟨first, others⟩ := List.forall_mem_cons.mp outs
    obtain ⟨_, k, now, later⟩ := bind_eq_ok.mp printed
    cases line with
    | err text => cases first
    | out text =>
      rw [ih others later, printLine_out now, List.append_assoc]
      rfl

end Act

/-- What the first machine printed is what the second printed first. -/
def Machine.PrintsOn (m n : Machine) : Prop := m.printed <+: n.printed

instance : IsPreorder Machine Machine.PrintsOn where
  refl m := List.prefix_refl m.printed
  trans _ _ _ := List.IsPrefix.trans

theorem Act.print_printsOn (lines : List Line) : Follows Machine.PrintsOn (print lines) :=
  print_conducts (fun m line => m.printed.prefix_append [line]) lines

theorem Report.plannedJob_printsOn (j : Job) : Follows Machine.PrintsOn (plannedJob j) := by
  have steps : Follows Machine.PrintsOn (j.steps.forM plannedStep) := by
    refine .forM (fun step => ?_) j.steps
    cases step with
    | other v => exact .throw _
    | _ => exact Act.print_printsOn _
  unfold plannedJob
  refine .bind (Act.print_printsOn _) fun _ => ?_
  cases j.toolchain with
  | none =>
    refine .bind steps fun _ => ?_
    cases j.deploy with
    | none => exact .pure _
    | some d => exact Act.print_printsOn _
  | some t =>
    refine .bind (Act.print_printsOn _) fun _ => .bind steps fun _ => ?_
    cases j.deploy with
    | none => exact .pure _
    | some d => exact Act.print_printsOn _

end Printing

namespace Rule

/-- The rule has no branches that could be printed. -/
def isUnlisted (rule : Rule) : Bool := (rule.branches.getD []).isEmpty

variable {rule : Rule}

theorem isUnlisted_iff : rule.isUnlisted = true ↔ rule.branches = none ∨ rule.branches = some [] := by
  obtain ⟨event, branches⟩ := rule
  match branches with
  | none => simp [isUnlisted]
  | some [] => simp [isUnlisted]
  | some (_ :: _) => simp [isUnlisted]

theorem not_accepts_of_empty (empty : rule.branches = some []) (kind branch : String) :
    rule.accepts kind branch = false := by
  simp [accepts, empty]

theorem accepts_all_iff (unlisted : rule.isUnlisted = true) :
    (∀ branch, rule.accepts rule.event branch = true) ↔ rule.branches = none := by
  constructor
  · intro all
    refine (isUnlisted_iff.mp unlisted).resolve_right fun empty => ?_
    have accepted := all ""
    rw [not_accepts_of_empty empty] at accepted
    cases accepted
  · intro free branch
    simp [accepts, free]

end Rule

/-- Every rule without branches to print holds for any branch. -/
def Workflow.Truthful (w : Workflow) : Prop :=
  ∀ rule ∈ w.triggers, rule.isUnlisted = true → ∀ branch, rule.accepts rule.event branch = true

theorem Workflow.truthful_iff {w : Workflow} :
    w.Truthful ↔ ¬ ∃ rule ∈ w.triggers, rule.branches = some [] := by
  constructor
  · rintro truthful ⟨rule, member, empty⟩
    have unlisted := Rule.isUnlisted_iff.mpr (Or.inr empty)
    have free := (Rule.accepts_all_iff unlisted).mp (truthful rule member unlisted)
    cases free.symm.trans empty
  · intro filled rule member unlisted
    rcases Rule.isUnlisted_iff.mp unlisted with free | empty
    · exact (Rule.accepts_all_iff unlisted).mpr free
    · exact absurd ⟨rule, member, empty⟩ filled

theorem Command.ruleLine_of_isUnlisted {rule : Rule} (unlisted : rule.isUnlisted = true) :
    ruleLine rule = .out s!"on {rule.event}: any branch" := by
  rcases Rule.isUnlisted_iff.mp unlisted with free | empty
  · rw [ruleLine, free]
    exact congrArg Line.out (String.append_assoc ..)
  · rw [ruleLine, empty]
    exact congrArg Line.out (String.append_assoc ..)

section Reading

variable {room : Nat}

/-- There is nothing on the list that the value is taken for. -/
def Value.holdsNothing (v : Value) : Bool :=
  match v.view with
  | .scalar .null | .list [] => true
  | _ => false

/-- The entry gives its event a list of branches, and there is none on it. -/
def Rule.listsNothing (config : Value) : Bool :=
  match config.view with
  | .map settings =>
    let branches := Entries.valueAt settings "branches"
    !branches.isNull && branches.holdsNothing
  | _ => false

/-- One of the entries under `on` lists nothing. -/
def Workflow.listsNothing (on : Value) : Bool :=
  match on.view with
  | .map entries => entries.any fun entry => Rule.listsNothing entry.2
  | _ => false

/-- Of two lists whose items are alike, both have such an item or neither. -/
theorem exists_mem_iff_of_forall₂ {α β : Type} {R : α → β → Prop} {P : α → Prop} {Q : β → Prop}
    (alike : ∀ a b, R a b → (Q b ↔ P a)) {as : List α} {bs : List β} (all : List.Forall₂ R as bs) :
    (∃ b ∈ bs, Q b) ↔ ∃ a ∈ as, P a := by
  induction all with
  | nil => simp
  | cons first _ ih => simp [alike _ _ first, ih]

theorem Value.asTexts_eq_nil_iff {what : String} {v : Value} {texts : List String}
    (read : v.asTexts room what = .ok texts) : texts = [] ↔ v.holdsNothing = true := by
  unfold asTexts at read
  split at read
  next seen =>
    cases read
    simp [holdsNothing, seen]
  next seen =>
    cases read
    simp [holdsNothing, seen]
  next items seen =>
    have same := (mapM_ok_iff.mp read).length_eq
    rw [holdsNothing, seen]
    cases items with
    | nil => simpa [eq_comm] using same
    | cons first rest =>
      simp only [Bool.false_eq_true, iff_false]
      rintro rfl
      simp at same
  next => cases read

namespace Rule

theorem ofEntry_branches {key : Scalar} {config : Value} {rule : Rule}
    (read : ofEntry room key config = .ok rule) :
    rule.branches = some [] ↔ listsNothing config = true := by
  obtain ⟨event, _, taken⟩ := bind_ok_iff.mp read
  cases seen : config.view with
  | map settings =>
    rw [seen] at taken
    rw [listsNothing, seen]
    dsimp only at taken ⊢
    split at taken
    next null =>
      cases taken
      simp [null]
    next given =>
      obtain ⟨texts, listed, ⟨⟩⟩ := bind_ok_iff.mp taken
      simp [given, Value.asTexts_eq_nil_iff listed]
  | _ =>
    rw [seen] at taken
    cases taken
    simp [listsNothing, seen]

/-- A rule has an empty list just when an entry gives one. -/
theorem readAll_branches {on : Value} {rules : List Rule} (read : readAll room on = .ok rules) :
    (∃ rule ∈ rules, rule.branches = some []) ↔ Workflow.listsNothing on = true := by
  unfold readAll at read
  split at read
  next => cases read
  next seen =>
    cases read
    simp [Workflow.listsNothing, seen]
  next items seen =>
    have none : (∃ rule ∈ rules, rule.branches = some []) ↔ ∃ v ∈ items, False := by
      refine exists_mem_iff_of_forall₂ (fun v rule read => ?_) (mapM_ok_iff.mp read)
      obtain ⟨event, _, ⟨⟩⟩ := bind_ok_iff.mp read
      simp
    simpa [Workflow.listsNothing, seen] using none
  next entries seen =>
    have alike : (∃ rule ∈ rules, rule.branches = some []) ↔
        ∃ entry ∈ entries, listsNothing entry.2 = true := by
      refine exists_mem_iff_of_forall₂ (fun entry rule read => ?_) (mapM_ok_iff.mp read)
      exact ofEntry_branches read
    simpa [Workflow.listsNothing, seen] using alike
  next => cases read

end Rule

end Reading

namespace Workflow

/-- The value under `on` in the YAML file that a path stands for. -/
def OnValue (p : Path) (m : Machine) (on : Value) : Prop :=
  ∃ l text data entries, YamlAt p m l ∧ readText l m = (.ok text, m) ∧ m.readYaml text = .ok data ∧
    data.view = .map entries ∧ on = triggersValue entries

/-- The workflow is what a script defines. -/
def Scripted (p : Path) (m : Machine) (w : Workflow) : Prop :=
  ∃ l, ScriptAt p m l ∧ scripted m l = .ok w

variable {registry : Registry} {p : Path} {m n : Machine} {w : Workflow}

theorem read_triggers {room : Nat} {name : String} {data : Value}
    (taken : read room registry name data = .ok w) :
    ∃ entries, data.view = .map entries ∧ Rule.readAll room (triggersValue entries) = .ok w.triggers := by
  unfold read at taken
  split at taken
  next entries seen =>
    obtain ⟨triggers, rules, taken⟩ := bind_ok_iff.mp taken
    obtain ⟨_, _, taken⟩ := bind_ok_iff.mp taken
    obtain ⟨_, _, taken⟩ := bind_ok_iff.mp taken
    obtain ⟨_, _, taken⟩ := bind_ok_iff.mp taken
    obtain ⟨_, _, ⟨⟩⟩ := bind_ok_iff.mp taken
    exact ⟨entries, seen, rules⟩
  next => cases taken

theorem ofYaml_eq_ok {file : Path} {text : String} (taken : ofYaml registry file m text = .ok w) :
    ∃ data, m.readYaml text = .ok data ∧ read m.room registry file.stem data = .ok w := by
  unfold ofYaml at taken
  split at taken
  next data document => exact ⟨data, document, taken⟩
  next => cases taken
  next => cases taken

/-- The rules of a workflow are read from its file, or a script defines them. -/
theorem load_triggers (loaded : load registry p m = (.ok w, n)) :
    (∃ on, OnValue p m on ∧ Rule.readAll m.room on = .ok w.triggers) ∨ Scripted p m w := by
  obtain ⟨l, here, loaded⟩ := at_of_load loaded
  by_cases yaml : yamlSuffixes.contains (Path.ofLocation l).suffix = true
  · rcases readText_cases l m with ⟨text, held⟩ | ⟨_, _, _, _, unread⟩ | ⟨_, _, _, unread⟩ | unread
    · rw [loadAt_of_text yaml held] at loaded
      obtain ⟨data, document, taken⟩ := ofYaml_eq_ok (congrArg Prod.fst loaded)
      obtain ⟨entries, seen, rules⟩ := read_triggers taken
      exact Or.inl ⟨_, ⟨l, text, data, entries, ⟨here, yaml⟩, held, document, seen, rfl⟩, rules⟩
    all_goals
      rw [loadAt_of_unread yaml unread] at loaded
      cases loaded
  · by_cases script : (Path.ofLocation l).suffix = ".py"
    · obtain ⟨executed, same⟩ := ofScript_apply l m
      rw [loadAt_of_script script, same] at loaded
      exact Or.inr ⟨l, ⟨here, script⟩, congrArg Prod.fst loaded⟩
    · rw [loadAt_of_other yaml script] at loaded
      cases loaded

end Workflow

namespace Command

variable {registry : Registry} {o : PlanOptions} {m n : Machine}

/-- A plan was printed: the file was found, its workflow is well formed, and what was printed begins
with the rules. -/
structure Planned (registry : Registry) (o : PlanOptions) (m n : Machine) (file : Path)
    (w : Workflow) : Prop where
  found : ∃ root, m.resolve (Path.ofString o.workspace) = .ok root ∧
    discover m o.workflow (Path.ofLocation root) = .ok (.ok file)
  loaded : (Workflow.load registry file m).1 = .ok w
  ordered : ∃ jobs, runOrder w.jobs = .ok jobs
  printed : m.printed ++ Report.header s!"{w.name} ({file.name})" ++ w.triggers.map ruleLine ++
    [.out "jobs:"] <+: n.printed

theorem lines_isErr (rules : List Rule) :
    ∀ line ∈ rules.map ruleLine ++ [.out "jobs:"], line.isErr = false := by
  intro line member
  rcases List.mem_append.mp member with told | last
  · obtain ⟨rule, _, rfl⟩ := List.mem_map.mp told
    rfl
  · cases List.mem_singleton.mp last
    rfl

theorem leave_eq_ok {lines : List Line} {code c : Int} (left : leave lines code m = (.ok c, n)) :
    c = code := by
  obtain ⟨_, _, _, done⟩ := bind_eq_ok.mp left
  cases done
  rfl

theorem printJobs_printsOn (jobs : List Job) : Follows Machine.PrintsOn (printJobs jobs) := by
  induction jobs with
  | nil => exact .pure _
  | cons j rest ih => exact .bind (Report.plannedJob_printsOn j) fun _ => ih

theorem plannedJobs_eq_ok {file : Path} {w : Workflow} {jobs : List Job}
    (planned : plannedJobs registry file m = (.ok (w, jobs), n)) :
    Workflow.load registry file m = (.ok w, n) ∧ runOrder w.jobs = .ok jobs := by
  obtain ⟨_, k, loaded, planned⟩ := bind_eq_ok.mp planned
  obtain ⟨_, _, sorted, done⟩ := bind_eq_ok.mp planned
  obtain ⟨ordered, rfl⟩ := Act.ofWorkflow_eq_ok.mp sorted
  cases done
  exact ⟨loaded, ordered⟩

theorem prints_of_plan {file : Path} {w : Workflow} {jobs : List Job} {k : Machine} {code : Int}
    (loaded : Workflow.load registry file m = (.ok w, k))
    (done : (do
      Act.print (Report.header s!"{w.name} ({file.name})")
      Act.print (w.triggers.map ruleLine ++ [.out "jobs:"])
      printJobs jobs
      return 0 : Act Int) k = (.ok code, n)) :
    m.printed ++ Report.header s!"{w.name} ({file.name})" ++ w.triggers.map ruleLine ++
      [.out "jobs:"] <+: n.printed := by
  obtain ⟨executed, same⟩ := Workflow.load_snd registry file m
  have unprinted : k.printed = m.printed := by
    rw [loaded] at same
    rw [show k = _ from same]
  obtain ⟨_, titled, header, done⟩ := bind_eq_ok.mp done
  obtain ⟨_, listed, rules, done⟩ := bind_eq_ok.mp done
  obtain ⟨_, last, rest, ⟨⟩⟩ := bind_eq_ok.mp done
  have headed := Act.print_out (by simp [Report.header, Line.isErr]) header
  have told := Act.print_out (lines_isErr w.triggers) rules
  have more : listed.printed <+: n.printed := (printJobs_printsOn jobs).ended rest
  rw [told, headed, unprinted, ← List.append_assoc] at more
  exact more

/-- A plan that ends well was printed. -/
theorem planned_of_plan (accepted : plan registry o m = (.ok 0, n)) :
    ∃ file w, Planned registry o m n file w := by
  unfold plan at accepted
  obtain ⟨root, k, placed, accepted⟩ := bind_eq_ok.mp accepted
  obtain ⟨resolved, rfl⟩ := Prod.mk.inj ((Act.resolve_apply _ m).symm.trans placed)
  rw [bind_of_ok (get_apply m)] at accepted
  obtain ⟨found, k, sought, accepted⟩ := bind_eq_ok.mp accepted
  obtain ⟨discovered, rfl⟩ := ofExcept_eq_ok.mp sought
  cases found with
  | error lines => cases leave_eq_ok accepted
  | ok file =>
    obtain ⟨outcome, k, attempted, accepted⟩ := bind_eq_ok.mp accepted
    have planned := attempt_eq_ok.mp attempted
    split at accepted
    next => cases leave_eq_ok accepted
    next => cases accepted
    next w jobs =>
      obtain ⟨loaded, ordered⟩ := plannedJobs_eq_ok planned
      exact ⟨file, w, ⟨root, resolved, discovered⟩, congrArg Prod.fst loaded, ⟨jobs, ordered⟩,
        prints_of_plan loaded accepted⟩

/-- A plan tells that a rule without branches to print is for any branch. That is so just for the rules
that have no list of branches, and in a file just when no entry gives an empty list. -/
theorem plan_tells_triggers (accepted : plan registry o m = (.ok 0, n)) :
    ∃ file w, Planned registry o m n file w ∧
      (∀ rule ∈ w.triggers, rule.isUnlisted = true →
        ruleLine rule = .out s!"on {rule.event}: any branch" ∧
        ((∀ branch, rule.accepts rule.event branch = true) ↔ rule.branches = none) ∧
        (rule.branches ≠ none → ∀ kind branch, rule.accepts kind branch = false)) ∧
      ((∃ on, Workflow.OnValue file m on ∧ (w.Truthful ↔ Workflow.listsNothing on = false)) ∨
        Workflow.Scripted file m w) := by
  obtain ⟨file, w, planned⟩ := planned_of_plan accepted
  refine ⟨file, w, planned, fun rule _ unlisted => ⟨ruleLine_of_isUnlisted unlisted, ?_, ?_⟩, ?_⟩
  · exact Rule.accepts_all_iff unlisted
  · intro listed
    exact rule.not_accepts_of_empty ((Rule.isUnlisted_iff.mp unlisted).resolve_left listed)
  · have loaded : Workflow.load registry file m = (.ok w, (Workflow.load registry file m).2) :=
      Prod.ext planned.loaded rfl
    refine (Workflow.load_triggers loaded).imp_left ?_
    rintro ⟨on, here, read⟩
    refine ⟨on, here, ?_⟩
    rw [Workflow.truthful_iff, Rule.readAll_branches read, Bool.not_eq_true]

/-- A file with two rules: pull requests without a list of branches, pushes with an empty one. -/
def twoRules : Machine where
  files := .dir [("ci.yml", .file (.text
    "on:\n  pull_request:\n  push:\n    branches: []\njobs:\n  build:\n    steps: []\n"))]
  cwd := []
  temp := []

theorem load_twoRules :
    (Workflow.load .builtin (Path.ofString "ci.yml") twoRules).1.toOption.map Workflow.triggers =
      some [⟨"pull_request", none⟩, ⟨"push", some []⟩] := by
  decide +kernel

theorem plan_twoRules :
    let ended := plan .builtin { workflow := some "ci.yml" } twoRules
    ended.1.toOption = some 0 ∧
    ended.2.printed = [.out "\nci (ci.yml)", .out "-----------", .out "on pull_request: any branch",
      .out "on push: any branch", .out "jobs:", .out "  build"] := by
  decide +kernel

/-- Pull requests are told truly. -/
theorem plan_tells_triggers_twoRules :
    ∃ n file w, plan .builtin { workflow := some "ci.yml" } twoRules = (.ok 0, n) ∧
      Planned .builtin { workflow := some "ci.yml" } twoRules n file w ∧
      w.triggers = [⟨"pull_request", none⟩, ⟨"push", some []⟩] ∧
      ∀ branch, Rule.accepts ⟨"pull_request", none⟩ "pull_request" branch = true := by
  have accepted := ended_of_toOption plan_twoRules.1
  obtain ⟨file, w, planned, rules, _⟩ := plan_tells_triggers accepted
  have found : file = Path.ofString "ci.yml" := by
    obtain ⟨root, _, found⟩ := planned.found
    cases found
    rfl
  have triggers : w.triggers = [⟨"pull_request", none⟩, ⟨"push", some []⟩] := by
    have read := load_twoRules
    rw [← found, planned.loaded] at read
    exact Option.some.inj read
  obtain ⟨_, all, _⟩ := rules ⟨"pull_request", none⟩ (by simp [triggers]) rfl
  exact ⟨_, file, w, accepted, planned, triggers, all.mpr rfl⟩

/-- Pushes are told to be for any branch, and there is none that they are for. -/
theorem plan_misleads :
    let ended := plan .builtin { workflow := some "ci.yml" } twoRules
    ended.1.toOption = some 0 ∧ .out "on push: any branch" ∈ ended.2.printed ∧
    (Workflow.load .builtin (Path.ofString "ci.yml") twoRules).1.toOption.map Workflow.triggers =
      some [⟨"pull_request", none⟩, ⟨"push", some []⟩] ∧
    Rule.accepts ⟨"push", some []⟩ "push" "main" = false := by
  obtain ⟨accepted, printed⟩ := plan_twoRules
  refine ⟨accepted, ?_, load_twoRules, rfl⟩
  rw [printed]
  simp

end Command

end LocalCI
