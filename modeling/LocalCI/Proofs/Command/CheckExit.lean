import LocalCI.Proofs.Command.Agreement
import LocalCI.Proofs.Workflow.Loading

/-! How a check ends. Its answer is an exit code; what was not foreseen when the workflow was loaded
ends it without one, and so does an answer that cannot be encoded. -/
namespace LocalCI

open Attempt

/-- A line for the error output; it can always be printed. -/
def Line.isErr : Line → Bool
  | .err _ => true
  | .out _ => false

theorem Act.printLine_fst (line : Line) (m : Machine) :
    (printLine line m).1 = if m.encodes then line.encode.map fun _ => () else .ok () := by
  unfold printLine
  rw [bind_of_ok (get_apply m)]
  by_cases encodes : m.encodes = true
  · rw [if_pos encodes, if_pos encodes]
    cases encoded : line.encode with
    | ok line => rfl
    | error f => rfl
  · rw [if_neg encodes, if_neg encodes]
    rfl

theorem Act.print_errors {lines : List Line} (errors : ∀ line ∈ lines, line.isErr = true)
    (m : Machine) : (Act.print lines m).1 = .ok () := by
  induction lines generalizing m with
  | nil => rfl
  | cons line rest ih =>
    have fine : (printLine line m).1 = .ok () := by
      rw [printLine_fst]
      cases line with
      | out text => cases errors _ List.mem_cons_self
      | err text => split <;> rfl
    have printed : printLine line m = (.ok (), (printLine line m).2) := Prod.ext fine rfl
    change ((printLine line >>= fun _ => Act.print rest) m).1 = _
    rw [bind_of_ok printed]
    exact ih (fun line member => errors line (List.mem_cons_of_mem _ member)) _

theorem Report.error_isErr (title message : String) (details : List String) (suggestion : String) :
    ∀ line ∈ Report.error title message details suggestion, line.isErr = true := by
  unfold Report.error
  split <;> simp [Line.isErr, or_imp, forall_and]

namespace Command

variable {registry : Registry} {m : Machine}

theorem leave_errors {lines : List Line} (errors : ∀ line ∈ lines, line.isErr = true) (code : Int)
    (m : Machine) : (leave lines code m).1 = .ok code := by
  have printed : Act.print lines m = (.ok (), (Act.print lines m).2) :=
    Prod.ext (Act.print_errors errors m) rfl
  unfold leave
  rw [bind_of_ok printed]
  rfl

/-- A code, if the text that goes with it can be encoded. -/
def ended (text : String) (code : Int) : Except Fault Int :=
  match Text.Unencodable.find? text with
  | none => .ok code
  | some e => .error (.unencodable e)

theorem leave_out (text : String) (code : Int) (m : Machine) :
    (leave [.out text] code m).1 = if m.encodes then ended text code else .ok code := by
  have line : (leave [.out text] code m).1 =
      (Act.printLine (.out text) m).1.map fun _ => code := by
    change (((Act.printLine (.out text) >>= fun _ => pure ()) >>= fun _ => pure code) m).1 = _
    rw [bind_bind, bind_apply]
    cases Act.printLine (.out text) m with
    | mk outcome n => cases outcome <;> rfl
  rw [line, Act.printLine_fst]
  split
  · unfold ended Line.encode
    dsimp only
    cases Text.Unencodable.find? text <;> rfl
  · rfl

theorem ended_eq_ok {text : String} {code c : Int} :
    ended text code = .ok c ↔ Text.Unencodable.find? text = none ∧ code = c := by
  unfold ended
  cases Text.Unencodable.find? text <;> simp

theorem ended_eq_error {text : String} {code : Int} {f : Fault} :
    ended text code = .error f ↔ ∃ e, Text.Unencodable.find? text = some e ∧ f = .unencodable e := by
  unfold ended
  cases Text.Unencodable.find? text <;> simp [eq_comm]

/-- What a check says. -/
def CheckOptions.answer (o : CheckOptions) (starts : Bool) : String :=
  if starts then s!"run: {o.event} on '{o.branch}' matches"
  else s!"skip: {o.event} on '{o.branch}' matches no trigger"

/-- The rules that a check asks: the default ones, or those of the given workflow. -/
inductive Asks (registry : Registry) (given : Option String) (m : Machine) :
    Option (List Rule) → Prop where
  | default : given.filter (· ≠ "") = none → Asks registry given m none
  | loaded (file w n) : given.filter (· ≠ "") = some file →
      Workflow.load registry (Path.ofString file) m = (.ok w, n) →
      Asks registry given m (Trigger.listed w.triggers)

/-- A workflow is given, and it cannot be loaded. -/
def Unloadable (registry : Registry) (given : Option String) (m : Machine) (f : Fault) : Prop :=
  ∃ file, given.filter (· ≠ "") = some file ∧
    (Workflow.load registry (Path.ofString file) m).1 = .error f

variable {given : Option String}

theorem checkRules_of_none (absent : given.filter (· ≠ "") = none) :
    checkRules registry given m = (.ok none, m) := by
  simp only [checkRules, absent]
  rfl

theorem checkRules_of_some {file : String} (present : given.filter (· ≠ "") = some file) :
    checkRules registry given m =
      (((Workflow.load registry (Path.ofString file) m).1.map fun w => Trigger.listed w.triggers),
        (Workflow.load registry (Path.ofString file) m).2) := by
  simp only [checkRules, present]
  rw [bind_apply]
  cases Workflow.load registry (Path.ofString file) m with
  | mk outcome n => cases outcome <;> rfl

theorem checkRules_encodes : (checkRules registry given m).2.encodes = m.encodes := by
  cases asked : given.filter (· ≠ "") with
  | none => rw [checkRules_of_none asked]
  | some file =>
    obtain ⟨executed, after⟩ := Workflow.load_snd registry (Path.ofString file) m
    rw [checkRules_of_some asked, after]

theorem checkRules_eq_ok {rules : Option (List Rule)} :
    (checkRules registry given m).1 = .ok rules ↔ Asks registry given m rules := by
  constructor
  · intro done
    cases asked : given.filter (· ≠ "") with
    | none =>
      rw [checkRules_of_none asked] at done
      cases done
      exact .default asked
    | some file =>
      rw [checkRules_of_some asked] at done
      cases ended : Workflow.load registry (Path.ofString file) m with
      | mk outcome n =>
        rw [ended] at done
        cases outcome with
        | error f => cases done
        | ok w =>
          cases done
          exact .loaded file w n asked ended
  · intro asks
    cases asks with
    | default absent => rw [checkRules_of_none absent]
    | loaded file w n present loaded =>
      rw [checkRules_of_some present, loaded]
      rfl

theorem checkRules_eq_error {f : Fault} :
    (checkRules registry given m).1 = .error f ↔ Unloadable registry given m f := by
  constructor
  · intro failed
    cases asked : given.filter (· ≠ "") with
    | none =>
      rw [checkRules_of_none asked] at failed
      cases failed
    | some file =>
      refine ⟨file, asked, ?_⟩
      rw [checkRules_of_some asked] at failed
      cases ended : (Workflow.load registry (Path.ofString file) m).1 with
      | ok w =>
        rw [ended] at failed
        cases failed
      | error g =>
        rw [ended] at failed
        cases failed
        rfl
  · rintro ⟨file, present, failed⟩
    rw [checkRules_of_some present, failed]
    rfl

theorem check_fst {o : CheckOptions} (encodes : m.encodes = true) :
    (check registry o m).1 =
      match (checkRules registry o.workflow m).1 with
      | .ok rules =>
        let starts := Trigger.starts rules o.event o.branch
        ended (o.answer starts) (if starts then 0 else 1)
      | .error f => if f.isForeseen then .ok 2 else .error f := by
  have kept : (checkRules registry o.workflow m).2.encodes = true :=
    checkRules_encodes.trans encodes
  unfold check
  rw [bind_of_ok (attempt_apply _ m)]
  cases outcome : (checkRules registry o.workflow m).1 with
  | ok rules =>
    dsimp only
    cases starts : Trigger.starts rules o.event o.branch with
    | true => exact (leave_out _ 0 _).trans (if_pos kept)
    | false => exact (leave_out _ 1 _).trans (if_pos kept)
  | error f =>
    have missing : ((if f.isMissing then leave (Report.error "Invalid workflow" f.message [] "") 2
        else throw f : Act Int) (checkRules registry o.workflow m).2).1 =
        if f.isMissing then .ok 2 else .error f := by
      split
      · exact leave_errors (Report.error_isErr _ _ _ _) 2 _
      · rfl
    cases f with
    | workflow e => exact leave_errors (Report.error_isErr _ _ _ _) 2 _
    | _ => exact missing

theorem check_eq_ok {o : CheckOptions} {code : Int} (encodes : m.encodes = true) :
    (check registry o m).1 = .ok code ↔
      (∃ rules, Asks registry o.workflow m rules ∧
        Text.Unencodable.find? (o.answer (Trigger.starts rules o.event o.branch)) = none ∧
        (if Trigger.starts rules o.event o.branch then 0 else 1) = code) ∨
      ∃ f, Unloadable registry o.workflow m f ∧ f.isForeseen = true ∧ 2 = code := by
  rw [check_fst encodes]
  constructor
  · intro done
    cases result : (checkRules registry o.workflow m).1 with
    | ok rules =>
      rw [result] at done
      obtain ⟨printable, same⟩ := ended_eq_ok.mp done
      exact Or.inl ⟨rules, checkRules_eq_ok.mp result, printable, same⟩
    | error f =>
      rw [result] at done
      dsimp only at done
      split at done
      next foreseen =>
        cases done
        exact Or.inr ⟨f, checkRules_eq_error.mp result, foreseen, rfl⟩
      next => cases done
  · rintro (⟨rules, asks, printable, rfl⟩ | ⟨f, unloadable, foreseen, rfl⟩)
    · rw [checkRules_eq_ok.mpr asks]
      exact ended_eq_ok.mpr ⟨printable, rfl⟩
    · rw [checkRules_eq_error.mpr unloadable]
      exact if_pos foreseen

theorem check_eq_error {o : CheckOptions} {f : Fault} (encodes : m.encodes = true) :
    (check registry o m).1 = .error f ↔
      (Unloadable registry o.workflow m f ∧ f.isForeseen = false) ∨
      ∃ rules e, Asks registry o.workflow m rules ∧
        Text.Unencodable.find? (o.answer (Trigger.starts rules o.event o.branch)) = some e ∧
        f = .unencodable e := by
  rw [check_fst encodes]
  constructor
  · intro failed
    cases result : (checkRules registry o.workflow m).1 with
    | ok rules =>
      rw [result] at failed
      obtain ⟨e, found, same⟩ := ended_eq_error.mp failed
      exact Or.inr ⟨rules, e, checkRules_eq_ok.mp result, found, same⟩
    | error g =>
      rw [result] at failed
      dsimp only at failed
      split at failed
      next => cases failed
      next other =>
        cases failed
        exact Or.inl ⟨checkRules_eq_error.mp result, Bool.eq_false_iff.mpr other⟩
  · rintro (⟨unloadable, other⟩ | ⟨rules, e, asks, found, rfl⟩)
    · rw [checkRules_eq_error.mpr unloadable]
      exact if_neg (Bool.eq_false_iff.mp other)
    · rw [checkRules_eq_ok.mpr asks]
      exact ended_eq_error.mpr ⟨e, found, rfl⟩

theorem unloadable_unforeseen {f : Fault} :
    Unloadable registry given m f ∧ f.isForeseen = false ↔
      ∃ file, given.filter (· ≠ "") = some file ∧
        Workflow.Unforeseen registry (Path.ofString file) m f := by
  constructor
  · rintro ⟨⟨file, present, failed⟩, other⟩
    exact ⟨file, present, Workflow.unforeseen_of_load failed other⟩
  · rintro ⟨file, present, cause⟩
    obtain ⟨failed, other⟩ := Workflow.load_of_unforeseen cause
    exact ⟨⟨file, present, failed⟩, other⟩

/-- Which answer a check gives is up to the rules alone. -/
theorem check_answers {o : CheckOptions} (encodes : m.encodes = true) (starts : Bool) :
    (check registry o m).1 = .ok (if starts then 0 else 1) ↔
      ∃ rules, Asks registry o.workflow m rules ∧
        Trigger.starts rules o.event o.branch = starts ∧
        Text.Unencodable.find? (o.answer starts) = none := by
  rw [check_eq_ok encodes]
  constructor
  · rintro (⟨rules, asks, printable, code⟩ | ⟨f, _, _, code⟩)
    · have same : Trigger.starts rules o.event o.branch = starts := by
        revert code
        cases Trigger.starts rules o.event o.branch <;> cases starts <;> simp
      rw [same] at printable
      exact ⟨rules, asks, same, printable⟩
    · cases starts <;> cases code
  · rintro ⟨rules, asks, same, printable⟩
    rw [← same] at printable
    exact Or.inl ⟨rules, asks, printable, by rw [same]⟩

theorem executeWith_of_request {read : Env → List String → Invocation} {args : List String} {debug : Bool}
    {request : Request} (asked : read m.env args = .request debug request) :
    executeWith read registry args m = perform registry debug request { m with encodes := true } := by
  unfold executeWith
  rw [bind_of_ok (modify_apply _ m), bind_of_ok (get_apply _), asked]

/-- A check answers with an exit code: zero if a rule of the workflow matches and one if none does,
where the workflow can be loaded, and two if it is refused or not there. Other causes for which it
cannot be loaded end the check without a code, and so does an answer that cannot be encoded. How the command
line and the documents are read makes no difference. -/
theorem check_exits {read : Env → List String → Invocation} {args : List String} {debug : Bool}
    {o : CheckOptions} (asked : read m.env args = .request debug (.check o)) :
    let start : Machine := { m with encodes := true }
    let outcome := (executeWith read registry args m).1
    (outcome = .ok 0 ↔ ∃ rules, Asks registry o.workflow start rules ∧
      Trigger.starts rules o.event o.branch = true ∧
      Text.Unencodable.find? (o.answer true) = none) ∧
    (outcome = .ok 1 ↔ ∃ rules, Asks registry o.workflow start rules ∧
      Trigger.starts rules o.event o.branch = false ∧
      Text.Unencodable.find? (o.answer false) = none) ∧
    (outcome = .ok 2 ↔ ∃ f, Unloadable registry o.workflow start f ∧ f.isForeseen = true) ∧
    (∀ code, outcome = .ok code → code = 0 ∨ code = 1 ∨ code = 2) ∧
    ∀ f, outcome = .error f ↔
      (∃ file, o.workflow.filter (· ≠ "") = some file ∧
        Workflow.Unforeseen registry (Path.ofString file) start f) ∨
      ∃ rules e, Asks registry o.workflow start rules ∧
        Text.Unencodable.find? (o.answer (Trigger.starts rules o.event o.branch)) = some e ∧
        f = .unencodable e := by
  intro start outcome
  have checked : outcome = (check registry o start).1 :=
    congrArg Prod.fst (executeWith_of_request asked)
  have encodes : start.encodes = true := rfl
  rw [checked]
  refine ⟨check_answers encodes true, check_answers encodes false, ?_, ?_, ?_⟩
  · rw [check_eq_ok encodes]
    constructor
    · rintro (⟨rules, _, _, code⟩ | ⟨f, unloadable, foreseen, _⟩)
      · split at code <;> cases code
      · exact ⟨f, unloadable, foreseen⟩
    · rintro ⟨f, unloadable, foreseen⟩
      exact Or.inr ⟨f, unloadable, foreseen, rfl⟩
  · intro code done
    rcases (check_eq_ok encodes).mp done with ⟨rules, _, _, rfl⟩ | ⟨f, _, _, rfl⟩
    · split
      · exact Or.inl rfl
      · exact Or.inr (Or.inl rfl)
    · exact Or.inr (Or.inr rfl)
  · intro f
    rw [check_eq_error encodes, unloadable_unforeseen]

/-- The workflow in the file is for pushes to `main`. -/
theorem check_exits_push :
    let args := ["check", "--event", "push", "--branch", "main", "--workflow", "ci.yml"]
    Invocation.read pushMachine.env args = .request false (.check ⟨"push", "main", some "ci.yml"⟩) ∧
    (execute .builtin args pushMachine).1 = .ok 0 := by
  intro args
  have asked : Invocation.read pushMachine.env args =
      .request false (.check ⟨"push", "main", some "ci.yml"⟩) := by decide +kernel
  have shown : (Workflow.load .builtin (Path.ofString "ci.yml")
      { pushMachine with encodes := true }).1.toOption.map Workflow.triggers =
      some [⟨"push", some ["main"]⟩] := by decide +kernel
  obtain ⟨w, n, loaded, triggers⟩ := exists_ok_of_seen shown
  refine ⟨asked, (check_exits asked).1.mpr ⟨_, .loaded "ci.yml" w n rfl loaded, ?_, ?_⟩⟩
  · rw [triggers]
    decide +kernel
  · decide +kernel

/-- Something that is no text stands where the workflow is looked for. -/
def unreadable (n : Node) : Machine where
  files := .dir [("ci.yml", n)]
  cwd := []
  temp := []

theorem check_ends_without_code :
    let args := ["check", "--event", "push", "--branch", "main", "--workflow", "ci.yml"]
    (execute .builtin args (unreadable .emptyDir)).1 =
      .error (.refused .isDirectory "/ci.yml") ∧
    ∃ e, (execute .builtin args (unreadable (.file (.binary [0xff])))).1 =
      .error (.undecodable e) := by
  intro args
  have asked : Invocation.read {} args =
      .request false (.check ⟨"push", "main", some "ci.yml"⟩) := by decide +kernel
  constructor
  · rw [execute, executeWith_of_request asked]
    rfl
  · rw [execute, executeWith_of_request asked]
    exact ⟨_, rfl⟩

end Command
end LocalCI
