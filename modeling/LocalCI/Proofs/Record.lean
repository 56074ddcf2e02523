import LocalCI.Proofs.Conduct

/-! What acting on a machine leaves alone: calls are only ever added to the record, and the machine's
own variables and accounts stay as they are. Which calls may be added is a parameter. -/
namespace LocalCI

open Attempt

/-- The second machine is the first after calls of one kind. -/
structure Machine.Adds (P : Call → Prop) (m n : Machine) : Prop where
  env : n.env = m.env
  accounts : n.accounts = m.accounts
  calls : ∃ made, n.calls = m.calls ++ made ∧ ∀ call ∈ made, P call

/-- Any call at all. -/
def Call.Any (_ : Call) : Prop := True

namespace Machine

variable {P Q : Call → Prop} {m n : Machine}

theorem Adds.of_same (env : n.env = m.env) (accounts : n.accounts = m.accounts)
    (calls : n.calls = m.calls) : m.Adds P n :=
  ⟨env, accounts, [], by simp [calls], by simp⟩

/-- Where no call is allowed, nothing was started. -/
theorem Adds.calls_eq (quiet : m.Adds (fun _ => False) n) : n.calls = m.calls := by
  obtain ⟨_, _, made, calls, none⟩ := quiet
  rw [calls, List.eq_nil_iff_forall_not_mem.mpr none, List.append_nil]

instance : IsPreorder Machine (Adds P) where
  refl _ := .of_same rfl rfl rfl
  trans := by
    rintro l m n ⟨env, accounts, made, calls, kind⟩ ⟨env', accounts', made', calls', kind'⟩
    refine ⟨env'.trans env, accounts'.trans accounts, made ++ made',
      by rw [calls', calls, List.append_assoc], ?_⟩
    intro call member
    rcases List.mem_append.mp member with member | member
    · exact kind call member
    · exact kind' call member

theorem adds_record {call : Call} (kind : P call) : m.Adds P (m.record call) :=
  ⟨rfl, rfl, [call], rfl, by simpa using kind⟩

end Machine

namespace Act

variable {P : Call → Prop}

theorem print_adds (lines : List Line) : Follows (Machine.Adds P) (print lines) :=
  print_conducts (fun _ _ => .of_same rfl rfl rfl) lines

theorem ofWorkflow_eq_ok {α : Type} {r : Except WorkflowError α} {m n : Machine} {a : α} :
    ofWorkflow r m = (.ok a, n) ↔ r = .ok a ∧ m = n := by
  rw [ofWorkflow, ofExcept_eq_ok]
  cases r with
  | ok b =>
    change Except.ok b = Except.ok a ∧ m = n ↔ _
    simp only [Except.ok.injEq]
  | error e =>
    change Except.error _ = Except.ok a ∧ m = n ↔ _
    simp only [reduceCtorEq, false_and]

theorem resolve_apply (p : Path) (m : Machine) : resolve p m = (m.resolve p, m) := rfl

theorem pathExists_apply (p : Path) (m : Machine) : pathExists p m = (m.pathExists p, m) := rfl

theorem pathIsDir_apply (p : Path) (m : Machine) : pathIsDir p m = (m.pathIsDir p, m) := rfl

theorem enter_eq_ok {l found : Location} {m n : Machine} :
    enter l m = (.ok found, n) ↔ m.files.enter l = .ok found ∧ m = n := by
  unfold enter
  rw [bind_of_ok (get_apply m)]
  cases m.files.enter l <;> simp

theorem enter_eq_error {l : Location} {m n : Machine} {f : Fault} : enter l m = (.error f, n) ↔
    ∃ why, m.files.enter l = .error why ∧ f = .refused why.refusal (Location.text l) ∧ m = n := by
  unfold enter
  rw [bind_of_ok (get_apply m)]
  cases m.files.enter l <;> simp [eq_comm]

/-- Starting a program adds one call, or none if its directory is not there. -/
theorem launch_cases (args : List String) (cwd : Option String) (env : Option Env) (m : Machine) :
    (launch args cwd env m).2 = m ∨
    (launch args cwd env m).2 = ({ m with answers := m.answers.tail } : Machine).afterAnswer
      (m.answers.headD {}) args cwd env := by
  unfold launch
  split
  · exact Or.inl rfl
  · right
    dsimp only
    split <;> rfl

theorem launch_adds {args : List String} {cwd : Option String} {env : Option Env}
    (kind : ∀ tree, P (.process args cwd env tree)) :
    Follows (Machine.Adds P) (launch args cwd env) := by
  intro m
  rcases launch_cases args cwd env m with same | added
  · rw [same]
    exact refl_of _ m
  · rw [added]
    exact ⟨rfl, rfl, [.process args cwd env _], rfl, by simpa using kind _⟩

end Act

/-- A program started with the given variables, or with those of the machine. -/
def Call.Inherits (env : Env) : Call → Prop
  | .process _ _ given _ => given = none ∨ given = some env
  | .action .. => False

/-- Every program a checkout starts has the variables of its context, or inherits. -/
theorem Checkout.run_adds (params : Entries) (c : Context) :
    Follows (Machine.Adds (Call.Inherits c.env)) (run params c) :=
  run_conducts (fun _ _ _ _ inherits => Act.launch_adds fun _ => inherits)
    (fun _ => Act.makeDirs_conducts fun _ _ _ => .of_same rfl rfl rfl)
    (fun _ _ => Act.launch_adds fun _ => Or.inr rfl) params

namespace Publisher

variable {P : Call → Prop}

theorem replaceTree_adds (worktree source : Location) :
    Follows (Machine.Adds P) (replaceTree worktree source) :=
  replaceTree_conducts (fun _ _ _ => .of_same rfl rfl rfl) (fun _ _ _ => .of_same rfl rfl rfl) source

theorem makeWorktree_adds : Follows (Machine.Adds P) makeWorktree :=
  makeWorktree_conducts fun _ _ _ => .of_same rfl rfl rfl

end Publisher
end LocalCI
